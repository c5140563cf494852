import AtomData.Proofs.Query.Execution
import AtomData.Proofs.Query.Path
import AtomData.Query.Plan

/-!
# The first entity

Asking for the first entity fetches one page of a limited query, whatever cap the plan has.
`first_decided` compares this with running the limited query to its end, which may still fail on a later
page, and says how the limit changes the path.
-/

namespace AtomData

open Feed (Fetches)

theorem Text.join_concat {sep piece : List Char} {ps : List (List Char)} (any : ps ≠ []) :
    join sep (ps ++ [piece]) = join sep ps ++ sep ++ piece := by
  induction ps with
  | nil => exact absurd rfl any
  | cons p ps ih =>
    cases ps with
    | nil => rfl
    | cons q ps =>
      have later := ih (List.cons_ne_nil q ps)
      rw [List.cons_append, List.cons_append] at *
      rw [join, join, later]
      simp

/-! ### One page -/

theorem Query.all_of_execute {q q' : Query} {s t : Service} {o : Outcome Unit}
    (ran : q.execute s = (o, q', t)) : q.all s = (o.map fun () => q'.entities, t) := by
  rw [all, ask, ran]
  rfl

namespace QueryPlan

theorem execute_capped_one (p : QueryPlan) (s : Service) :
    (p.capped 1).execute s =
      ((FeedPages.fetchPage p.path s).1.map Page.entities, (FeedPages.fetchPage p.path s).2) := by
  have one : (FeedPages.start p.path (some 1)).next s = _ := FeedPages.next_of_path rfl rfl s
  have run : (p.capped 1).query.execute s =
      Query.collect 2 (.start p.path (some 1)) { (p.capped 1).query with state := .executing } s := rfl
  rcases fetched : FeedPages.fetchPage p.path s with ⟨o, t⟩
  rw [fetched] at one
  rw [Query.collect, one] at run
  cases o with
  | ok page =>
    dsimp only at run
    unfold Query.collect at run
    rw [FeedPages.next_of_atCap rfl t] at run
    exact Query.all_of_execute run
  | error e => exact Query.all_of_execute run
  | pending => exact Query.all_of_execute run

theorem fetchPage_recorded (path : String) (s : Service) :
    FeedPages.fetchPage path s = (s.pageAnswer path,
      s.afterMetadata.recording (if s.metadataAnswer.result?.isSome then [s.urlFor path] else [])) := by
  cases had : s.metadataAnswer.result? with
  | none =>
    rw [FeedPages.fetchPage_of_no_metadata path had]
    exact congrArg _ s.afterMetadata.recording_nil.symm
  | some m =>
    rw [FeedPages.fetchPage_of_metadata path (Outcome.result?_eq_some_iff.mp had)]
    rfl

theorem first_eq (p : QueryPlan) (s : Service) :
    p.first s = ((s.pageAnswer p.limited.path).map fun page => page.entities.head?,
      s.afterMetadata.recording
        (if s.metadataAnswer.result?.isSome then [s.urlFor p.limited.path] else [])) := by
  have ran := p.limited.execute_capped_one s
  rw [fetchPage_recorded] at ran
  refine (Call.bind_eq ran).trans ?_
  cases s.pageAnswer p.limited.path <;> rfl

theorem first_answer {p : QueryPlan} {s : Service} {o : Outcome Page}
    (answer : s.pageAnswer p.limited.path = o) :
    (p.first s).1 = o.map fun page => page.entities.head? := by
  rw [first_eq, answer]

/-! ### All pages -/

theorem maxPages_limited (p : QueryPlan) : p.limited.maxPages = p.maxPages := by
  rw [limited]
  split <;> rfl

theorem execute_cases (p : QueryPlan) (s : Service) :
    (p.execute s).1 = .pending ∨
      ∃ pages o, Fetches s.pageAnswer p.maxPages (some p.path) pages o ∧
        (p.execute s).1 = o.map fun () => pages.flatMap Page.entities := by
  rcases Query.execute_spec s p.path p.maxPages with ⟨pages, o, fetches, ran⟩ | ⟨pages, t, -, -, -, ran⟩
  · have all : p.execute s = _ := Query.all_of_execute ran
    rw [all]
    exact .inr ⟨pages, o, fetches, rfl⟩
  · have all : p.execute s = _ := Query.all_of_execute ran
    rw [all]
    exact .inl rfl

theorem fetches_of_ok {p : QueryPlan} {s : Service} {es : List Entity} (given : (p.execute s).1 = .ok es) :
    ∃ pages, Fetches s.pageAnswer p.maxPages (some p.path) pages (.ok ()) ∧
      es = pages.flatMap Page.entities := by
  rcases p.execute_cases s with waits | ⟨pages, o, fetches, ran⟩
  · cases given.symm.trans waits
  · rw [given] at ran
    cases o with
    | ok => exact ⟨pages, fetches, Outcome.ok.inj ran⟩
    | error e => cases ran
    | pending => cases ran

theorem fetches_of_error {p : QueryPlan} {s : Service} {e : Error} (failed : (p.execute s).1 = .error e) :
    ∃ pages, Fetches s.pageAnswer p.maxPages (some p.path) pages (.error e) := by
  rcases p.execute_cases s with waits | ⟨pages, o, fetches, ran⟩
  · cases failed.symm.trans waits
  · rw [failed] at ran
    cases o with
    | ok => cases ran
    | error e' =>
      obtain rfl := Outcome.error.inj ran
      exact ⟨pages, fetches⟩
    | pending => cases ran

section Fetched
variable {answer : String → Outcome Page} {cap : Option Nat} {path : String} {page : Page} {more : List Page}
  {o : Outcome Unit}

theorem answer_of_fetches (fetches : Fetches answer cap (some path) (page :: more) o) :
    answer path = .ok page := by
  obtain ⟨path', reached, arrives⟩ := fetches.receives 0 (by simp)
  obtain rfl := Option.some.inj reached
  exact arrives

theorem failed_of_fetches_nil (fetches : Fetches answer cap (some path) [] o) (room : cap ≠ some 0) :
    o = .pending ∨ ∃ e, o = .error e ∧ answer path = .error e := by
  cases fetches with
  | capped _ full => exact absurd full room
  | exhausted _ _ last => cases last
  | broken _ _ reached failed =>
    obtain rfl := Option.some.inj reached
    exact .inr ⟨_, rfl, failed⟩
  | hanging => exact .inl rfl

end Fetched

/-! ### The limit -/

theorem hasTop_iff {options : QueryOptions} :
    options.hasTop = true ↔ ∃ n, QueryOption.top n ∈ options.toList := by
  rw [QueryOptions.hasTop, List.any_eq_true]
  constructor
  · rintro ⟨o, mem, top⟩
    cases o with
    | top n => exact ⟨n, mem⟩
    | _ => cases top
  · rintro ⟨n, mem⟩
    exact ⟨_, mem, rfl⟩

theorem path_top_one (p : QueryPlan) :
    (p.top 1).path = p.path ++ (if p.options.toList = [] then "?" else "&") ++ "$top=1" := by
  have listed : (p.top 1).options.toList = p.options.toList ++ [.top 1] := rfl
  have assignment : (QueryOption.top 1).assignment = "$top=1".toList := by decide
  have some : (p.top 1).options.toList ≠ [] := by simp [listed]
  apply String.toList_injective
  rw [path, QueryOptions.toList_path some, listed, List.map_append, List.map_singleton, assignment]
  show p.href.toList ++ _ = _
  by_cases none : p.options.toList = []
  · have bare : p.path = p.href := QueryOptions.path_eq_href_iff.mpr none
    rw [bare, if_pos none, none]
    simp [Text.join]
  · rw [if_neg none, Text.join_concat (by simpa using none), path, String.toList_append, String.toList_append,
      QueryOptions.toList_path none]
    simp

/-- How the first entity agrees with what running the limited plan comes to. -/
structure AgreesWithRun (p : QueryPlan) (s : Service) : Prop where
  answer : (p.first s).1 = (s.pageAnswer p.limited.path).map fun page => page.entities.head?
  service : (p.first s).2 = s.afterMetadata.recording
    (if s.metadataAnswer.result?.isSome then [s.urlFor p.limited.path] else [])
  complete : p.maxPages ≠ some 0 → ∀ es, (p.limited.execute s).1 = .ok es →
    ∃ page more, Fetches s.pageAnswer p.maxPages (some p.limited.path) (page :: more) (.ok ()) ∧
      es = page.entities ++ more.flatMap Page.entities ∧ (p.first s).1 = .ok page.entities.head? ∧
      (page.entities ≠ [] → (p.first s).1 = .ok es.head?)
  failing : p.maxPages ≠ some 0 → ∀ e, (p.limited.execute s).1 = .error e →
    (∃ page more, Fetches s.pageAnswer p.maxPages (some p.limited.path) (page :: more) (.error e) ∧
      (p.first s).1 = .ok page.entities.head?) ∨
    Fetches s.pageAnswer p.maxPages (some p.limited.path) [] (.error e) ∧ (p.first s).1 = .error e

/-- Asking for the first entity requests one page at most, whatever cap the plan has, and gives the head of
that page.  Unless the cap is zero, it gives the head of what the limited plan gives, a failure on the
first page, and no failure on a later one.  The limited plan has the options of the plan, and a limit of
one at the end if they have none. -/
theorem first_decided (p : QueryPlan) (s : Service) :
    AgreesWithRun p s ∧
    (p.options.hasTop = true ↔ ∃ n, QueryOption.top n ∈ p.options.toList) ∧
    (p.options.hasTop = true → p.limited = p) ∧
    (p.options.hasTop = false → p.limited = p.top 1 ∧
      p.limited.options.toList = p.options.toList ++ [.top 1] ∧
      p.limited.path = p.path ++ (if p.options.toList = [] then "?" else "&") ++ "$top=1") := by
  refine ⟨⟨first_answer rfl, by rw [first_eq], ?_, ?_⟩, hasTop_iff, ?_, ?_⟩
  · intro room es given
    obtain ⟨pages, fetches, rfl⟩ := fetches_of_ok given
    rw [maxPages_limited] at fetches
    cases pages with
    | nil =>
      rcases failed_of_fetches_nil fetches room with waits | ⟨e, failed, -⟩
      · cases waits
      · cases failed
    | cons page more =>
      have first := first_answer (answer_of_fetches fetches)
      refine ⟨page, more, fetches, rfl, first, fun some => ?_⟩
      rw [List.flatMap_cons, List.head?_append_of_ne_nil _ some]
      exact first
  · intro room e failed
    obtain ⟨pages, fetches⟩ := fetches_of_error failed
    rw [maxPages_limited] at fetches
    cases pages with
    | nil =>
      rcases failed_of_fetches_nil fetches room with waits | ⟨e', same, failed⟩
      · cases waits
      · obtain rfl := Outcome.error.inj same
        exact .inr ⟨fetches, first_answer failed⟩
    | cons page more => exact .inl ⟨page, more, fetches, first_answer (answer_of_fetches fetches)⟩
  · intro top
    rw [limited, if_pos top]
  · intro none
    have same : p.limited = p.top 1 := by rw [limited, none]; rfl
    rw [same]
    exact ⟨rfl, rfl, p.path_top_one⟩

end QueryPlan

end AtomData
