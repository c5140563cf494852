import AtomData.Proofs.Query.Execution
import AtomData.Proofs.Service.Errands

/-!
# Errands of a query

The errands of a page iteration and of a query: `next_cases` and `execute_ran` say what these make of the
iteration, the query and the service, and `led_collectErrands` that the metadata come first.
-/

namespace AtomData

namespace FeedPages

variable {p : FeedPages}

def Asks (p : FeedPages) : Prop := p.atCap = false ∧ p.nextPath ≠ none

def errands (p : FeedPages) (s : Service) : List Errand :=
  if p.atCap then []
  else
    match p.nextPath with
    | none => []
    | some path => s.withMetadata (.page path (s.pageAnswer path))

theorem next_cases (p : FeedPages) (s : Service) :
    (¬p.Asks ∧ p.errands s = [] ∧ (p.next s).1 = .ok none ∧ (p.next s).2.1.nextPath = none ∧
      (p.next s).2.2 = s) ∨
    ∃ path, p.nextPath = some path ∧ p.Asks ∧
      p.errands s = s.withMetadata (.page path (s.pageAnswer path)) ∧
      (p.next s).1 = (s.pageAnswer path).map some ∧
      (p.next s).2.1.nextPath = (s.pageAnswer path).result?.bind Page.nextLink ∧
      (p.next s).2.2 = s.carry (p.errands s) := by
  by_cases full : p.atCap = true
  · rw [next_of_atCap full]
    exact .inl ⟨fun asks => by simp [Asks, full] at asks, by simp [errands, full], rfl, rfl, rfl⟩
  · have free := eq_false_of_ne_true full
    cases more : p.nextPath with
    | none =>
      rw [next_of_end free more]
      exact .inl ⟨fun asks => asks.2 more, by simp [errands, more], rfl, more, rfl⟩
    | some path =>
      have same : p.errands s = s.withMetadata (.page path (s.pageAnswer path)) := by
        simp [errands, free, more]
      refine .inr ⟨path, rfl, ⟨free, by simp [more]⟩, same, ?_⟩
      rw [next_of_path free more, fetchPage_eq, same]
      cases s.pageAnswer path <;> exact ⟨rfl, rfl, rfl⟩

theorem next_service (p : FeedPages) (s : Service) : (p.next s).2.2 = s.carry (p.errands s) := by
  rcases p.next_cases s with ⟨-, idle, -, -, same⟩ | ⟨path, -, -, -, -, -, after⟩
  · rw [same, idle, Service.carry_nil]
  · exact after

theorem errands_of_idle (idle : ¬p.Asks) (s : Service) : p.errands s = [] := by
  rcases p.next_cases s with ⟨-, none, -⟩ | ⟨path, -, asks, -⟩
  · exact none
  · exact absurd asks idle

theorem led_errands (asks : p.Asks) (s : Service) : s.Led (p.errands s) := by
  rcases p.next_cases s with ⟨idle, -⟩ | ⟨path, -, -, same, -⟩
  · exact absurd asks idle
  · exact same ▸ s.led_page path

theorem next_follows (asks : p.Asks) (s : Service) : (p.next s).1.Follows s.metadataAnswer := by
  rcases p.next_cases s with ⟨idle, -⟩ | ⟨path, -, -, -, came, -⟩
  · exact absurd asks idle
  · rw [came]
    exact (Outcome.follows_andThen _ _).map some

theorem entities_errands (p : FeedPages) (s : Service) :
    (p.errands s).flatMap Errand.entities =
      match (p.next s).1 with
      | .ok (some page) => page.entities
      | _ => [] := by
  rcases p.next_cases s with ⟨-, none, ended, -⟩ | ⟨path, -, -, same, came, -⟩
  · rw [none, ended]
    rfl
  · have failed (none : s.metadataAnswer.result? = none) :
        Errand.entities (.page path (s.pageAnswer path)) = [] :=
      Errand.entities_page_of_none (Outcome.result?_andThen_of_none none _)
    rw [same, came, Service.entities_withMetadata failed]
    cases s.pageAnswer path <;> rfl

end FeedPages

namespace Query

def collectErrands : (steps : Nat) → FeedPages → Service → List Errand
  | 0, _, _ => []
  | steps + 1, pages, s =>
    pages.errands s ++
      match pages.next s with
      | (.ok (some _), pages, s) => collectErrands steps pages s
      | _ => []

def errands (q : Query) (s : Service) : List Errand :=
  match q.state with
  | .built => collectErrands (q.enoughSteps s) (FeedPages.start q.path q.maxPages) s
  | _ => []

def Asks (q : Query) : Prop := q.state = .built ∧ q.maxPages ≠ some 0

structure Ran (q : Query) (s : Service) (es : List Errand) (q' : Query) (s' : Service) : Prop where
  service : s' = s.carry es
  entities : q'.entities = q.entities ++ es.flatMap Errand.entities
  path : q'.path = q.path

/-! ### The loop -/

theorem ran_nothing {q q' : Query} (entities : q'.entities = q.entities) (path : q'.path = q.path)
    (s : Service) : q.Ran s [] q' s where
  service := s.carry_nil.symm
  entities := entities.trans (List.append_nil _).symm
  path := path

theorem ran_last {p p' : FeedPages} {q q' : Query} {s s' : Service} {o : Outcome (Option Page)}
    (next : p.next s = (o, p', s')) (stops : ∀ page, o ≠ .ok (some page))
    (entities : q'.entities = q.entities) (path : q'.path = q.path) :
    q.Ran s (p.errands s ++ []) q' s' where
  service := by
    rw [List.append_nil, ← p.next_service, next]
  entities := by
    have none := p.entities_errands s
    rw [next] at none
    rw [List.append_nil, none, entities]
    rcases o with (_ | page) | _ | _
    · exact (List.append_nil _).symm
    · exact absurd rfl (stops page)
    · exact (List.append_nil _).symm
    · exact (List.append_nil _).symm
  path := path

theorem collect_ran (steps : Nat) (p : FeedPages) (q : Query) (s : Service) :
    q.Ran s (collectErrands steps p s) (collect steps p q s).2.1 (collect steps p q s).2.2 := by
  induction steps generalizing p q s with
  | zero => exact ran_nothing rfl rfl s
  | succ steps ih =>
    rw [collect, collectErrands]
    rcases next : p.next s with ⟨(_ | page) | _ | _, p', s'⟩
    · exact ran_last next (fun _ more => by cases more) rfl rfl
    · have service := p.next_service s
      have entities := p.entities_errands s
      rw [next] at service entities
      have rest := ih p' (q.receive page) s'
      exact {
        service := by
          rw [rest.service, Service.carry_append, ← service]
        entities := by
          rw [rest.entities, List.flatMap_append, entities, receive, List.append_assoc]
        path := rest.path }
    · exact ran_last next (fun _ more => by cases more) rfl rfl
    · exact ran_last next (fun _ more => by cases more) rfl rfl

theorem collectErrands_of_loaded {m : Metadata} (steps : Nat) (p : FeedPages) {s : Service}
    (remembered : s.loaded = some m) :
    ∀ e ∈ collectErrands steps p s, e.isLoad = false ∧ e.ReadWith s (some m) := by
  induction steps generalizing p s with
  | zero => simp [collectErrands]
  | succ steps ih =>
    have first : ∀ e ∈ p.errands s, e.isLoad = false ∧ e.ReadWith s (some m) := by
      by_cases asks : p.Asks
      · exact (FeedPages.led_errands asks s).of_loaded remembered
      · simp [FeedPages.errands_of_idle asks s]
    have kept := (Service.loaded_carry_of_others (fun e mem => (first e mem).1) s).trans remembered
    have after := p.next_service s
    rw [collectErrands, List.forall_mem_append]
    refine ⟨first, ?_⟩
    rcases next : p.next s with ⟨(_ | page) | _ | _, p', s'⟩
    · simp
    · rw [next] at after
      subst after
      exact ih p' kept
    · simp
    · simp

theorem led_collectErrands {p : FeedPages} (steps : Nat) (asks : p.Asks) (s : Service) :
    s.Led (collectErrands (steps + 1) p s) := by
  have first := FeedPages.led_errands asks s
  have follows := FeedPages.next_follows asks s
  have after := p.next_service s
  rw [collectErrands]
  rcases next : p.next s with ⟨(_ | page) | _ | _, p', s'⟩
  · exact first.append (fun _ => rfl) (by simp)
  · rw [next] at after follows
    subst after
    -- A page came, so the metadata are there, and the loop goes on with them remembered.
    obtain ⟨m, had⟩ := follows.result rfl
    have kept : (s.carry (p.errands s)).loaded = some m := by rw [first.loaded, had]; rfl
    rw [← Outcome.result?_eq_some_iff] at had
    refine first.append (fun failed => by rw [had] at failed; cases failed) ?_
    rw [had]
    exact collectErrands_of_loaded steps p' kept
  · exact first.append (fun _ => rfl) (by simp)
  · exact first.append (fun _ => rfl) (by simp)

theorem collect_follows {p : FeedPages} (steps : Nat) (asks : p.Asks) (q : Query) (s : Service) :
    (collect (steps + 1) p q s).1.Follows s.metadataAnswer := by
  have first : (collect (steps + 1) p q s).1.Follows (p.next s).1 := by
    rw [collect]
    rcases p.next s with ⟨(_ | page) | _ | _, p', s'⟩ <;> trivial
  exact first.trans (FeedPages.next_follows asks s)

/-! ### A query -/

variable {q : Query}

theorem start_asks_iff {path : String} {cap : Option Nat} :
    (FeedPages.start path cap).Asks ↔ cap ≠ some 0 := by
  cases cap <;> simp [FeedPages.Asks, FeedPages.start, FeedPages.atCap]

theorem execute_of_built (built : q.state = .built) (s : Service) :
    q.execute s = collect (q.enoughSteps s) (.start q.path q.maxPages) { q with state := .executing } s := by
  simp only [execute, built]

theorem errands_of_built (built : q.state = .built) (s : Service) :
    q.errands s = collectErrands (q.enoughSteps s) (.start q.path q.maxPages) s := by
  simp only [errands, built]

theorem errands_of_run (run : q.state ≠ .built) (s : Service) : q.errands s = [] := by
  cases state : q.state with
  | built => exact absurd state run
  | executing => simp only [errands, state]
  | done => simp only [errands, state]
  | failed message => simp only [errands, state]

theorem execute_ran (q : Query) (s : Service) :
    q.Ran s (q.errands s) (q.execute s).2.1 (q.execute s).2.2 := by
  cases state : q.state with
  | built =>
    rw [execute_of_built state, errands_of_built state]
    have run := collect_ran (q.enoughSteps s) (.start q.path q.maxPages) { q with state := .executing } s
    exact ⟨run.service, run.entities, run.path⟩
  | executing =>
    simp only [execute, errands, state]
    apply ran_nothing <;> rfl
  | done =>
    simp only [execute, errands, state]
    apply ran_nothing <;> rfl
  | failed message =>
    simp only [execute, errands, state]
    apply ran_nothing <;> rfl

theorem errands_of_idle (idle : ¬q.Asks) (s : Service) : q.errands s = [] := by
  by_cases built : q.state = .built
  · have ended : ¬(FeedPages.start q.path q.maxPages).Asks := fun asks => idle ⟨built, start_asks_iff.mp asks⟩
    obtain ⟨steps, positive⟩ := enoughSteps_pos q s
    rw [errands_of_built built, positive, collectErrands]
    rcases FeedPages.next_cases (.start q.path q.maxPages) s with ⟨-, none, last, -⟩ | ⟨-, -, asks, -⟩
    · rcases next : FeedPages.next (.start q.path q.maxPages) s with ⟨o, p', s'⟩
      rw [next] at last
      subst last
      rw [none]
      rfl
    · exact absurd asks ended
  · exact errands_of_run built s

theorem led_query_errands (asks : q.Asks) (s : Service) : s.Led (q.errands s) := by
  obtain ⟨steps, positive⟩ := enoughSteps_pos q s
  rw [errands_of_built asks.1, positive]
  exact led_collectErrands steps (start_asks_iff.mpr asks.2) s

theorem execute_follows (asks : q.Asks) (s : Service) : (q.execute s).1.Follows s.metadataAnswer := by
  obtain ⟨steps, positive⟩ := enoughSteps_pos q s
  rw [execute_of_built asks.1, positive]
  exact collect_follows steps (start_asks_iff.mpr asks.2) _ s

end Query

end AtomData
