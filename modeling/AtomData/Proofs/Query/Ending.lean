import AtomData.Proofs.Query.Calls

/-!
# Which runs end

`runs_decided` says that as many calls for a page as there are replies, and one more, decide whether an
iteration and the run of a query come to an end.
-/

namespace AtomData

open Feed (pagePath)

namespace Service

/-- No address is silent. -/
def Responsive (s : Service) : Prop := ∀ url, s.transport.reply? url ≠ some .silence

theorem responsive_of_entries {s : Service}
    (answered : ∀ entry ∈ s.transport.replies.entries, entry.2 ≠ .silence) : s.Responsive := by
  intro url silent
  obtain ⟨entry, found, silence⟩ := Option.map_eq_some_iff.mp silent
  exact answered entry (List.mem_of_find?_eq_some found) silence

theorem Responsive.pageAnswer {s : Service} {m : Metadata} (h : s.Responsive) (remembered : s.loaded = some m)
    (path : String) : s.pageAnswer path ≠ .pending := by
  have document : s.documentAt path ≠ .pending := by
    unfold documentAt
    split
    · split <;> exact fun never => by cases never
    · rename_i silent
      exact absurd silent (h _)
    · exact fun never => by cases never
  rw [Service.pageAnswer, metadataAnswer_of_loaded remembered, Outcome.andThen]
  cases came : s.documentAt path with
  | ok body =>
    rw [Outcome.andThen]
    cases Page.ofText m s.coercions body <;> exact fun never => by cases never
  | error e => exact fun never => by cases never
  | pending => exact absurd came document

end Service

namespace Query

variable {s : Service} {m : Metadata} {path : String} {cap : Option Nat}

/-- The loop of the first run comes to an end, however many steps it takes. -/
def Ends (s : Service) (path : String) (cap : Option Nat) : Prop :=
  ∃ steps, (collect steps (.start path cap) { path, maxPages := cap, state := .executing } s).1 ≠ .pending

/-- The steps that a run is given are enough. -/
theorem ends_iff_execute (remembered : s.loaded = some m) :
    Ends s path cap ↔ (execute { path, maxPages := cap } s).1 ≠ .pending := by
  constructor
  · rintro ⟨steps, back⟩
    rcases collect_spec remembered steps (.start path cap) { path, maxPages := cap, state := .executing } with
      ⟨pages, o, fetches, result⟩ | ⟨pages, s', -, -, -, result⟩
    · rw [room_start] at fetches
      rw [result] at back
      rcases execute_spec s path cap with
        ⟨pages', o', fetches', result'⟩ | ⟨pages', s', received, within, length, -⟩
      · obtain ⟨-, rfl⟩ := fetches.unique fetches'
        rw [result']
        exact back
      · have few := fetches.length_le_of_receives received within
        have enough := length_lt_enoughSteps fetches
        omega
    · rw [result] at back
      exact absurd rfl back
  · exact fun back => ⟨_, back⟩

theorem ends_capped (responsive : s.Responsive) (remembered : s.loaded = some m) (path : String)
    (most : Nat) : Ends s path (some most) := by
  rw [ends_iff_execute remembered]
  rcases execute_spec s path (some most) with ⟨pages, o, fetches, result⟩ | ⟨pages, s', -, within, length, -⟩
  · rw [result]
    rintro rfl
    cases fetches with
    | hanging _ _ _ silent => exact responsive.pageAnswer remembered _ silent
  · have few := within most rfl
    rw [length, enoughSteps] at few
    exact absurd few (Nat.not_succ_le_self most)

theorem ends_uncapped_iff (responsive : s.Responsive) (remembered : s.loaded = some m) :
    Ends s path none ↔ ∃ n, ¬Feed.Arrives s.pageAnswer (some path) n := by
  rw [ends_iff_execute remembered]
  rcases execute_spec s path none with ⟨pages, o, fetches, result⟩ | ⟨pages, s', received, -, length, result⟩
  · rw [result]
    refine iff_of_true ?_ ⟨pages.length, ?_⟩
    · rintro rfl
      cases fetches with
      | hanging _ _ _ silent => exact responsive.pageAnswer remembered _ silent
    · rintro ⟨path', page, reached, came⟩
      exact fetches.stops page reached came
  · rw [result]
    refine iff_of_false (fun back => back rfl) ?_
    rintro ⟨n, absent⟩
    refine absent (s.arrives_of_first (fun i lt => received.arrives ?_) n)
    rw [length, enoughSteps]
    exact Nat.lt_succ_of_lt lt

end Query

namespace FeedPages

variable {s : Service} {m : Metadata} {path : String} {n : Nat}

theorem page?_eq_some_iff {o : Outcome (Option Page)} {page : Page} :
    page? o = some page ↔ o = .ok (some page) := by
  cases o <;> simp [page?]

theorem call_uncapped (remembered : s.loaded = some m) :
    (start path none).call s n = Feed.brings s.pageAnswer (pagePath s.pageAnswer (some path) n) :=
  call_eq remembered none path n

theorem finds_iff_arrives (remembered : s.loaded = some m) :
    (start path none).Finds s n ↔ Feed.Arrives s.pageAnswer (some path) n := by
  rw [Finds, call_uncapped remembered]
  constructor
  · rintro ⟨page, came⟩
    cases reached : pagePath s.pageAnswer (some path) n with
    | none =>
      rw [reached] at came
      cases came
    | some last =>
      rw [reached, Feed.brings] at came
      cases arrives : s.pageAnswer last with
      | ok page' => exact ⟨last, page', reached, arrives⟩
      | error e =>
        rw [arrives] at came
        cases came
      | pending =>
        rw [arrives] at came
        cases came
  · rintro ⟨last, page, reached, came⟩
    exact ⟨page, by rw [reached, Feed.brings, came]; rfl⟩

theorem call_of_not_arrives (responsive : s.Responsive) (remembered : s.loaded = some m)
    (absent : ¬Feed.Arrives s.pageAnswer (some path) n) :
    (start path none).call s n = .ok none ∨ ∃ e, (start path none).call s n = .error e := by
  rw [call_uncapped remembered]
  cases reached : pagePath s.pageAnswer (some path) n with
  | none => exact .inl rfl
  | some last =>
    cases came : s.pageAnswer last with
    | ok page => exact absurd ⟨last, page, reached, came⟩ absent
    | error e => exact .inr ⟨e, congrArg (Outcome.map some) came⟩
    | pending => exact absurd came (responsive.pageAnswer remembered last)

end FeedPages

namespace Service

structure DecidesRuns (s : Service) (path : String) : Prop where
  /-- Under a cap no more pages are requested than it allows, however often the iteration is called. -/
  requests : ∀ most n, ∃ urls, ((FeedPages.start path (some most)).afterCalls s n).2 = s.recording urls ∧
    urls.length ≤ most
  stops : ∀ most n, most ≤ n → (FeedPages.start path (some most)).Idle s n
  capped : ∀ most, Query.Ends s path (some most)
  /-- Without a cap, if one call more than there are replies finds a page, so does every call. -/
  loops : (∀ n < s.transport.replies.size + 1, (FeedPages.start path none).Finds s n) →
    ∀ n, (FeedPages.start path none).Finds s n
  /-- Else one of these calls finds that there are no more pages, or fails, and the iteration is over. -/
  ends : ¬(∀ n < s.transport.replies.size + 1, (FeedPages.start path none).Finds s n) →
    ∃ n < s.transport.replies.size + 1,
      ((FeedPages.start path none).call s n = .ok none ∨
        ∃ e, (FeedPages.start path none).call s n = .error e) ∧
      ∀ later > n, (FeedPages.start path none).Idle s later
  uncapped : Query.Ends s path none ↔
    ∃ n < s.transport.replies.size + 1, Feed.Closes s.pageAnswer (some path) n
  /-- A query that is run comes back just if its loop ends. -/
  executes : ∀ cap, (Query.execute { path, maxPages := cap } s).1 ≠ .pending ↔ Query.Ends s path cap

/-- On a service with its metadata and no silent address, a cap bounds any run, and without one as many
calls as there are replies, and one more, tell the runs that end from those that never do. -/
theorem runs_decided {s : Service} {m : Metadata} (remembered : s.loaded = some m)
    (responsive : s.Responsive) (path : String) : s.DecidesRuns path where
  requests most n :=
    ⟨s.urlsWithin (some most) path n, (FeedPages.stands_afterCalls remembered (some most) path n).2,
      (s.length_urlsWithin_le most path n).trans (Nat.min_le_right n most)⟩
  stops most n le := FeedPages.idle_of_pathWithin_none remembered (Feed.pathWithin_of_le le)
  capped := Query.ends_capped responsive remembered path
  loops first n := by
    simp only [FeedPages.finds_iff_arrives remembered] at first ⊢
    exact s.arrives_of_first first n
  ends stopped := by
    simp only [FeedPages.finds_iff_arrives remembered, not_forall] at stopped
    obtain ⟨n, lt, absent⟩ := stopped
    refine ⟨n, lt, FeedPages.call_of_not_arrives responsive remembered absent, fun later after => ?_⟩
    exact FeedPages.idle_of_pathWithin_none remembered (Feed.pagePath_of_not_arrives absent after)
  uncapped := by
    rw [Query.ends_uncapped_iff responsive remembered]
    constructor
    · rintro ⟨n, absent⟩
      -- The first calls already show it, or all pages would come.
      have early : ∃ i < s.transport.replies.size + 1, ¬Feed.Arrives s.pageAnswer (some path) i := by
        by_contra all
        push Not at all
        exact absent (s.arrives_of_first all n)
      obtain ⟨i, lt, absent⟩ := early
      obtain ⟨k, le, closes⟩ :=
        Feed.exists_closes_of_not_arrives (responsive.pageAnswer remembered) absent
      exact ⟨k, Nat.lt_of_le_of_lt le lt, closes⟩
    · rintro ⟨n, -, closes⟩
      exact closes.exists_not_arrives
  executes _ := (Query.ends_iff_execute remembered).symm

section Kennel

/-- A kennel whose feed of dogs leads back to itself, while the feed of cats has one page. -/
private def roundService : Service where
  root := "http://kennel"
  policy := .strict
  coercions := .empty
  transport := {
    replies := ⟨[
      ("http://kennel/Dogs", .answer ⟨200, "<feed><link rel='next' href='Dogs?page=2'/></feed>"⟩),
      ("http://kennel/Dogs?page=2", .answer ⟨200, "<feed><link rel='next' href='Dogs'/></feed>"⟩),
      ("http://kennel/Cats", .answer ⟨200, "<feed/>"⟩)], by decide⟩
    requests := [] }
  loaded := some ⟨[], []⟩

/-- Four pages of dogs mean that there are dogs without end, unless the run has a cap. -/
theorem runs_decided_kennel :
    roundService.loaded = some ⟨[], []⟩ ∧ roundService.Responsive ∧
    (∀ n, (FeedPages.start "Dogs" none).Finds roundService n) ∧
    Query.Ends roundService "Dogs" (some 100) ∧ Query.Ends roundService "Cats" none := by
  have responsive : roundService.Responsive := responsive_of_entries (by decide)
  have dogs := runs_decided rfl responsive "Dogs"
  have cats := runs_decided rfl responsive "Cats"
  refine ⟨rfl, responsive, dogs.loops ?_, dogs.capped 100, ?_⟩
  · have first : ∀ n < 4, (FeedPages.page? ((FeedPages.start "Dogs" none).call roundService n)).isSome := by
      decide +kernel
    intro n lt
    obtain ⟨page, found⟩ := Option.isSome_iff_exists.mp (first n lt)
    exact ⟨page, FeedPages.page?_eq_some_iff.mp found⟩
  · have last : (roundService.pageAnswer "Cats").result?.map Page.nextLink = some none := by decide +kernel
    obtain ⟨page, came, link⟩ := Option.map_eq_some_iff.mp last
    have came := Outcome.result?_eq_some_iff.mp came
    exact cats.uncapped.mpr ⟨0, Nat.succ_pos _, "Cats", rfl, .inr ⟨page, came, link⟩⟩

end Kennel

end Service

end AtomData
