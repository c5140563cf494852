import AtomData.Proofs.Query.Feed
import AtomData.Query.Run

/-!
# Running a query

A query receives the pages of its feed one after another, each once.  `collect_spec` follows the
loop on a service that has its metadata, and `execute_fetches` says what the first run of a query
comes to on any service, what the query holds then, and what was requested.
-/

namespace AtomData

open Feed (Fetches Receives pagePath)

namespace Service

def pageUrls (s : Service) (start : Option String) (n : Nat) : List String :=
  (List.range n).filterMap fun i => (pagePath s.pageAnswer start i).map s.urlFor

/-- What a run requests that asks for `n` pages: the metadata document first, unless the metadata
are remembered or no page is asked for, and then page after page. -/
def feedRequests (s : Service) (path : String) (n : Nat) : List String :=
  if n = 0 then []
  else s.metadataRequests ++ if s.metadataAnswer.result?.isSome then s.pageUrls (some path) n else []

def afterFeed (s : Service) (path : String) (n : Nat) : Service :=
  { s.recording (s.feedRequests path n) with
    loaded := if n = 0 then s.loaded else s.metadataAnswer.result? }

theorem pageUrls_succ {s : Service} {path : String} {page : Page} (arrives : s.pageAnswer path = .ok page)
    (n : Nat) : s.pageUrls (some path) (n + 1) = s.urlFor path :: s.pageUrls page.nextLink n := by
  rw [pageUrls, List.range_succ_eq_map]
  show s.urlFor path :: List.filterMap _ (List.map Nat.succ (List.range n)) = _
  rw [List.filterMap_map, pageUrls]
  congr 2
  funext i
  exact congrArg (Option.map s.urlFor) (Feed.pagePath_succ arrives i)

theorem pageUrls_afterMetadata {s : Service} {m : Metadata} (had : s.metadataAnswer = .ok m) :
    s.afterMetadata.pageUrls = s.pageUrls := by
  funext start n
  rw [pageUrls, pageUrls, pageAnswer_afterMetadata had]
  rfl

theorem afterFeed_of_metadata {s : Service} {m : Metadata} (had : s.metadataAnswer = .ok m) {path : String}
    {n : Nat} (asked : n ≠ 0) :
    s.afterFeed path n = s.afterMetadata.recording (s.pageUrls (some path) n) := by
  have requests : s.feedRequests path n = s.metadataRequests ++ s.pageUrls (some path) n := by
    rw [feedRequests, if_neg asked, had]
    rfl
  rw [afterFeed, requests, if_neg asked, ← recording_recording]
  rfl

theorem afterFeed_of_no_metadata {s : Service} (failed : s.metadataAnswer.result? = none) (path : String) :
    s.afterFeed path 1 = s.afterMetadata := by
  have requests : s.feedRequests path 1 = s.metadataRequests := by
    rw [feedRequests, failed]
    exact List.append_nil _
  rw [afterFeed, requests]
  rfl

end Service

def attempts (n : Nat) : Outcome Unit → Nat
  | .ok () => n
  | .error _ => n + 1
  | .pending => n + 1

theorem Feed.Fetches.attempts_ne_zero {answer : String → Outcome Page} {cap : Option Nat} {path : String}
    {pages : List Page} {o : Outcome Unit} (h : Fetches answer cap (some path) pages o)
    (room : ∀ most ∈ cap, 0 < most) : attempts pages.length o ≠ 0 := by
  cases h with
  | capped _ full => exact Nat.ne_of_gt (room _ full)
  | exhausted _ _ last =>
    intro none
    rw [attempts] at none
    rw [none] at last
    cases last
  | broken => exact Nat.succ_ne_zero _
  | hanging => exact Nat.succ_ne_zero _

theorem attempts_succ (n : Nat) (o : Outcome Unit) : attempts (n + 1) o = attempts n o + 1 := by
  cases o <;> rfl

namespace FeedPages

/-- How many more pages the cap allows. -/
def room (p : FeedPages) : Option Nat := p.maxPages.map (· - p.fetched)

theorem room_of_atCap {p : FeedPages} (full : p.atCap = true) : p.room = some 0 := by
  cases capped : p.maxPages with
  | none => simp [atCap, capped] at full
  | some most =>
    rw [atCap, capped, Option.any_some, decide_eq_true_iff] at full
    rw [room, capped, Option.map_some, Nat.sub_eq_zero_of_le full]

theorem pos_of_mem_room {p : FeedPages} {most : Nat} (free : p.atCap = false) (h : most ∈ p.room) :
    0 < most := by
  obtain ⟨cap, capped, rfl⟩ := Option.mem_map.mp h
  rw [atCap, capped, Option.any_some, decide_eq_false_iff_not] at free
  omega

theorem room_succ (p : FeedPages) (link : Option String) :
    room { p with nextPath := link, fetched := p.fetched + 1 } = p.room.map (· - 1) := by
  rw [room, room, Option.map_map]
  rfl

theorem next_of_atCap {p : FeedPages} (full : p.atCap = true) (s : Service) :
    p.next s = (.ok none, { p with nextPath := none }, s) := by
  rw [next]
  simp only [full, if_true]

theorem next_of_end {p : FeedPages} (free : p.atCap = false) (last : p.nextPath = none) (s : Service) :
    p.next s = (.ok none, p, s) := by
  simp only [next, free, last, Bool.false_eq_true, if_false]

theorem next_of_path {p : FeedPages} {path : String} (free : p.atCap = false)
    (more : p.nextPath = some path) (s : Service) :
    p.next s =
      match fetchPage path s with
      | (.ok page, s) =>
        (.ok (some page), { p with nextPath := page.nextLink, fetched := p.fetched + 1 }, s)
      | (.error e, s) => (.error e, { p with nextPath := none }, s)
      | (.pending, s) => (.pending, { p with nextPath := none }, s) := by
  rcases fetched : fetchPage path s with ⟨o, s'⟩
  cases o <;> simp only [next, free, more, fetched, Bool.false_eq_true, if_false]

theorem next_of_loaded {p : FeedPages} {path : String} {s : Service} {m : Metadata}
    (remembered : s.loaded = some m) (free : p.atCap = false) (more : p.nextPath = some path) :
    p.next s =
      match s.pageAnswer path with
      | .ok page => (.ok (some page), { p with nextPath := page.nextLink, fetched := p.fetched + 1 },
          s.recording [s.urlFor path])
      | .error e => (.error e, { p with nextPath := none }, s.recording [s.urlFor path])
      | .pending => (.pending, { p with nextPath := none }, s.recording [s.urlFor path]) := by
  have had := Service.metadataAnswer_of_loaded remembered
  rw [next_of_path free more, fetchPage_of_metadata path had, Service.afterMetadata_of_loaded remembered]
  cases s.pageAnswer path <;> rfl

end FeedPages

namespace Query

def receiveAll (q : Query) (pages : List Page) : Query := pages.foldl receive q

/-- The query when a run has come to an outcome.  A run that does not come back leaves it as it is. -/
def settle (q : Query) : Outcome Unit → Query
  | .ok () => { q with state := .done }
  | .error e => { q with state := .failed e.message }
  | .pending => q

theorem receiveAll_eq (q : Query) (pages : List Page) :
    q.receiveAll pages =
      { q with
        totalCount := if q.pagesFetched = 0 then (pages.head?.elim q.totalCount Page.totalCount) else q.totalCount
        pagesFetched := q.pagesFetched + pages.length
        entities := q.entities ++ pages.flatMap Page.entities } := by
  induction pages generalizing q with
  | nil => simp [receiveAll]
  | cons page pages ih =>
    have later : (q.receive page).pagesFetched ≠ 0 := Nat.succ_ne_zero _
    rw [receiveAll, List.foldl_cons, ← receiveAll, ih, if_neg later]
    simp [receive, Nat.add_assoc, Nat.add_comm 1]

theorem collect_of_page {s : Service} {m : Metadata} {p : FeedPages} {path : String} {page : Page}
    (remembered : s.loaded = some m) (free : p.atCap = false) (more : p.nextPath = some path)
    (arrives : s.pageAnswer path = .ok page) (steps : Nat) (q : Query) :
    collect (steps + 1) p q s =
      collect steps { p with nextPath := page.nextLink, fetched := p.fetched + 1 } (q.receive page)
        (s.recording [s.urlFor path]) := by
  rw [collect, FeedPages.next_of_loaded remembered free more, arrives]

/-- A run of the loop stops after pages of the feed, or takes all its steps for pages of the feed. -/
theorem collect_spec {s : Service} {m : Metadata} (remembered : s.loaded = some m) (steps : Nat)
    (p : FeedPages) (q : Query) :
    (∃ pages o, Fetches s.pageAnswer p.room p.nextPath pages o ∧
      collect steps p q s = (o, (q.receiveAll pages).settle o,
        s.recording (s.pageUrls p.nextPath (attempts pages.length o)))) ∨
    ∃ pages s', pages.length = steps ∧ Receives s.pageAnswer p.nextPath pages ∧
      (∀ most ∈ p.room, steps ≤ most) ∧ collect steps p q s = (.pending, q.receiveAll pages, s') := by
  induction steps generalizing p q s with
  | zero => exact Or.inr ⟨[], s, rfl, Feed.receives_nil, fun _ _ => Nat.zero_le _, rfl⟩
  | succ steps ih =>
    by_cases full : p.atCap = true
    · refine Or.inl ⟨[], .ok (), .capped Feed.receives_nil (FeedPages.room_of_atCap full), ?_⟩
      rw [collect, FeedPages.next_of_atCap full]
      exact congrArg (fun s => (_, _, s)) s.recording_nil.symm
    · have free : p.atCap = false := eq_false_of_ne_true full
      cases more : p.nextPath with
      | none =>
        refine Or.inl ⟨[], .ok (), .exhausted Feed.receives_nil (fun _ _ => Nat.zero_le _) rfl, ?_⟩
        rw [collect, FeedPages.next_of_end free more]
        exact congrArg (fun s => (_, _, s)) s.recording_nil.symm
      | some path =>
        have room : ∀ most ∈ p.room, 0 < most := fun most => FeedPages.pos_of_mem_room free
        have one := FeedPages.next_of_loaded remembered free more
        cases answer : s.pageAnswer path with
        | error e =>
          rw [answer] at one
          refine Or.inl ⟨[], .error e, .broken Feed.receives_nil room rfl answer, ?_⟩
          rw [collect, one]
          rfl
        | pending =>
          rw [answer] at one
          refine Or.inl ⟨[], .pending, .hanging Feed.receives_nil room rfl answer, ?_⟩
          rw [collect, one]
          rfl
        | ok page =>
          have step := collect_of_page remembered free more answer steps q
          have rest := @ih (s.recording [s.urlFor path]) remembered
            { p with nextPath := page.nextLink, fetched := p.fetched + 1 } (q.receive page)
          rw [← step, FeedPages.room_succ] at rest
          rcases rest with ⟨pages, o, fetches, result⟩ | ⟨pages, s', length, received, within, result⟩
          · refine Or.inl ⟨page :: pages, o, fetches.cons room answer, result.trans ?_⟩
            rw [List.length_cons, attempts_succ, Service.pageUrls_succ answer]
            exact congrArg (fun s => (_, _, s)) (Service.recording_recording ..)
          · refine Or.inr ⟨page :: pages, s', congrArg Nat.succ length,
              Feed.receives_cons answer received, fun most capped => ?_, result⟩
            have bound := within (most - 1) (Option.mem_map_of_mem (· - 1) capped)
            have positive := room most capped
            omega

theorem collect_of_no_metadata {s : Service} {p : FeedPages} {path : String} (steps : Nat) (q : Query)
    (failed : s.metadataAnswer.result? = none) (free : p.atCap = false) (more : p.nextPath = some path) :
    ∃ o, Fetches s.pageAnswer p.room (some path) [] o ∧ attempts 0 o = 1 ∧
      collect (steps + 1) p q s = (o, q.settle o, s.afterMetadata) := by
  have room : ∀ most ∈ p.room, 0 < most := fun most => FeedPages.pos_of_mem_room free
  rw [collect, FeedPages.next_of_path free more, FeedPages.fetchPage_of_no_metadata path failed]
  cases answer : s.pageAnswer path with
  | ok page =>
    rw [Service.pageAnswer] at answer
    cases had : s.metadataAnswer <;> simp [had, Outcome.andThen, Outcome.result?] at answer failed
  | error e => exact ⟨.error e, .broken Feed.receives_nil room rfl answer, rfl, rfl⟩
  | pending => exact ⟨.pending, .hanging Feed.receives_nil room rfl answer, rfl, rfl⟩

theorem collect_afterMetadata {s : Service} {m : Metadata} {p : FeedPages} {path : String} (steps : Nat)
    (q : Query) (had : s.metadataAnswer = .ok m) (free : p.atCap = false)
    (more : p.nextPath = some path) :
    collect (steps + 1) p q s = collect (steps + 1) p q s.afterMetadata := by
  have remembered := Service.loaded_afterMetadata_of_ok had
  have again := Service.metadataAnswer_of_loaded remembered
  have fetched : FeedPages.fetchPage path s.afterMetadata = FeedPages.fetchPage path s := by
    rw [FeedPages.fetchPage_of_metadata path had, FeedPages.fetchPage_of_metadata path again,
      Service.afterMetadata_of_loaded remembered, Service.pageAnswer_afterMetadata had]
    rfl
  rw [collect, collect, FeedPages.next_of_path free more, FeedPages.next_of_path free more, fetched]

/-! ### The first run -/

def stateAfter : Outcome Unit → QueryState
  | .ok () => .done
  | .error e => .failed e.message
  | .pending => .executing

def holding (q : Query) (pages : List Page) (state : QueryState) : Query :=
  { q with
    state
    entities := pages.flatMap Page.entities
    totalCount := pages.head?.bind Page.totalCount
    pagesFetched := pages.length }

theorem settle_receiveAll (path : String) (cap : Option Nat) (pages : List Page) (o : Outcome Unit) :
    (receiveAll { path, maxPages := cap, state := .executing } pages).settle o =
      holding { path, maxPages := cap } pages (stateAfter o) := by
  rw [receiveAll_eq]
  cases pages <;> cases o <;> simp [settle, holding, stateAfter]

theorem length_lt_enoughSteps {s : Service} {path : String} {cap : Option Nat} {pages : List Page}
    {o : Outcome Unit} (h : Fetches s.pageAnswer cap (some path) pages o) :
    pages.length < enoughSteps { path, maxPages := cap } s := by
  rw [enoughSteps]
  cases cap with
  | some most => exact Nat.lt_succ_of_le (h.length_le rfl)
  | none =>
    have few := Feed.length_le_of_stops (fun _ _ => Service.pageAnswer_congr)
      (fun _ _ => Service.urlFor_mem_of_pageAnswer) h.receives fun _ page => h.stops page
    rw [Table.length_names] at few
    dsimp only
    omega

theorem enoughSteps_pos (q : Query) (s : Service) : ∃ steps, q.enoughSteps s = steps + 1 := by
  rw [enoughSteps]
  cases q.maxPages with
  | some most => exact ⟨most, rfl⟩
  | none => exact ⟨_, rfl⟩

theorem room_start (path : String) (cap : Option Nat) : (FeedPages.start path cap).room = cap := by
  simp [FeedPages.room, FeedPages.start]

/-- The first run of a query stops after pages of its feed, or takes all its steps for them. -/
theorem execute_spec (s : Service) (path : String) (cap : Option Nat) :
    (∃ pages o, Fetches s.pageAnswer cap (some path) pages o ∧
      execute { path, maxPages := cap } s =
        (o, holding { path, maxPages := cap } pages (stateAfter o),
          s.afterFeed path (attempts pages.length o))) ∨
    ∃ pages s', Receives s.pageAnswer (some path) pages ∧ (∀ most ∈ cap, pages.length ≤ most) ∧
      pages.length = enoughSteps { path, maxPages := cap } s ∧
      execute { path, maxPages := cap } s =
        (.pending, holding { path, maxPages := cap } pages .executing, s') := by
  have run : execute { path, maxPages := cap } s =
      collect (enoughSteps { path, maxPages := cap } s) (.start path cap)
        { path, maxPages := cap, state := .executing } s := rfl
  obtain ⟨steps, positive⟩ := enoughSteps_pos { path, maxPages := cap } s
  rw [run, positive]
  have room := room_start path cap
  by_cases full : (FeedPages.start path cap).atCap = true
  · have zero := FeedPages.room_of_atCap full
    rw [room] at zero
    refine Or.inl ⟨[], .ok (), .capped Feed.receives_nil zero, ?_⟩
    rw [collect, FeedPages.next_of_atCap full, ← settle_receiveAll]
    exact congrArg (fun s => (_, _, s)) s.recording_nil.symm
  · have free := eq_false_of_ne_true full
    have within : ∀ most ∈ cap, 0 < most := fun most capped =>
      FeedPages.pos_of_mem_room free (room.symm ▸ capped)
    cases had : s.metadataAnswer.result? with
    | none =>
      obtain ⟨o, fetches, once, result⟩ :=
        collect_of_no_metadata steps { path, maxPages := cap, state := .executing } had free rfl
      rw [room] at fetches
      refine Or.inl ⟨[], o, fetches, result.trans ?_⟩
      rw [List.length_nil, once, s.afterFeed_of_no_metadata had, ← settle_receiveAll]
      rfl
    | some m =>
      have had := Outcome.result?_eq_some_iff.mp had
      rw [collect_afterMetadata steps _ had free rfl]
      have rest := collect_spec (Service.loaded_afterMetadata_of_ok had) (steps + 1) (.start path cap)
        { path, maxPages := cap, state := .executing }
      rw [Service.pageAnswer_afterMetadata had, room] at rest
      rcases rest with ⟨pages, o, fetches, result⟩ | ⟨pages, s', length, received, few, result⟩
      · refine Or.inl ⟨pages, o, fetches, result.trans ?_⟩
        rw [settle_receiveAll, s.afterFeed_of_metadata had (fetches.attempts_ne_zero within),
          Service.pageUrls_afterMetadata had]
        rfl
      · refine Or.inr ⟨pages, s', received, fun most capped => length ▸ few most capped, length,
          result.trans ?_⟩
        exact congrArg (fun q => (_, q, s')) (settle_receiveAll path cap pages .pending)

/-- The first run of a query receives the pages of its feed, in order and each once, until the cap is
reached, a page has no next link, or a page fails; and a run that comes back has done so.  The query
then holds the entities of these pages, and just these pages were requested. -/
theorem execute_fetches (s : Service) (path : String) (cap : Option Nat) :
    (∀ pages o, Fetches s.pageAnswer cap (some path) pages o →
      execute { path, maxPages := cap } s =
        (o, holding { path, maxPages := cap } pages (stateAfter o),
          s.afterFeed path (attempts pages.length o))) ∧
    ((execute { path, maxPages := cap } s).1 ≠ .pending →
      ∃ pages, Fetches s.pageAnswer cap (some path) pages (execute { path, maxPages := cap } s).1) := by
  have spec := execute_spec s path cap
  constructor
  · intro pages o fetches
    rcases spec with ⟨pages', o', fetches', result⟩ | ⟨pages', s', received, within, length, -⟩
    · obtain ⟨rfl, rfl⟩ := fetches.unique fetches'
      exact result
    · have few := fetches.length_le_of_receives received within
      have enough := length_lt_enoughSteps fetches
      omega
  · intro back
    rcases spec with ⟨pages, o, fetches, result⟩ | ⟨pages, s', -, -, -, result⟩
    · exact ⟨pages, by rw [result]; exact fetches⟩
    · rw [result] at back
      exact absurd rfl back

end Query
end AtomData
