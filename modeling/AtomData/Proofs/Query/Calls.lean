import AtomData.Proofs.Query.Iteration

/-!
# Calls in a row

What an iteration over a feed finds, call after call, on a service that remembers its metadata.  A feed
has no bound of its own, since the next links of its pages are the server's.  But a page comes from one of
finitely many replies, so a feed with more pages than these has met one of them twice and goes round for
ever (`arrives_of_first`).
-/

namespace AtomData

open Feed (pagePath)

namespace Feed

variable {answer : String → Outcome Page} {cap : Option Nat} {start : Option String} {n : Nat}

def Arrives (answer : String → Outcome Page) (start : Option String) (n : Nat) : Prop :=
  ∃ path page, pagePath answer start n = some path ∧ answer path = .ok page

/-- Page `n` fails, or it is the last one. -/
def Closes (answer : String → Outcome Page) (start : Option String) (n : Nat) : Prop :=
  ∃ path, pagePath answer start n = some path ∧
    ((∃ e, answer path = .error e) ∨ ∃ page, answer path = .ok page ∧ page.nextLink = none)

/-- The path that a call for page `n` asks for, under a cap. -/
def pathWithin (answer : String → Outcome Page) (cap : Option Nat) (start : Option String) (n : Nat) :
    Option String :=
  if cap.any (· ≤ n) then none else pagePath answer start n

/-- What a call comes to that asks for the path, or finds nothing to ask for. -/
def brings (answer : String → Outcome Page) : Option String → Outcome (Option Page)
  | none => .ok none
  | some path => (answer path).map some

theorem pathWithin_of_le {most : Nat} (le : most ≤ n) : pathWithin answer (some most) start n = none := by
  rw [pathWithin, if_pos (by simpa using le)]

theorem pagePath_of_pathWithin {path : String} (asked : pathWithin answer cap start n = some path) :
    pagePath answer start n = some path := by
  unfold pathWithin at asked
  split at asked
  · cases asked
  · exact asked

theorem pathWithin_succ_of_none (idle : pathWithin answer cap start n = none) :
    pathWithin answer cap start (n + 1) = none := by
  unfold pathWithin at idle ⊢
  split at idle
  · rename_i full
    rw [if_pos]
    cases cap with
    | none => cases full
    | some most =>
      rw [Option.any_some, decide_eq_true_iff] at full ⊢
      exact Nat.le_succ_of_le full
  · rw [pagePath, idle]
    exact ite_self none

/-! ### Pages that come -/

theorem Receives.arrives {pages : List Page} (h : Receives answer start pages) (lt : n < pages.length) :
    Arrives answer start n := by
  obtain ⟨path, reached, arrives⟩ := h n lt
  exact ⟨path, _, reached, arrives⟩

theorem receives_of_arrives (arrive : ∀ i < n, Arrives answer start i) :
    ∃ pages, pages.length = n ∧ Receives answer start pages := by
  choose path page reached came using arrive
  refine ⟨List.ofFn fun i : Fin n => page i i.isLt, List.length_ofFn, fun i lt => ?_⟩
  rw [List.length_ofFn] at lt
  exact ⟨path i lt, reached i lt, by rw [List.getElem_ofFn]; exact came i lt⟩

theorem pagePath_succ_of_reached {path : String} (reached : pagePath answer start n = some path) :
    pagePath answer start (n + 1) = (answer path).result?.bind Page.nextLink := by
  rw [pagePath, reached, Option.bind_some]

theorem pagePath_of_not_arrives (absent : ¬Arrives answer start n) {i : Nat} (later : n < i) :
    pagePath answer start i = none := by
  obtain ⟨d, rfl⟩ := Nat.exists_eq_add_of_lt later
  have next : pagePath answer start (n + 1) = none := by
    rw [pagePath, Option.bind_eq_none_iff]
    intro path reached
    rw [Option.bind_eq_none_iff]
    intro page came
    exact absurd ⟨path, page, reached, Outcome.result?_eq_some_iff.mp came⟩ absent
  have ended : pagePath answer none d = none := by
    induction d with
    | zero => rfl
    | succ d ih => rw [pagePath, ih (by omega)]; rfl
  rw [show n + d + 1 = n + 1 + d by omega, pagePath_add, next, ended]

/-- A feed stops within as many pages as there are addresses that give one, or never. -/
theorem arrives_of_first {address : String → String} {urls : List String}
    (one : ∀ path other, address path = address other → answer path = answer other)
    (known : ∀ path page, answer path = .ok page → address path ∈ urls)
    (first : ∀ i < urls.length + 1, Arrives answer start i) (n : Nat) : Arrives answer start n := by
  induction n using Nat.strong_induction_on with
  | _ n before =>
    by_contra absent
    obtain ⟨pages, length, received⟩ := receives_of_arrives before
    have few := length_le_of_stops one known received fun path page reached came =>
      absent ⟨path, page, length ▸ reached, came⟩
    exact absent (first n (by omega))

theorem closes_of_not_arrives {path : String} (answers : ∀ path, answer path ≠ .pending)
    (reached : pagePath answer start n = some path) (absent : ¬Arrives answer start n) :
    Closes answer start n := by
  refine ⟨path, reached, .inl ?_⟩
  cases came : answer path with
  | ok page => exact absurd ⟨path, page, reached, came⟩ absent
  | error e => exact ⟨e, rfl⟩
  | pending => exact absurd came (answers path)

theorem exists_closes_of_not_arrives {path : String} (answers : ∀ path, answer path ≠ .pending)
    (absent : ¬Arrives answer (some path) n) : ∃ k ≤ n, Closes answer (some path) k := by
  induction n with
  | zero => exact ⟨0, Nat.le_refl _, closes_of_not_arrives answers rfl absent⟩
  | succ n ih =>
    by_cases arrives : Arrives answer (some path) n
    · obtain ⟨before, page, reached, came⟩ := arrives
      have next := pagePath_succ_of_reached reached
      rw [came] at next
      cases link : page.nextLink with
      | none => exact ⟨n, Nat.le_succ n, before, reached, .inr ⟨page, came, link⟩⟩
      | some path' => exact ⟨n + 1, Nat.le_refl _, closes_of_not_arrives answers (next.trans link) absent⟩
    · obtain ⟨k, le, closes⟩ := ih arrives
      exact ⟨k, Nat.le_succ_of_le le, closes⟩

theorem Closes.exists_not_arrives (h : Closes answer start n) : ∃ k, ¬Arrives answer start k := by
  obtain ⟨path, reached, ⟨e, failed⟩ | ⟨page, came, last⟩⟩ := h
  · refine ⟨n, ?_⟩
    rintro ⟨path', page, reached', came⟩
    obtain rfl := Option.some.inj (reached.symm.trans reached')
    cases failed.symm.trans came
  · refine ⟨n + 1, ?_⟩
    rintro ⟨path', page', reached', -⟩
    rw [pagePath_succ_of_reached reached, came] at reached'
    cases last.symm.trans reached'

end Feed

namespace Service

def urlsWithin (s : Service) (cap : Option Nat) (path : String) (n : Nat) : List String :=
  (List.range n).filterMap fun i => (Feed.pathWithin s.pageAnswer cap (some path) i).map s.urlFor

theorem urlsWithin_succ (s : Service) (cap : Option Nat) (path : String) (n : Nat) :
    s.urlsWithin cap path (n + 1) = s.urlsWithin cap path n ++
      ((Feed.pathWithin s.pageAnswer cap (some path) n).map s.urlFor).toList := by
  rw [urlsWithin, List.range_succ, List.filterMap_append, urlsWithin]
  cases asked : Feed.pathWithin s.pageAnswer cap (some path) n <;> simp [asked]

theorem length_urlsWithin_le (s : Service) (most : Nat) (path : String) (n : Nat) :
    (s.urlsWithin (some most) path n).length ≤ min n most := by
  induction n with
  | zero => exact Nat.zero_le _
  | succ n ih =>
    rw [urlsWithin_succ, List.length_append]
    by_cases full : most ≤ n
    · rw [Feed.pathWithin_of_le full]
      simp only [Option.map_none, Option.toList_none, List.length_nil]
      omega
    · have one : ((Feed.pathWithin s.pageAnswer (some most) (some path) n).map s.urlFor).toList.length ≤ 1 :=
        Option.length_toList_le
      omega

/-- If one page more than there are replies comes, all pages come. -/
theorem arrives_of_first {s : Service} {start : Option String}
    (first : ∀ i < s.transport.replies.size + 1, Feed.Arrives s.pageAnswer start i) (n : Nat) :
    Feed.Arrives s.pageAnswer start n := by
  rw [← Table.length_names] at first
  exact Feed.arrives_of_first (fun _ _ => pageAnswer_congr) (fun _ _ => urlFor_mem_of_pageAnswer) first n

end Service

namespace FeedPages

def afterCalls (p : FeedPages) (s : Service) : Nat → FeedPages × Service
  | 0 => (p, s)
  | n + 1 => ((p.afterCalls s n).1.next (p.afterCalls s n).2).2

def call (p : FeedPages) (s : Service) (n : Nat) : Outcome (Option Page) :=
  ((p.afterCalls s n).1.next (p.afterCalls s n).2).1

def Finds (p : FeedPages) (s : Service) (n : Nat) : Prop := ∃ page, p.call s n = .ok (some page)

def Idle (p : FeedPages) (s : Service) (n : Nat) : Prop :=
  p.call s n = .ok none ∧ (p.afterCalls s (n + 1)).2 = (p.afterCalls s n).2

def target (p : FeedPages) : Option String := if p.atCap then none else p.nextPath

theorem target_eq_some_iff {p : FeedPages} {path : String} :
    p.target = some path ↔ p.atCap = false ∧ p.nextPath = some path := by
  unfold target
  cases p.atCap <;> simp

theorem target_of_end {p : FeedPages} (last : p.nextPath = none) : p.target = none := by
  rw [target, last]
  exact ite_self none

/-- Where the calls before call `n` leave an iteration over a feed. -/
structure Stands (answer : String → Outcome Page) (cap : Option Nat) (start : Option String) (n : Nat)
    (p : FeedPages) : Prop where
  maxPages : p.maxPages = cap
  target : p.target = Feed.pathWithin answer cap start n
  fetched : p.target ≠ none → p.fetched = n

theorem stands_start (answer : String → Outcome Page) (cap : Option Nat) (path : String) :
    Stands answer cap (some path) 0 (start path cap) where
  maxPages := rfl
  target := rfl
  fetched _ := rfl

theorem next_of_target_none {p : FeedPages} (idle : p.target = none) (s : Service) :
    ∃ p', p.next s = (.ok none, p', s) ∧ p'.maxPages = p.maxPages ∧ p'.target = none := by
  by_cases full : p.atCap = true
  · exact ⟨_, next_of_atCap full s, rfl, target_of_end rfl⟩
  · have free := eq_false_of_ne_true full
    have last : p.nextPath = none := by simpa [target, free] using idle
    exact ⟨p, next_of_end free last s, rfl, idle⟩

theorem Stands.next {p : FeedPages} {s : Service} {m : Metadata} {cap : Option Nat} {start : Option String}
    {n : Nat} (h : Stands s.pageAnswer cap start n p) (remembered : s.loaded = some m) :
    ∃ p', p.next s =
        (Feed.brings s.pageAnswer (Feed.pathWithin s.pageAnswer cap start n), p',
          s.recording ((Feed.pathWithin s.pageAnswer cap start n).map s.urlFor).toList) ∧
      Stands s.pageAnswer cap start (n + 1) p' := by
  have target := h.target
  cases asked : Feed.pathWithin s.pageAnswer cap start n with
  | none =>
    rw [asked] at target
    obtain ⟨p', next, same, idle⟩ := next_of_target_none target s
    refine ⟨p', by simpa [Feed.brings] using next, same.trans h.maxPages, ?_, fun more => absurd idle more⟩
    rw [idle, Feed.pathWithin_succ_of_none asked]
  | some path =>
    rw [asked] at target
    obtain ⟨free, more⟩ := target_eq_some_iff.mp target
    have fetched := h.fetched (by rw [target]; exact Option.some_ne_none path)
    have reached := Feed.pagePath_of_pathWithin asked
    have ended (failed : (s.pageAnswer path).result? = none) :
        Stands s.pageAnswer cap start (n + 1) { p with nextPath := none } := by
      have last : pagePath s.pageAnswer start (n + 1) = none := by
        rw [Feed.pagePath_succ_of_reached reached, failed]
        rfl
      refine ⟨h.maxPages, (target_of_end rfl).trans ?_, fun more => absurd (target_of_end rfl) more⟩
      rw [Feed.pathWithin, last]
      exact (ite_self none).symm
    have next := next_of_loaded remembered free more
    cases came : s.pageAnswer path with
    | error e =>
      rw [came] at next
      exact ⟨_, by rw [next, Feed.brings, came]; rfl, ended (by rw [came]; rfl)⟩
    | pending =>
      rw [came] at next
      exact ⟨_, by rw [next, Feed.brings, came]; rfl, ended (by rw [came]; rfl)⟩
    | ok page =>
      have link : pagePath s.pageAnswer start (n + 1) = page.nextLink := by
        rw [Feed.pagePath_succ_of_reached reached, came]
        rfl
      rw [came] at next
      refine ⟨{ p with nextPath := page.nextLink, fetched := p.fetched + 1 },
        by rw [next, Feed.brings, came]; rfl, h.maxPages, ?_, fun _ => congrArg Nat.succ fetched⟩
      rw [Feed.pathWithin, link, FeedPages.target, atCap]
      dsimp only
      rw [h.maxPages, fetched]

theorem stands_afterCalls {s : Service} {m : Metadata} (remembered : s.loaded = some m) (cap : Option Nat)
    (path : String) (n : Nat) :
    Stands s.pageAnswer cap (some path) n ((start path cap).afterCalls s n).1 ∧
    ((start path cap).afterCalls s n).2 = s.recording (s.urlsWithin cap path n) := by
  induction n with
  | zero => exact ⟨stands_start s.pageAnswer cap path, s.recording_nil.symm⟩
  | succ n ih =>
    obtain ⟨stands, service⟩ := ih
    have there : Stands (s.recording (s.urlsWithin cap path n)).pageAnswer cap (some path) n
        ((start path cap).afterCalls s n).1 := stands
    obtain ⟨p', next, stands'⟩ := there.next remembered
    rw [afterCalls, service, next]
    refine ⟨stands', ?_⟩
    rw [Service.urlsWithin_succ]
    exact Service.recording_recording ..

theorem call_eq {s : Service} {m : Metadata} (remembered : s.loaded = some m) (cap : Option Nat)
    (path : String) (n : Nat) :
    (start path cap).call s n =
      Feed.brings s.pageAnswer (Feed.pathWithin s.pageAnswer cap (some path) n) := by
  obtain ⟨stands, service⟩ := stands_afterCalls remembered cap path n
  have there : Stands (s.recording (s.urlsWithin cap path n)).pageAnswer cap (some path) n
      ((start path cap).afterCalls s n).1 := stands
  obtain ⟨p', next, -⟩ := there.next remembered
  rw [call, service, next]
  rfl

theorem idle_of_pathWithin_none {s : Service} {m : Metadata} {cap : Option Nat} {path : String} {n : Nat}
    (remembered : s.loaded = some m) (none : Feed.pathWithin s.pageAnswer cap (some path) n = none) :
    (start path cap).Idle s n := by
  refine ⟨by rw [call_eq remembered, none, Feed.brings], ?_⟩
  rw [(stands_afterCalls remembered cap path (n + 1)).2, (stands_afterCalls remembered cap path n).2,
    Service.urlsWithin_succ, none]
  exact congrArg s.recording (List.append_nil _)

end FeedPages

end AtomData
