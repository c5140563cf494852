import AtomData.Proofs.Service.Requests
import Mathlib.Data.Finset.Card

/-!
# Feeds

The pages of a feed, found by following next links, and where a run over them stops.  The pages that
paths lead to are given as a function, so nothing is sent here.  `Fetches.unique` shows that a run
stops in one way only, and `length_le_of_stops` that it stops within as many pages as there are
replies: a feed that meets one address twice goes round for ever.
-/

namespace AtomData.Feed

variable {answer : String → Outcome Page} {start : Option String} {cap : Option Nat} {pages : List Page}

/-- The path of page `i`: the next link of the page before it. -/
def pagePath (answer : String → Outcome Page) (start : Option String) : Nat → Option String
  | 0 => start
  | i + 1 => (pagePath answer start i).bind fun path => (answer path).result?.bind Page.nextLink

/-- The pages are the first ones of the feed. -/
def Receives (answer : String → Outcome Page) (start : Option String) (pages : List Page) : Prop :=
  ∀ (i : Nat) (h : i < pages.length),
    ∃ path, pagePath answer start i = some path ∧ answer path = .ok pages[i]

/-- A run over the feed that receives the pages, and no page after them because of the cap, because
there is none, or because it fails or never arrives. -/
inductive Fetches (answer : String → Outcome Page) (cap : Option Nat) (start : Option String)
    (pages : List Page) : Outcome Unit → Prop
  | capped (received : Receives answer start pages) (full : cap = some pages.length) :
      Fetches answer cap start pages (.ok ())
  | exhausted (received : Receives answer start pages) (within : ∀ most ∈ cap, pages.length ≤ most)
      (last : pagePath answer start pages.length = none) : Fetches answer cap start pages (.ok ())
  | broken {path : String} {e : Error} (received : Receives answer start pages)
      (within : ∀ most ∈ cap, pages.length < most)
      (reached : pagePath answer start pages.length = some path) (failed : answer path = .error e) :
      Fetches answer cap start pages (.error e)
  | hanging {path : String} (received : Receives answer start pages)
      (within : ∀ most ∈ cap, pages.length < most)
      (reached : pagePath answer start pages.length = some path) (silent : answer path = .pending) :
      Fetches answer cap start pages .pending

theorem Fetches.receives {o : Outcome Unit} (h : Fetches answer cap start pages o) :
    Receives answer start pages := by
  cases h <;> assumption

theorem Fetches.length_le {o : Outcome Unit} {most : Nat} (h : Fetches answer cap start pages o)
    (capped : most ∈ cap) : pages.length ≤ most := by
  cases h with
  | capped _ full =>
    rw [full, Option.mem_some_iff] at capped
    exact Nat.le_of_eq capped
  | exhausted _ within => exact within most capped
  | broken _ within => exact Nat.le_of_lt (within most capped)
  | hanging _ within => exact Nat.le_of_lt (within most capped)

/-! ### Following links -/

theorem pagePath_add (i d : Nat) :
    pagePath answer start (i + d) = pagePath answer (pagePath answer start i) d := by
  induction d with
  | zero => rfl
  | succ d ih => rw [← Nat.add_assoc, pagePath, ih, pagePath]

theorem pagePath_succ {path : String} {page : Page} (arrives : answer path = .ok page) (i : Nat) :
    pagePath answer (some path) (i + 1) = pagePath answer page.nextLink i := by
  rw [Nat.add_comm, pagePath_add]
  congr 1
  rw [pagePath, pagePath, Option.bind_some, arrives]
  rfl

theorem receives_nil : Receives answer start [] := by
  intro i h
  simp at h

theorem receives_cons {path : String} {page : Page} (arrives : answer path = .ok page)
    (rest : Receives answer page.nextLink pages) : Receives answer (some path) (page :: pages) := by
  intro i h
  cases i with
  | zero => exact ⟨path, rfl, arrives⟩
  | succ i =>
    obtain ⟨next, reached, arrives'⟩ := rest i (Nat.lt_of_succ_lt_succ h)
    exact ⟨next, (pagePath_succ arrives i).trans reached, arrives'⟩

theorem Fetches.cons {path : String} {page : Page} {o : Outcome Unit} (room : ∀ most ∈ cap, 0 < most)
    (arrives : answer path = .ok page)
    (rest : Fetches answer (cap.map (· - 1)) page.nextLink pages o) :
    Fetches answer cap (some path) (page :: pages) o := by
  have received := receives_cons arrives rest.receives
  have below : ∀ most ∈ cap, most - 1 ∈ cap.map (· - 1) := fun most capped =>
    Option.mem_map_of_mem (· - 1) capped
  have next : pagePath answer (some path) (page :: pages).length =
      pagePath answer page.nextLink pages.length := pagePath_succ arrives _
  cases rest with
  | capped _ full =>
    obtain ⟨most, capped, same⟩ := Option.map_eq_some_iff.mp full
    refine .capped received ?_
    rw [capped, List.length_cons]
    have positive := room most capped
    congr
    omega
  | exhausted _ within last =>
    refine .exhausted received (fun most capped => ?_) (next.trans last)
    have bound := within _ (below most capped)
    have positive := room most capped
    rw [List.length_cons]
    omega
  | broken _ within reached failed =>
    refine .broken received (fun most capped => ?_) (next.trans reached) failed
    have bound := within _ (below most capped)
    rw [List.length_cons]
    omega
  | hanging _ within reached silent =>
    refine .hanging received (fun most capped => ?_) (next.trans reached) silent
    have bound := within _ (below most capped)
    rw [List.length_cons]
    omega

/-! ### One way to stop -/

theorem Receives.getElem_eq {more : List Page} {i : Nat} (h : Receives answer start pages)
    (h' : Receives answer start more) (lt : i < pages.length) (lt' : i < more.length) :
    pages[i] = more[i] := by
  obtain ⟨path, reached, arrives⟩ := h i lt
  obtain ⟨path', reached', arrives'⟩ := h' i lt'
  obtain rfl := Option.some.inj (reached.symm.trans reached')
  exact Outcome.ok.inj (arrives.symm.trans arrives')

theorem Fetches.length_le_of_receives {o : Outcome Unit} {more : List Page}
    (h : Fetches answer cap start pages o) (received : Receives answer start more)
    (within : ∀ most ∈ cap, more.length ≤ most) : more.length ≤ pages.length := by
  by_contra longer
  obtain ⟨path, reached, arrives⟩ := received pages.length (Nat.lt_of_not_le longer)
  cases h with
  | capped _ full => exact longer (within _ full)
  | exhausted _ _ last => cases last.symm.trans reached
  | broken _ _ reached' failed =>
    obtain rfl := Option.some.inj (reached.symm.trans reached')
    cases arrives.symm.trans failed
  | hanging _ _ reached' silent =>
    obtain rfl := Option.some.inj (reached.symm.trans reached')
    cases arrives.symm.trans silent

/-- What a run comes to that has received `n` pages and gets no more. -/
def verdict (answer : String → Outcome Page) (cap : Option Nat) (start : Option String) (n : Nat) :
    Outcome Unit :=
  if cap = some n then .ok ()
  else
    match pagePath answer start n with
    | none => .ok ()
    | some path => (answer path).map fun _ => ()

theorem Fetches.outcome_eq {o : Outcome Unit} (h : Fetches answer cap start pages o) :
    o = verdict answer cap start pages.length := by
  have notFull : (∀ most ∈ cap, pages.length < most) → cap ≠ some pages.length := fun within full =>
    lt_irrefl _ (within _ full)
  cases h with
  | capped _ full => rw [verdict, if_pos full]
  | exhausted _ _ last =>
    rw [verdict, last]
    split <;> rfl
  | broken _ within reached failed =>
    rw [verdict, if_neg (notFull within), reached]
    dsimp only
    rw [failed, Outcome.map]
  | hanging _ within reached silent =>
    rw [verdict, if_neg (notFull within), reached]
    dsimp only
    rw [silent, Outcome.map]

theorem Fetches.unique {o o' : Outcome Unit} {pages' : List Page} (h : Fetches answer cap start pages o)
    (h' : Fetches answer cap start pages' o') : pages = pages' ∧ o = o' := by
  have le := h.length_le_of_receives h'.receives fun most => h'.length_le
  have ge := h'.length_le_of_receives h.receives fun most => h.length_le
  obtain rfl : pages = pages' := by
    apply List.ext_getElem (Nat.le_antisymm ge le)
    intro i lt lt'
    exact h.receives.getElem_eq h'.receives lt lt'
  exact ⟨rfl, h.outcome_eq.trans h'.outcome_eq.symm⟩

theorem Fetches.stops {o : Outcome Unit} (h : Fetches answer none start pages o) {path : String}
    (page : Page) (reached : pagePath answer start pages.length = some path) : answer path ≠ .ok page := by
  intro arrives
  cases h with
  | capped _ full => cases full
  | exhausted _ _ last => cases last.symm.trans reached
  | broken _ _ reached' failed =>
    obtain rfl := Option.some.inj (reached.symm.trans reached')
    cases arrives.symm.trans failed
  | hanging _ _ reached' silent =>
    obtain rfl := Option.some.inj (reached.symm.trans reached')
    cases arrives.symm.trans silent

/-! ### How far a run goes -/

/-- Before a stop no address comes twice: a page that is met again is followed by the same pages, so the
stop would have come earlier. -/
theorem address_ne_of_stops {address : String → String}
    (one : ∀ path other, address path = address other → answer path = answer other)
    (received : Receives answer start pages)
    (stops : ∀ path page, pagePath answer start pages.length = some path → answer path ≠ .ok page)
    {i j : Nat} {path other : String} (before : i < j) (within : j < pages.length)
    (at_i : pagePath answer start i = some path) (at_j : pagePath answer start j = some other) :
    address path ≠ address other := by
  intro same
  have next : pagePath answer start (i + 1) = pagePath answer start (j + 1) := by
    rw [pagePath, pagePath, at_i, at_j, Option.bind_some, Option.bind_some, one _ _ same]
  have shifted : pagePath answer start (i + 1 + (pages.length - (j + 1))) =
      pagePath answer start pages.length := by
    rw [pagePath_add, next, ← pagePath_add]
    congr 1
    omega
  obtain ⟨last, reached, arrives⟩ := received (i + 1 + (pages.length - (j + 1))) (by omega)
  exact stops last _ (shifted.symm.trans reached) arrives

/-- If one address gives one page, and only known ones do, no more pages than these come before a
stop. -/
theorem length_le_of_stops {address : String → String} {urls : List String}
    (one : ∀ path other, address path = address other → answer path = answer other)
    (known : ∀ path page, answer path = .ok page → address path ∈ urls)
    (received : Receives answer start pages)
    (stops : ∀ path page, pagePath answer start pages.length = some path → answer path ≠ .ok page) :
    pages.length ≤ urls.length := by
  have addresses : ∀ i ∈ Finset.range pages.length,
      address ((pagePath answer start i).getD "") ∈ urls.toFinset := by
    intro i member
    obtain ⟨path, reached, arrives⟩ := received i (Finset.mem_range.mp member)
    rw [reached, List.mem_toFinset]
    exact known path _ arrives
  have injective : Set.InjOn (fun i => address ((pagePath answer start i).getD ""))
      (Finset.range pages.length) := by
    intro i hi j hj same
    rw [Finset.coe_range, Set.mem_Iio] at hi hj
    obtain ⟨path, at_i, -⟩ := received i hi
    obtain ⟨other, at_j, -⟩ := received j hj
    simp only [at_i, at_j, Option.getD_some] at same
    rcases Nat.lt_trichotomy i j with before | equal | after
    · exact absurd same (address_ne_of_stops one received stops before hj at_i at_j)
    · exact equal
    · exact absurd same.symm (address_ne_of_stops one received stops after hi at_j at_i)
  calc pages.length = (Finset.range pages.length).card := (Finset.card_range _).symm
    _ ≤ urls.toFinset.card := Finset.card_le_card_of_injOn _ addresses injective
    _ ≤ urls.length := urls.toFinset_card_le

end AtomData.Feed
