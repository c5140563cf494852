import Mathlib.Data.List.FinRange
import Mathlib.Data.List.Forall2

/-!
# Results and lists

What holds of any results one after another, and of any lists, with nothing of a service in it.
-/

namespace AtomData

/-! ### Results -/

namespace Except

variable {ε ε' α β γ : Type}

theorem bind_eq_ok_iff {x : Except ε α} {f : α → Except ε β} {b : β} :
    (x >>= f) = .ok b ↔ ∃ a, x = .ok a ∧ f a = .ok b := by
  cases x <;> simp [bind, Except.bind]

theorem bind_eq_error_iff {x : Except ε α} {f : α → Except ε β} {e : ε} :
    (x >>= f) = .error e ↔ x = .error e ∨ ∃ a, x = .ok a ∧ f a = .error e := by
  cases x <;> simp [bind, Except.bind]

theorem mapError_eq_ok_iff {x : Except ε α} {f : ε → ε'} {a : α} :
    x.mapError f = .ok a ↔ x = .ok a := by
  cases x <;> simp [Except.mapError]

theorem mapError_eq_error_iff {x : Except ε α} {f : ε → ε'} {e : ε'} :
    x.mapError f = .error e ↔ ∃ e', x = .error e' ∧ f e' = e := by
  cases x <;> simp [Except.mapError]

/-- A traversal succeeds if it does everywhere, and then keeps the order. -/
theorem mapM_eq_ok_iff {f : α → Except ε β} {xs : List α} {ys : List β} :
    xs.mapM f = .ok ys ↔ List.Forall₂ (fun x y => f x = .ok y) xs ys := by
  induction xs generalizing ys with
  | nil =>
    rw [List.mapM_nil, List.forall₂_nil_left_iff]
    exact ⟨fun h => (Except.ok.inj h).symm, fun h => congrArg Except.ok h.symm⟩
  | cons x xs ih =>
    rw [List.mapM_cons, bind_eq_ok_iff, List.forall₂_cons_left_iff]
    constructor
    · rintro ⟨y, first, h⟩
      obtain ⟨ys, rest, same⟩ := bind_eq_ok_iff.mp h
      exact ⟨y, ys, first, ih.mp rest, (Except.ok.inj same).symm⟩
    · rintro ⟨y, ys, first, rest, rfl⟩
      exact ⟨y, first, bind_eq_ok_iff.mpr ⟨ys, ih.mpr rest, rfl⟩⟩

/-- The error of a traversal is the first one. -/
theorem mapM_eq_error_iff {f : α → Except ε β} {xs : List α} {e : ε} :
    xs.mapM f = .error e ↔
      ∃ before x after, xs = before ++ x :: after ∧ (∀ b ∈ before, ∃ y, f b = .ok y) ∧
        f x = .error e := by
  induction xs with
  | nil => exact ⟨nofun, by simp⟩
  | cons x xs ih =>
    rw [List.mapM_cons, bind_eq_error_iff]
    constructor
    · rintro (failed | ⟨y, first, h⟩)
      · exact ⟨[], x, xs, rfl, by simp, failed⟩
      · obtain rest | ⟨ys, -, done⟩ := bind_eq_error_iff.mp h
        · obtain ⟨before, z, after, split, fine, failed⟩ := ih.mp rest
          refine ⟨x :: before, z, after, by rw [split]; rfl, ?_, failed⟩
          exact List.forall_mem_cons.mpr ⟨⟨y, first⟩, fine⟩
        · cases done
    · rintro ⟨before, z, after, split, fine, failed⟩
      cases before with
      | nil =>
        obtain ⟨rfl, -⟩ := List.cons.inj split
        exact Or.inl failed
      | cons b before =>
        obtain ⟨rfl, rfl⟩ := List.cons.inj split
        obtain ⟨⟨y, first⟩, fine⟩ := List.forall_mem_cons.mp fine
        refine Or.inr ⟨y, first, bind_eq_error_iff.mpr (Or.inl (ih.mpr ?_))⟩
        exact ⟨before, z, after, rfl, fine, failed⟩

theorem exists_mapM_eq_ok_iff {f : α → Except ε β} {xs : List α} :
    (∃ ys, xs.mapM f = .ok ys) ↔ ∀ x ∈ xs, ∃ y, f x = .ok y := by
  induction xs with
  | nil => exact ⟨fun _ => by simp, fun _ => ⟨[], rfl⟩⟩
  | cons x xs ih =>
    rw [List.forall_mem_cons, ← ih]
    simp only [mapM_eq_ok_iff, List.forall₂_cons_left_iff]
    constructor
    · rintro ⟨_, y, ys, first, rest, -⟩
      exact ⟨⟨y, first⟩, ys, rest⟩
    · rintro ⟨⟨y, first⟩, ys, rest⟩
      exact ⟨y :: ys, y, ys, first, rest, rfl⟩

theorem mapM_map_eq {f : α → Except ε β} {g : β → γ} (xs : List α) :
    xs.mapM (fun x => (f x).map g) = (xs.mapM f).map (List.map g) := by
  induction xs with
  | nil => rfl
  | cons x xs ih =>
    rw [List.mapM_cons, List.mapM_cons, ih]
    cases f x with
    | error e => rfl
    | ok y => cases xs.mapM f <;> rfl

end Except

/-! ### Lists -/

theorem findSome?_filter {α β : Type} (p : α → Bool) (f : α → Option β) (xs : List α) :
    (xs.filter p).findSome? f = xs.findSome? fun x => if p x then f x else none := by
  induction xs with
  | nil => rfl
  | cons x xs ih =>
    cases keeps : p x <;> simp [List.findSome?_cons, keeps, ih]

theorem eraseDups_filter {α : Type} [BEq α] [LawfulBEq α] (q : α → Bool) (l : List α) :
    (l.filter q).eraseDups = l.eraseDups.filter q := by
  -- The recursion of `eraseDups` is on a filtered list, so the induction is on the length.
  induction length : l.length using Nat.strong_induction_on generalizing l with
  | _ n ih =>
    cases l with
    | nil => rfl
    | cons a l =>
      have shorter := List.length_filter_le (fun b => !b == a) l
      rw [List.length_cons] at length
      have rest := ih _ (by omega) (l.filter fun b => !b == a) rfl
      rw [List.eraseDups_cons, List.filter_cons]
      by_cases kept : q a = true
      · rw [if_pos kept, List.eraseDups_cons, List.filter_cons_of_pos kept, ← rest, List.filter_comm]
      · rw [if_neg kept, List.filter_cons_of_neg kept, ← rest, List.filter_filter]
        congr 1
        refine List.filter_congr fun b _ => ?_
        by_cases same : b = a
        · simp [same, kept]
        · simp [same]

theorem eraseDups_cons_eq {α : Type} [BEq α] [LawfulBEq α] (a : α) (l : List α) :
    (a :: l).eraseDups = a :: l.eraseDups.filter fun b => !b == a := by
  rw [List.eraseDups_cons, eraseDups_filter]

theorem eraseDups_cons_append {α : Type} [BEq α] [LawfulBEq α] {a : α} {copies : List α}
    (same : ∀ b ∈ copies, b = a) (l : List α) : (a :: (copies ++ l)).eraseDups = (a :: l).eraseDups := by
  have none : copies.filter (fun b => !b == a) = [] := by
    simpa [List.filter_eq_nil_iff] using same
  rw [List.eraseDups_cons, List.eraseDups_cons, List.filter_append, none, List.nil_append]

theorem filterMap_eq_map_of_forall₂ {α β γ : Type} {f : α → Option γ} {g : β → γ} {as : List α}
    {bs : List β} (each : List.Forall₂ (fun a b => f a = some (g b)) as bs) : as.filterMap f = bs.map g := by
  induction each with
  | nil => rfl
  | cons first _ ih => rw [List.filterMap_cons_some first, ih, List.map_cons]

theorem mem_of_finRange_eq {n : Nat} {before after : List (Fin n)} {i j : Fin n}
    (split : List.finRange n = before ++ i :: after) (lt : j < i) : j ∈ before := by
  have sorted := List.pairwise_lt_finRange n
  have member := List.mem_finRange j
  rw [split, List.pairwise_append, List.pairwise_cons] at sorted
  rw [split, List.mem_append, List.mem_cons] at member
  rcases member with early | rfl | late
  · exact early
  · exact absurd lt (lt_irrefl j)
  · exact absurd (sorted.2.1.1 j late) (lt_asymm lt)

end AtomData
