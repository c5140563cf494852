import Mathlib.Data.List.Basic
import Mathlib.Data.List.Perm.Basic

/-!
# Interleavings

Events that happen in one of several places, or in none.  Two runs are interleavings of the same events if
these are the same and each place sees the same ones in the same order.  `reorders_iff_swaps` says that one
then comes from the other by swapping neighbours that have no place in common.
-/

namespace AtomData.Interleaving

def Apart {σ : Type} (x y : Option σ) : Prop := ∀ slot, x = some slot → y ≠ some slot

variable {α σ : Type} {slot? : α → Option σ} {xs ys zs : List α} {x y : α}

theorem Apart.symm {x y : Option σ} (h : Apart x y) : Apart y x := fun slot there here => h slot here there

/-- The second run comes from the first by swapping neighbours with no place in common. -/
inductive Swaps (slot? : α → Option σ) : List α → List α → Prop
  | refl (xs : List α) : Swaps slot? xs xs
  | swap {x y : α} (apart : Apart (slot? x) (slot? y)) (xs : List α) :
      Swaps slot? (x :: y :: xs) (y :: x :: xs)
  | cons (x : α) {xs ys : List α} (rest : Swaps slot? xs ys) : Swaps slot? (x :: xs) (x :: ys)
  | trans {xs ys zs : List α} (first : Swaps slot? xs ys) (second : Swaps slot? ys zs) : Swaps slot? xs zs

theorem Swaps.perm (h : Swaps slot? xs ys) : xs.Perm ys := by
  induction h with
  | refl xs => exact .refl xs
  | swap _ xs => exact .swap _ _ xs
  | cons x _ ih => exact ih.cons x
  | trans _ _ first second => exact first.trans second

/-- An event moves behind others that have no place in common with it. -/
theorem swaps_behind (x : α) {before : List α} (apart : ∀ y ∈ before, Apart (slot? x) (slot? y))
    (after : List α) : Swaps slot? (x :: (before ++ after)) (before ++ x :: after) := by
  induction before with
  | nil => exact .refl _
  | cons y before ih =>
    rw [List.forall_mem_cons] at apart
    exact (Swaps.swap apart.1 _).trans (.cons y (ih apart.2))

variable [DecidableEq σ]

/-- The runs are interleavings of the same events. -/
structure Reorders (slot? : α → Option σ) (xs ys : List α) : Prop where
  perm : xs.Perm ys
  order : ∀ slot, xs.filter (fun x => slot? x = some slot) = ys.filter fun x => slot? x = some slot

theorem Reorders.refl (xs : List α) : Reorders slot? xs xs := ⟨.refl xs, fun _ => rfl⟩

theorem Reorders.cons (x : α) (h : Reorders slot? xs ys) : Reorders slot? (x :: xs) (x :: ys) where
  perm := h.perm.cons x
  order slot := by rw [List.filter_cons, List.filter_cons, h.order slot]

theorem Reorders.trans (h : Reorders slot? xs ys) (later : Reorders slot? ys zs) : Reorders slot? xs zs where
  perm := h.perm.trans later.perm
  order slot := (h.order slot).trans (later.order slot)

theorem Reorders.swap (apart : Apart (slot? x) (slot? y)) (xs : List α) :
    Reorders slot? (x :: y :: xs) (y :: x :: xs) where
  perm := .swap y x xs
  order slot := by
    by_cases here : slot? x = some slot
    · simp [here, apart slot here]
    · simp [List.filter_cons, here]

/-- The first event comes first in its place, so whatever is before it in another interleaving is
elsewhere. -/
theorem Reorders.elsewhere {before after : List α} (h : Reorders slot? (x :: xs) (before ++ x :: after))
    (first : x ∉ before) {slot : σ} (here : slot? x = some slot) :
    before.filter (fun x => slot? x = some slot) = [] := by
  have order := h.order slot
  rw [List.filter_cons_of_pos (by simpa using here), List.filter_append] at order
  cases found : before.filter fun x => slot? x = some slot with
  | nil => rfl
  | cons y ys =>
    rw [found] at order
    obtain rfl := (List.cons.inj order).1
    have mem : x ∈ before.filter fun x => slot? x = some slot := by
      rw [found]
      exact List.mem_cons_self
    exact absurd (List.mem_filter.mp mem).1 first

theorem Reorders.tail {before after : List α} (h : Reorders slot? (x :: xs) (before ++ x :: after))
    (first : x ∉ before) : Reorders slot? xs (before ++ after) where
  perm := (List.perm_cons x).mp (h.perm.trans List.perm_middle)
  order slot := by
    have order := h.order slot
    rw [List.filter_append, List.filter_cons, List.filter_cons] at order
    rw [List.filter_append]
    by_cases here : slot? x = some slot
    · rw [h.elsewhere first here, List.nil_append] at order ⊢
      simp only [here, decide_true, if_true] at order
      exact (List.cons.inj order).2
    · simpa only [here, decide_false, Bool.false_eq_true, if_false] using order

theorem reorders_iff_swaps : Reorders slot? xs ys ↔ Swaps slot? xs ys := by
  constructor
  · intro h
    induction xs generalizing ys with
    | nil =>
      rw [List.nil_perm.mp h.perm]
      exact .refl []
    | cons x xs ih =>
      obtain ⟨before, after, rfl, first⟩ := List.eq_append_cons_of_mem (h.perm.subset List.mem_cons_self)
      have apart : ∀ y ∈ before, Apart (slot? x) (slot? y) := by
        intro y mem slot here there
        have kept : y ∈ before.filter fun x => slot? x = some slot :=
          List.mem_filter.mpr ⟨mem, decide_eq_true there⟩
        rw [h.elsewhere first here] at kept
        cases kept
      exact (Swaps.cons x (ih (h.tail first))).trans (swaps_behind x apart after)
  · intro h
    induction h with
    | refl xs => exact .refl xs
    | swap apart xs => exact .swap apart xs
    | cons x _ ih => exact ih.cons x
    | trans _ _ first second => exact first.trans second

end AtomData.Interleaving
