import AtomData.Text.Blank
import Mathlib.Data.List.DropRight

/-!
# Trimmed texts

Trimming takes blanks from both ends of a text and nothing else.  `exists_padding` splits a text into what
is taken and what is left; `trim_blank_append` and `trim_append_blank` say that blanks put around a text are
taken again.
-/

namespace AtomData.Text

variable {s t : List Char}

def AllBlank (s : List Char) : Prop := ∀ c ∈ s, isBlank c = true

theorem dropEndWhile_append_of_forall {p : Char → Bool} (s : List Char) (all : ∀ c ∈ t, p c = true) :
    dropEndWhile p (s ++ t) = dropEndWhile p s := by
  have reversed : ∀ c ∈ t.reverse, p c = true := fun c member => all c (List.mem_reverse.mp member)
  rw [dropEndWhile, dropEndWhile, List.reverse_append, List.dropWhile_append_of_pos reversed]

theorem dropWhile_append_of_not {p : Char → Bool} {c : Char} (stops : p c = false) :
    (s ++ c :: t).dropWhile p = s.dropWhile p ++ c :: t := by
  rw [List.dropWhile_append]
  split
  · rename_i empty
    rw [List.isEmpty_iff.mp empty]
    simp [stops]
  · rfl

theorem dropEndWhile_append_of_not {p : Char → Bool} {c : Char} (stops : p c = false) :
    dropEndWhile p (s ++ c :: t) = s ++ c :: dropEndWhile p t := by
  rw [dropEndWhile, List.reverse_append, List.reverse_cons, List.append_assoc, List.singleton_append,
    dropWhile_append_of_not stops]
  simp [dropEndWhile]

theorem trim_blank_append (blank : AllBlank s) (t : List Char) : trim (s ++ t) = trim t := by
  rw [trim, trim, trimStart, trimStart, List.dropWhile_append_of_pos blank]

theorem trim_append_blank (s : List Char) (blank : AllBlank t) : trim (s ++ t) = trim s := by
  rw [trim, trim, trimStart, trimStart, List.dropWhile_append]
  split
  · rename_i empty
    have left : s.dropWhile isBlank = [] := by simpa using empty
    have right : t.dropWhile isBlank = [] := List.dropWhile_eq_nil_iff.mpr blank
    rw [left, right]
  · exact dropEndWhile_append_of_forall _ blank

theorem exists_padding (s : List Char) :
    ∃ left right, s = left ++ trim s ++ right ∧ AllBlank left ∧ AllBlank right := by
  refine ⟨s.takeWhile isBlank, (trimStart s).rtakeWhile isBlank, ?_, ?_, ?_⟩
  · have whole : trim s ++ (trimStart s).rtakeWhile isBlank = trimStart s :=
      List.rdropWhile_append_rtakeWhile ..
    rw [List.append_assoc, whole, trimStart, List.takeWhile_append_dropWhile]
  · exact fun c member => List.mem_takeWhile_imp member
  · exact fun c member => List.mem_rtakeWhile_imp member

theorem mem_of_mem_trim {c : Char} (member : c ∈ trim s) : c ∈ s := by
  obtain ⟨left, right, split, -, -⟩ := exists_padding s
  rw [split]
  exact List.mem_append_left _ (List.mem_append_right _ member)

theorem trim_of_not_blank (free : ∀ c ∈ s, isBlank c = false) : trim s = s := by
  obtain ⟨left, right, split, before, after⟩ := exists_padding s
  have noLeft : left = [] := by
    refine List.eq_nil_iff_forall_not_mem.mpr fun c member => ?_
    have inside : c ∈ s := split ▸ List.mem_append_left _ (List.mem_append_left _ member)
    exact absurd (before c member) (by simp [free c inside])
  have noRight : right = [] := by
    refine List.eq_nil_iff_forall_not_mem.mpr fun c member => ?_
    have inside : c ∈ s := split ▸ List.mem_append_right _ member
    exact absurd (after c member) (by simp [free c inside])
  simpa [noLeft, noRight] using split.symm

end AtomData.Text
