import AtomData.Text.Pieces
import Mathlib.Data.Bool.AllAny

/-!
# Texts taken apart

Pieces that do not hold the separator come back when the text that joins them is cut again.
`pieces_join` says so of a cut at every separator, and `cutFirst?_eq_some_iff` says what a cut at the
first one gives.
-/

namespace AtomData.Text

/-! ### Cutting at every separator -/

theorem pieces_eq_splitOn (sep : Char) (s : List Char) : pieces sep s = s.splitOn sep := by
  induction s with
  | nil => rfl
  | cons c s ih =>
    rw [pieces, List.splitOn_cons_eq_if_modifyHead, ← ih]
    by_cases same : c = sep
    · rw [if_pos same, if_pos (beq_iff_eq.mpr same)]
    · rw [if_neg same, if_neg (by simpa using same)]
      cases cut : pieces sep s with
      | nil => exact absurd cut (pieces_ne_nil sep s)
      | cons p ps => rfl

theorem join_eq_intercalate (sep : List Char) (ps : List (List Char)) :
    join sep ps = sep.intercalate ps := by
  induction ps with
  | nil => rfl
  | cons p ps ih =>
    cases ps with
    | nil => simp [join]
    | cons q ps => rw [join, ih, List.intercalate_cons_cons, List.append_assoc]

theorem pieces_join {sep : Char} {ps : List (List Char)} (any : ps ≠ []) (free : ∀ p ∈ ps, sep ∉ p) :
    pieces sep (join [sep] ps) = ps := by
  rw [pieces_eq_splitOn, join_eq_intercalate]
  exact List.splitOn_intercalate sep free any

/-- A property of texts that the separator and all pieces have, and that two texts in a row keep, is one
of the joined text. -/
theorem join_induction {P : List Char → Prop} {sep : List Char} {ps : List (List Char)} (nil : P [])
    (append : ∀ s t, P s → P t → P (s ++ t)) (between : P sep) (each : ∀ p ∈ ps, P p) :
    P (join sep ps) := by
  induction ps with
  | nil => exact nil
  | cons p ps ih =>
    have first := each p List.mem_cons_self
    have rest := ih fun q member => each q (List.mem_cons_of_mem p member)
    cases ps with
    | nil => exact first
    | cons q ps => exact append _ _ (append _ _ first between) rest

theorem mem_join {sep : List Char} {ps : List (List Char)} {c : Char} (member : c ∈ join sep ps) :
    c ∈ sep ∨ ∃ p ∈ ps, c ∈ p := by
  revert member
  refine join_induction (P := fun s => c ∈ s → _) (by simp) ?_ .inl ?_
  · intro s t left right member
    exact (List.mem_append.mp member).elim left right
  · exact fun p listed inside => .inr ⟨p, listed, inside⟩

/-! ### Cutting texts in a row -/

theorem pieces_append (sep : Char) (s t : List Char) :
    ∃ front last first back, pieces sep s = front ++ [last] ∧ pieces sep t = first :: back ∧
      pieces sep (s ++ t) = front ++ (last ++ first) :: back := by
  induction s with
  | nil =>
    cases cut : pieces sep t with
    | nil => exact absurd cut (pieces_ne_nil sep t)
    | cons first back => exact ⟨[], [], first, back, rfl, rfl, cut⟩
  | cons c s ih =>
    obtain ⟨front, last, first, back, left, right, both⟩ := ih
    by_cases same : c = sep
    · refine ⟨[] :: front, last, first, back, ?_, right, ?_⟩
      · rw [pieces, if_pos same, left]
        rfl
      · rw [List.cons_append, pieces, if_pos same, both]
        rfl
    · cases front with
      | nil =>
        refine ⟨[], c :: last, first, back, ?_, right, ?_⟩
        · rw [pieces, if_neg same, left]
          rfl
        · rw [List.cons_append, pieces, if_neg same, both]
          rfl
      | cons p front =>
        refine ⟨(c :: p) :: front, last, first, back, ?_, right, ?_⟩
        · rw [pieces, if_neg same, left]
          rfl
        · rw [List.cons_append, pieces, if_neg same, both]
          rfl

theorem pieces_append_cons (sep : Char) (s t : List Char) :
    pieces sep (s ++ sep :: t) = pieces sep s ++ pieces sep t := by
  obtain ⟨front, last, first, back, left, right, both⟩ := pieces_append sep s (sep :: t)
  rw [pieces, if_pos rfl] at right
  obtain ⟨rfl, rfl⟩ := List.cons.inj right
  rw [both, left, List.append_nil, List.append_assoc]
  rfl

theorem pieces_of_not_mem {sep : Char} {s : List Char} (free : sep ∉ s) : pieces sep s = [s] := by
  have joined : pieces sep (join [sep] [s]) = [s] := pieces_join (by simp) (by simpa using free)
  exact joined

theorem not_mem_of_mem_pieces {sep : Char} {s p : List Char} (piece : p ∈ pieces sep s) : sep ∉ p := by
  induction s generalizing p with
  | nil =>
    rw [List.mem_singleton.mp piece]
    exact List.not_mem_nil
  | cons c s ih =>
    rw [pieces] at piece
    split at piece
    · rcases List.mem_cons.mp piece with rfl | later
      · exact List.not_mem_nil
      · exact ih later
    · rename_i different
      cases cut : pieces sep s with
      | nil => exact absurd cut (pieces_ne_nil sep s)
      | cons q ps =>
        rw [cut] at piece ih
        rcases List.mem_cons.mp piece with rfl | later
        · have rest := ih List.mem_cons_self
          simpa using ⟨Ne.symm different, rest⟩
        · exact ih (List.mem_cons_of_mem q later)

theorem exists_join_around (sep : List Char) (before after : List (List Char)) :
    ∃ front back, ∀ p, join sep (before ++ p :: after) = front ++ p ++ back := by
  induction before with
  | nil =>
    cases after with
    | nil => exact ⟨[], [], fun p => by simp [join]⟩
    | cons q after => exact ⟨[], sep ++ join sep (q :: after), fun p => by simp [join]⟩
  | cons q before ih =>
    obtain ⟨front, back, around⟩ := ih
    refine ⟨q ++ sep ++ front, back, fun p => ?_⟩
    cases before with
    | nil => simp only [List.cons_append, List.nil_append, join] at around ⊢; rw [around]; simp
    | cons r before => simp only [List.cons_append, join] at around ⊢; rw [around]; simp

/-! ### Cutting at the first separator -/

def cutFirst? (sep : Char) : List Char → Option (List Char × List Char)
  | [] => none
  | c :: s =>
    if c = sep then some ([], s)
    else (cutFirst? sep s).map fun (front, back) => (c :: front, back)

theorem cutFirst?_append {sep : Char} {front : List Char} (free : sep ∉ front) (back : List Char) :
    cutFirst? sep (front ++ sep :: back) = some (front, back) := by
  induction front with
  | nil => exact if_pos rfl
  | cons c front ih =>
    have different := List.ne_of_not_mem_cons free
    rw [List.cons_append, cutFirst?, if_neg different.symm, ih (List.not_mem_of_not_mem_cons free)]
    rfl

theorem cutFirst?_eq_some_iff {sep : Char} {s front back : List Char} :
    cutFirst? sep s = some (front, back) ↔ s = front ++ sep :: back ∧ sep ∉ front := by
  constructor
  · intro cut
    induction s generalizing front with
    | nil => cases cut
    | cons c s ih =>
      rw [cutFirst?] at cut
      split at cut
      · rename_i same
        cases cut
        simp [same]
      · rename_i different
        obtain ⟨⟨front', back'⟩, cut', same⟩ := Option.map_eq_some_iff.mp cut
        cases same
        obtain ⟨rfl, free⟩ := ih cut'
        exact ⟨rfl, by simpa using ⟨Ne.symm different, free⟩⟩
  · rintro ⟨rfl, free⟩
    exact cutFirst?_append free back

/-! ### Characters of a text -/

/-- A run of characters of one kind is told apart from what follows it, if that begins with a character
of another kind. -/
theorem run_append_inj {P : Char → Prop} {s t r r' : List Char} (left : ∀ c ∈ s, P c)
    (right : ∀ c ∈ t, P c) (ends : ∀ c ∈ r.head?, ¬P c) (ends' : ∀ c ∈ r'.head?, ¬P c)
    (same : s ++ r = t ++ r') : s = t ∧ r = r' := by
  induction s generalizing t with
  | nil =>
    cases t with
    | nil => exact ⟨rfl, same⟩
    | cons d t =>
      obtain rfl : r = d :: (t ++ r') := same
      exact absurd (right d List.mem_cons_self) (ends d rfl)
  | cons c s ih =>
    cases t with
    | nil =>
      obtain rfl : c :: (s ++ r) = r' := same
      exact absurd (left c List.mem_cons_self) (ends' c rfl)
    | cons d t =>
      obtain ⟨rfl, rest⟩ := List.cons.inj same
      obtain ⟨rfl, after⟩ := ih (fun e member => left e (List.mem_cons_of_mem c member))
        (fun e member => right e (List.mem_cons_of_mem c member)) rest
      exact ⟨rfl, after⟩

end AtomData.Text
