import AtomData.Text.Blank

/-!
# Pieces of a text

Cutting a text at a separator, joining pieces, and taking a known text off the front.
`join_pieces` shows that cutting loses nothing.
-/

namespace AtomData.Text

/-- Cuts at every `sep`; the separators go, and there is always at least one piece. -/
def pieces (sep : Char) : List Char → List (List Char)
  | [] => [[]]
  | c :: s =>
    if c = sep then [] :: pieces sep s
    else
      match pieces sep s with
      | [] => [[c]]
      | p :: ps => (c :: p) :: ps

def join (sep : List Char) : List (List Char) → List Char
  | [] => []
  | [p] => p
  | p :: q :: ps => p ++ sep ++ join sep (q :: ps)

theorem pieces_ne_nil (sep : Char) (s : List Char) : pieces sep s ≠ [] := by
  cases s with
  | nil => simp [pieces]
  | cons c s =>
    unfold pieces
    split
    · simp
    · split <;> simp

theorem join_pieces (sep : Char) (s : List Char) : join [sep] (pieces sep s) = s := by
  induction s with
  | nil => rfl
  | cons c s ih =>
    unfold pieces
    split
    · next h =>
      subst h
      cases hp : pieces c s with
      | nil => exact absurd hp (pieces_ne_nil c s)
      | cons p ps => rw [hp] at ih; simp [join, ih]
    · split
      · next hp => exact absurd hp (pieces_ne_nil sep s)
      · next p ps hp =>
        rw [hp] at ih
        cases ps with
        | nil => simpa [join] using ih
        | cons q ps => simpa [join] using ih

def after? : List Char → List Char → Option (List Char)
  | [], s => some s
  | _ :: _, [] => none
  | c :: start, d :: s => if c = d then after? start s else none

theorem after?_append (start s : List Char) : after? start (start ++ s) = some s := by
  induction start with
  | nil => rfl
  | cons c start ih => simp [after?, ih]

def occurs (pattern : List Char) : List Char → Bool
  | [] => pattern.isEmpty
  | c :: s => (after? pattern (c :: s)).isSome || occurs pattern s

end AtomData.Text
