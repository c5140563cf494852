import AtomData.Number.Decimal
import AtomData.Proofs.Text.Digits
import Mathlib.Algebra.Field.Rat

/-!
# Decimal numbers read back

The text of a decimal number is read without its rounding ever being needed, since all of its digits fit.
`ofText?_text` says that the number comes back with its scale, and that only a zero may lose its sign.
-/

namespace AtomData.Decimal

open Text (digitsValue paddedText)

def toRat (d : Decimal) : ℚ := (if d.negative then -(d.magnitude : ℚ) else d.magnitude) / 10 ^ d.scale

/-- The decimal with the sign that reading gives it: a zero has none. -/
def normalSign (d : Decimal) : Decimal := { d with negative := d.negative && d.magnitude != 0 }

theorem toRat_normalSign (d : Decimal) : d.normalSign.toRat = d.toRat := by
  by_cases zero : d.magnitude = 0
  · simp [toRat, normalSign, zero]
  · simp [toRat, normalSign, zero]

/-! ### Digits that fit -/

namespace Progress

def take (p : Progress) (c : Char) : Progress where
  digits := 10 * p.digits + (c.toNat - 48)
  anyDigit := true
  pointSeen := p.pointSeen
  scale := if p.pointSeen then p.scale + 1 else 0

variable {p : Progress} {negative : Bool} {c : Char} {run rest : List Char}

theorem digits_foldl_take (run : List Char) (p : Progress) :
    (run.foldl take p).digits = Nat.ofDigitChars 10 run p.digits := by
  induction run generalizing p with
  | nil => rfl
  | cons c run ih =>
    rw [List.foldl_cons, ih, Nat.ofDigitChars_cons]
    rfl

theorem le_digits_foldl_take (run : List Char) (p : Progress) : p.digits ≤ (run.foldl take p).digits := by
  have positive : 0 < 10 ^ run.length := Nat.pow_pos (by decide)
  have grown := Nat.le_mul_of_pos_left p.digits positive
  rw [digits_foldl_take, Nat.ofDigitChars_eq_ofDigitChars_zero]
  omega

theorem pointSeen_foldl_take (run : List Char) (p : Progress) :
    (run.foldl take p).pointSeen = p.pointSeen := by
  induction run generalizing p with
  | nil => rfl
  | cons c run ih => exact ih (p.take c)

theorem anyDigit_foldl_take (any : run ≠ [] ∨ p.anyDigit = true) : (run.foldl take p).anyDigit = true := by
  induction run generalizing p with
  | nil => simpa using any
  | cons c run ih => exact ih (.inr rfl)

theorem scale_foldl_take (seen : p.pointSeen = true) (run : List Char) :
    (run.foldl take p).scale = p.scale + run.length := by
  induction run generalizing p with
  | nil => rfl
  | cons c run ih =>
    have step : (p.take c).scale = p.scale + 1 := if_pos seen
    have rest : (run.foldl take (p.take c)).scale = (p.take c).scale + run.length := ih seen
    rw [List.foldl_cons, rest, step, List.length_cons]
    omega

theorem scale_foldl_take_of_whole (whole : p.pointSeen = false) (none : p.scale = 0) (run : List Char) :
    (run.foldl take p).scale = 0 := by
  induction run generalizing p with
  | nil => exact none
  | cons c run ih =>
    have step : (p.take c).scale = 0 := by simp [take, whole]
    exact ih whole step

theorem read_digit (digit : c.isDigit = true) (fits : (p.take c).digits < 2 ^ 96)
    (place : p.pointSeen = true → p.scale < greatestScale) :
    p.read negative (c :: rest) = (p.take c).read negative rest := by
  have room : (p.pointSeen && p.scale == greatestScale) = false := by
    cases seen : p.pointSeen with
    | false => rfl
    | true =>
      have lt := place seen
      simpa using Nat.ne_of_lt lt
  rw [read, if_neg (by simp [room]), if_pos digit]
  exact if_pos fits

theorem read_digits (all : ∀ c ∈ run, c.isDigit = true) (fits : (run.foldl take p).digits < 2 ^ 96)
    (places : p.pointSeen = true → p.scale + run.length ≤ greatestScale) :
    p.read negative (run ++ rest) = (run.foldl take p).read negative rest := by
  induction run generalizing p with
  | nil => rfl
  | cons c run ih =>
    rw [List.forall_mem_cons] at all
    rw [List.foldl_cons] at fits
    -- The number only grows, so it is in range after the first digit if it is in the end.
    have first := le_digits_foldl_take run (p.take c)
    have place : p.pointSeen = true → p.scale < greatestScale := by
      intro seen
      have room := places seen
      rw [List.length_cons] at room
      omega
    have later : (p.take c).pointSeen = true → (p.take c).scale + run.length ≤ greatestScale := by
      intro seen
      have room := places seen
      have step : (p.take c).scale = p.scale + 1 := if_pos seen
      rw [List.length_cons] at room
      omega
    rw [List.cons_append, read_digit all.1 (by omega) place, ih all.2 fits later, List.foldl_cons]

theorem read_point (whole : p.pointSeen = false) :
    p.read negative ('.' :: rest) = { p with pointSeen := true }.read negative rest := by
  rw [read, if_neg (by simp [whole]), if_neg (by decide), if_pos (by simp [whole])]

theorem read_whole (all : ∀ c ∈ run, c.isDigit = true) (fits : (run.foldl take {}).digits < 2 ^ 96) :
    read negative {} run = (run.foldl take {}).finish negative := by
  have digits : read negative {} (run ++ []) = (run.foldl take {}).read negative [] :=
    read_digits all fits (by simp)
  rwa [List.append_nil] at digits

theorem read_pointed (all : ∀ c ∈ run, c.isDigit = true) (behind : ∀ c ∈ rest, c.isDigit = true)
    (fits : (rest.foldl take { run.foldl take {} with pointSeen := true }).digits < 2 ^ 96)
    (places : rest.length ≤ greatestScale) :
    read negative {} (run ++ '.' :: rest) =
      (rest.foldl take { run.foldl take {} with pointSeen := true }).finish negative := by
  have grown := le_digits_foldl_take rest { run.foldl take {} with pointSeen := true }
  have front : (run.foldl take {}).digits < 2 ^ 96 := Nat.lt_of_le_of_lt grown fits
  have whole : (run.foldl take {}).pointSeen = false := pointSeen_foldl_take run {}
  have noScale : (run.foldl take {}).scale = 0 := scale_foldl_take_of_whole rfl rfl run
  have digits : read negative { run.foldl take {} with pointSeen := true } (rest ++ []) =
      (rest.foldl take { run.foldl take {} with pointSeen := true }).read negative [] := by
    refine read_digits behind fits fun _ => ?_
    rw [noScale, Nat.zero_add]
    exact places
  rw [read_digits all front (by simp), read_point whole]
  rwa [List.append_nil] at digits

end Progress

/-! ### The text of a decimal -/

def written (d : Decimal) : List Char := paddedText (d.scale + 1) d.magnitude

def unsignedText (d : Decimal) : List Char :=
  if d.scale = 0 then d.written
  else d.written.take (d.written.length - d.scale) ++ '.' :: d.written.drop (d.written.length - d.scale)

theorem text_eq (d : Decimal) : d.text = if d.negative then '-' :: d.unsignedText else d.unsignedText := by
  by_cases whole : d.scale = 0
  · simp [text, unsignedText, written, whole]
  · simp [text, unsignedText, written, whole]

theorem ofDigitChars_written (d : Decimal) : Nat.ofDigitChars 10 d.written 0 = d.magnitude :=
  Text.digitsValue_paddedText _ _

theorem scale_lt_length_written (d : Decimal) : d.scale < d.written.length := by
  have long := Text.length_paddedText (d.scale + 1) d.magnitude
  rw [written]
  omega

theorem finish_eq {p : Progress} (d : Decimal) (any : p.anyDigit = true) (digits : p.digits = d.magnitude)
    (scale : p.scale = d.scale) : p.finish d.negative = some d.normalSign := by
  rw [Progress.finish, if_pos any, digits, scale]
  exact d.normalSign.ofParts?_eq_some

theorem isDigit_of_mem_written {d : Decimal} {c : Char} (member : c ∈ d.written) : c.isDigit = true :=
  Text.isDigit_of_mem_paddedText member

theorem read_written (d : Decimal) (whole : d.scale = 0) :
    Progress.read d.negative {} d.written = some d.normalSign := by
  have long := d.scale_lt_length_written
  have some : d.written ≠ [] := List.ne_nil_of_length_pos (by omega)
  have digits : (d.written.foldl Progress.take {}).digits = d.magnitude := by
    rw [Progress.digits_foldl_take]
    exact d.ofDigitChars_written
  rw [Progress.read_whole (fun _ => isDigit_of_mem_written) (digits ▸ d.magnitude_lt)]
  refine finish_eq d (Progress.anyDigit_foldl_take (.inl some)) digits ?_
  rw [Progress.scale_foldl_take_of_whole rfl rfl, whole]

theorem read_written_pointed (d : Decimal) {front back : List Char} (split : d.written = front ++ back)
    (any : front ≠ []) (long : back.length = d.scale) :
    Progress.read d.negative {} (front ++ '.' :: back) = some d.normalSign := by
  have all := fun c => isDigit_of_mem_written (d := d) (c := c)
  rw [split] at all
  have digits : (back.foldl Progress.take { front.foldl Progress.take {} with pointSeen := true }).digits =
      d.magnitude := by
    have total := d.ofDigitChars_written
    rw [split, Nat.ofDigitChars_append] at total
    rw [Progress.digits_foldl_take, ← total]
    exact congrArg (Nat.ofDigitChars 10 back) (Progress.digits_foldl_take front {})
  rw [Progress.read_pointed (fun c member => all c (List.mem_append_left _ member))
    (fun c member => all c (List.mem_append_right _ member)) (digits ▸ d.magnitude_lt)
    (long ▸ d.scale_le)]
  refine finish_eq d (Progress.anyDigit_foldl_take (.inr ?_)) digits ?_
  · exact Progress.anyDigit_foldl_take (.inl any)
  · have none : (front.foldl Progress.take {}).scale = 0 := Progress.scale_foldl_take_of_whole rfl rfl front
    rw [Progress.scale_foldl_take rfl, long]
    simp only [none, Nat.zero_add]

theorem read_unsignedText (d : Decimal) :
    Progress.read d.negative {} d.unsignedText = some d.normalSign := by
  have long := d.scale_lt_length_written
  rw [unsignedText]
  split
  · rename_i whole
    exact d.read_written whole
  · refine d.read_written_pointed (List.take_append_drop ..).symm ?_ ?_
    · refine List.ne_nil_of_length_pos ?_
      rw [List.length_take]
      omega
    · rw [List.length_drop]
      omega

theorem exists_unsignedText_eq_cons (d : Decimal) :
    ∃ c s, d.unsignedText = c :: s ∧ c.isDigit = true := by
  obtain ⟨c, s, first, digit⟩ := Text.exists_paddedText_eq_cons (Nat.succ_pos d.scale) d.magnitude
  have long := d.scale_lt_length_written
  rw [unsignedText]
  split
  · exact ⟨c, s, first, digit⟩
  · obtain ⟨k, some⟩ : ∃ k, d.written.length - d.scale = k + 1 := ⟨_, (Nat.succ_pred (by omega)).symm⟩
    have front : d.written.take (k + 1) = c :: s.take k := by rw [written, first, List.take_succ_cons]
    rw [some, front, List.cons_append]
    exact ⟨c, _, rfl, digit⟩

theorem plain?_text (d : Decimal) : plain? d.text = some d.normalSign := by
  have read := d.read_unsignedText
  rw [text_eq]
  cases sign : d.negative with
  | true =>
    rw [sign] at read
    exact read
  | false =>
    rw [sign] at read
    obtain ⟨c, s, first, digit⟩ := d.exists_unsignedText_eq_cons
    rw [first] at read ⊢
    rw [if_neg (by decide), plain?.eq_def]
    split
    · rename_i minus
      exact absurd (List.cons.inj minus).1 (Text.ne_of_isDigit digit rfl)
    · rename_i plus
      exact absurd (List.cons.inj plus).1 (Text.ne_of_isDigit digit rfl)
    · exact read

theorem ofText?_text (d : Decimal) : ofText? d.text = some d.normalSign := by
  rw [ofText?, plain?_text]

end AtomData.Decimal
