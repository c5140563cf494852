import AtomData.Text.Digits

/-!
# Digits read back

What a run of digits stands for, also when it is cut in two or filled with zeros in front, and whole
numbers read back from their text, with a sign or without.
-/

namespace AtomData.Text

/-! ### The value of digits -/

theorem digitsValue_append (s t : List Char) :
    digitsValue (s ++ t) = digitsValue s * 10 ^ t.length + digitsValue t := by
  rw [digitsValue, digitsValue, digitsValue, Nat.ofDigitChars_append,
    Nat.ofDigitChars_eq_ofDigitChars_zero, Nat.mul_comm]

theorem digitsValue_naturalText (n : Nat) : digitsValue (naturalText n) = n :=
  Nat.ofDigitChars_toDigits (by decide) (by decide)

theorem digitsValue_paddedText (width n : Nat) : digitsValue (paddedText width n) = n := by
  have zeros : ∀ k, digitsValue (List.replicate k '0') = 0 := by
    intro k
    simp [digitsValue, Nat.ofDigitChars_replicate_zero]
  rw [paddedText, digitsValue_append, zeros, digitsValue_naturalText, Nat.zero_mul, Nat.zero_add]

theorem isDigit_of_mem_paddedText {width n : Nat} {c : Char} (member : c ∈ paddedText width n) :
    c.isDigit = true := by
  rcases List.mem_append.mp member with zero | digit
  · rw [List.eq_of_mem_replicate zero]
    decide
  · exact isDigit_of_mem_naturalText digit

theorem length_paddedText (width n : Nat) :
    (paddedText width n).length = max width (naturalText n).length := by
  simp only [paddedText, List.length_append, List.length_replicate]
  omega

theorem length_paddedText_of_lt {width n : Nat} (some : 0 < width) (lt : n < 10 ^ width) :
    (paddedText width n).length = width := by
  have fits : (naturalText n).length ≤ width := (Nat.length_toDigits_le_iff (by decide) some).mpr lt
  rw [length_paddedText]
  omega

/-! ### The first digit -/

theorem ne_of_isDigit {c other : Char} (digit : c.isDigit = true) (noDigit : other.isDigit = false) :
    c ≠ other := by
  rintro rfl
  rw [digit] at noDigit
  cases noDigit

theorem exists_eq_cons_of_isDigit {s : List Char} (some : s ≠ []) (all : ∀ c ∈ s, c.isDigit = true) :
    ∃ c t, s = c :: t ∧ c.isDigit = true := by
  obtain ⟨c, t, rfl⟩ := List.exists_cons_of_ne_nil some
  exact ⟨c, t, rfl, all c List.mem_cons_self⟩

theorem exists_paddedText_eq_cons {width : Nat} (some : 0 < width) (n : Nat) :
    ∃ c s, paddedText width n = c :: s ∧ c.isDigit = true := by
  have long := length_paddedText width n
  have filled : paddedText width n ≠ [] := List.ne_nil_of_length_pos (by omega)
  exact exists_eq_cons_of_isDigit filled fun _ => isDigit_of_mem_paddedText

theorem exists_naturalText_eq_cons (n : Nat) : ∃ c s, naturalText n = c :: s ∧ c.isDigit = true :=
  exists_eq_cons_of_isDigit (naturalText_ne_nil n) fun _ => isDigit_of_mem_naturalText

/-! ### Whole numbers -/

theorem unsigned?_of_ne_plus {c : Char} (other : c ≠ '+') (s : List Char) :
    unsigned? (c :: s) = natural? (c :: s) := by
  rw [unsigned?.eq_def]
  split
  · rename_i same
    exact absurd (List.cons.inj same).1 other
  · rfl

theorem integer?_of_ne_minus {c : Char} (other : c ≠ '-') (s : List Char) :
    integer? (c :: s) = (unsigned? (c :: s)).map Int.ofNat := by
  rw [integer?.eq_def]
  split
  · rename_i same
    exact absurd (List.cons.inj same).1 other
  · rfl

theorem unsigned?_naturalText (n : Nat) : unsigned? (naturalText n) = some n := by
  obtain ⟨c, s, written, digit⟩ := exists_naturalText_eq_cons n
  rw [written, unsigned?_of_ne_plus (ne_of_isDigit digit rfl), ← written, natural?_naturalText]

theorem integer?_naturalText (n : Nat) : integer? (naturalText n) = some (n : Int) := by
  obtain ⟨c, s, written, digit⟩ := exists_naturalText_eq_cons n
  rw [written, integer?_of_ne_minus (ne_of_isDigit digit rfl), ← written, unsigned?_naturalText]
  rfl

theorem integer?_integerText (n : Int) : integer? (integerText n) = some n := by
  rw [integerText]
  split
  · have same : -(n.natAbs : Int) = n := by omega
    rw [integer?, natural?_naturalText]
    exact congrArg some same
  · have same : (n.natAbs : Int) = n := by omega
    rw [integer?_naturalText, same]

theorem integer?_of_unsigned? {s : List Char} {n : Nat} (read : unsigned? s = some n) :
    integer? s = some (n : Int) := by
  cases s with
  | nil => cases read
  | cons c s =>
    by_cases minus : c = '-'
    · subst minus
      rw [unsigned?_of_ne_plus (by decide), natural?, if_neg (by simp)] at read
      cases read
    · rw [integer?_of_ne_minus minus, read]
      rfl

end AtomData.Text
