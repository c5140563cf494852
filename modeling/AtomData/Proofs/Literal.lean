import AtomData.Proofs.Text.Blank
import AtomData.Proofs.Text.Pieces
import AtomData.Value

/-!
# Literals

The characters that values are written with, and where the literal of a value ends.
`literal_append_inj` shows that a literal in front of a delimiter is told apart from what follows it:
numbers and the like hold no delimiter, and the apostrophe that closes a string stands alone.
-/

namespace AtomData

def isNumeral (c : Char) : Bool :=
  c.isAlphanum || c == '-' || c == '+' || c == '.' || c == ':'

theorem isNumeral_of_isAlphanum {c : Char} (letter : c.isAlphanum = true) : isNumeral c = true := by
  simp [isNumeral, letter]

theorem isNumeral_of_isDigit {c : Char} (digit : c.isDigit = true) : isNumeral c = true :=
  isNumeral_of_isAlphanum (by simp [Char.isAlphanum, digit])

theorem toNat_bounds (first last : Char) {c : Char}
    (within : first.val ≤ c.val ∧ c.val ≤ last.val) :
    first.toNat ≤ c.toNat ∧ c.toNat ≤ last.toNat :=
  ⟨UInt32.le_iff_toNat_le.mp within.1, UInt32.le_iff_toNat_le.mp within.2⟩

theorem toNat_bounds_of_isAlphanum {c : Char} (letter : c.isAlphanum = true) :
    48 ≤ c.toNat ∧ c.toNat ≤ 122 := by
  rcases Bool.or_eq_true_iff.mp letter with letter | digit
  · rcases Bool.or_eq_true_iff.mp letter with upper | lower
    · have ⟨least, greatest⟩ := toNat_bounds 'A' 'Z' (of_decide_eq_true upper)
      exact ⟨Nat.le_trans (by decide) least, Nat.le_trans greatest (by decide)⟩
    · have both := Bool.and_eq_true_iff.mp lower
      have ⟨least, greatest⟩ := toNat_bounds 'a' 'z'
        ⟨of_decide_eq_true both.1, of_decide_eq_true both.2⟩
      exact ⟨Nat.le_trans (by decide) least, Nat.le_trans greatest (by decide)⟩
  · have ⟨least, greatest⟩ := Char.isDigit_iff_toNat.mp digit
    exact ⟨least, Nat.le_trans greatest (by decide)⟩

theorem not_isBlank_of_isNumeral {c : Char} (numeral : isNumeral c = true) : Text.isBlank c = false := by
  have bounds : 43 ≤ c.toNat ∧ c.toNat ≤ 122 := by
    simp only [isNumeral, Bool.or_eq_true, beq_iff_eq] at numeral
    rcases numeral with (((letter | rfl) | rfl) | rfl) | rfl
    · have within := toNat_bounds_of_isAlphanum letter
      omega
    all_goals decide
  simp [Text.isBlank, Text.inRanges, Text.blankRanges]
  omega

namespace Text

theorem trim_of_isNumeral {s : List Char} (numeral : ∀ c ∈ s, isNumeral c = true) : trim s = s :=
  trim_of_not_blank fun c member => not_isBlank_of_isNumeral (numeral c member)

theorem isNumeral_naturalText (n : Nat) : ∀ c ∈ naturalText n, isNumeral c = true :=
  fun _ member => isNumeral_of_isDigit (isDigit_of_mem_naturalText member)

theorem isNumeral_integerText (n : Int) : ∀ c ∈ integerText n, isNumeral c = true := by
  rw [integerText]
  split
  · exact List.forall_mem_cons.mpr ⟨by decide, isNumeral_naturalText _⟩
  · exact isNumeral_naturalText _

theorem isNumeral_zeros_append (k : Nat) {s : List Char} (numeral : ∀ c ∈ s, isNumeral c = true) :
    ∀ c ∈ List.replicate k '0' ++ s, isNumeral c = true := by
  intro c member
  rcases List.mem_append.mp member with zero | rest
  · rw [List.eq_of_mem_replicate zero]
    decide
  · exact numeral c rest

theorem isNumeral_paddedText (width n : Nat) : ∀ c ∈ paddedText width n, isNumeral c = true :=
  isNumeral_zeros_append _ (isNumeral_naturalText n)

theorem isNumeral_pointed {s : List Char} (numeral : ∀ c ∈ s, isNumeral c = true) (k : Nat) :
    ∀ c ∈ s.take k ++ '.' :: s.drop k, isNumeral c = true := by
  rw [List.forall_mem_append, List.forall_mem_cons]
  exact ⟨fun c member => numeral c (List.mem_of_mem_take member), by decide,
    fun c member => numeral c (List.mem_of_mem_drop member)⟩

end Text

/-! ### Numbers -/

theorem Scientific.isNumeral_positional (d : Scientific) : ∀ c ∈ d.positional, isNumeral c = true := by
  have digits := Text.isNumeral_naturalText d.digits
  rw [positional]
  split
  · rename_i n
    rw [List.forall_mem_append]
    refine ⟨digits, fun c member => ?_⟩
    rw [List.eq_of_mem_replicate member]
    decide
  · exact Text.isNumeral_pointed (Text.isNumeral_zeros_append _ digits) _

theorem Binary64.isNumeral_text (x : Binary64) : ∀ c ∈ x.text.toList, isNumeral c = true := by
  cases x with
  | nan => exact List.all_iff_forall_prop.mp (by decide)
  | infinite negative => cases negative <;> exact List.all_iff_forall_prop.mp (by decide)
  | finite negative m e =>
    have digits : ∀ c ∈ if m = 0 then ['0'] else (Scientific.shortest m e).positional,
        isNumeral c = true := by
      split
      · exact List.all_iff_forall_prop.mp (by decide)
      · exact Scientific.isNumeral_positional _
    rw [text, String.toList_ofList]
    cases negative with
    | false => exact digits
    | true => exact List.forall_mem_cons.mpr ⟨by decide, digits⟩

theorem Decimal.isNumeral_text (d : Decimal) : ∀ c ∈ d.text, isNumeral c = true := by
  have digits := Text.isNumeral_paddedText (d.scale + 1) d.magnitude
  have unsigned : ∀ k, ∀ c ∈ if d.scale = 0 then (Text.paddedText (d.scale + 1) d.magnitude).take k
      else (Text.paddedText (d.scale + 1) d.magnitude).take k ++
        '.' :: (Text.paddedText (d.scale + 1) d.magnitude).drop k, isNumeral c = true := by
    intro k
    split
    · exact fun c member => digits c (List.mem_of_mem_take member)
    · exact Text.isNumeral_pointed digits k
  rw [text]
  split
  · exact List.forall_mem_cons.mpr ⟨by decide, unsigned _⟩
  · exact unsigned _

/-! ### Identifiers and date-times -/

theorem Guid.mem_of_mem_cut {α : Type} {ns : List Nat} {s p : List α} {a : α} (piece : p ∈ cut ns s)
    (member : a ∈ p) : a ∈ s := by
  induction ns generalizing s with
  | nil => cases piece
  | cons n ns ih =>
    rcases List.mem_cons.mp piece with rfl | later
    · exact List.mem_of_mem_take member
    · exact List.mem_of_mem_drop (ih later)

theorem Guid.mem_text (g : Guid) : ∀ c ∈ g.text, c.isAlphanum = true ∨ c = '-' := by
  have digit : ∀ d, (digitChar d).isAlphanum = true := by decide
  refine Text.join_induction (P := fun s => ∀ c ∈ s, c.isAlphanum = true ∨ c = '-') (by simp)
    (fun s t left right => List.forall_mem_append.mpr ⟨left, right⟩) (List.all_iff_forall_prop.mp (by decide)) ?_
  intro p piece c member
  obtain ⟨d, -, rfl⟩ := List.mem_map.mp (mem_of_mem_cut piece member)
  exact .inl (digit d)

theorem Guid.isNumeral_text (g : Guid) : ∀ c ∈ g.text, isNumeral c = true := by
  intro c member
  rcases g.mem_text c member with letter | rfl
  · exact isNumeral_of_isAlphanum letter
  · decide

theorem Instant.isNumeral_dateText (d : Date) : ∀ c ∈ dateText d, isNumeral c = true := by
  have year : ∀ c ∈ yearText d.year, isNumeral c = true := by
    rw [yearText]
    split
    · exact Text.isNumeral_paddedText _ _
    · refine List.forall_mem_cons.mpr ⟨?_, Text.isNumeral_paddedText _ _⟩
      split <;> decide
  simp only [dateText, List.forall_mem_append, List.forall_mem_cons]
  exact ⟨⟨year, by decide, Text.isNumeral_paddedText _ _⟩, by decide, Text.isNumeral_paddedText _ _⟩

theorem Instant.isNumeral_literalText (t : Instant) : ∀ c ∈ t.literalText, isNumeral c = true := by
  have clock : ∀ c ∈ t.clockText, isNumeral c = true := by
    simp only [clockText, List.forall_mem_append, List.forall_mem_cons]
    exact ⟨⟨Text.isNumeral_paddedText _ _, by decide, Text.isNumeral_paddedText _ _⟩, by decide,
      Text.isNumeral_paddedText _ _⟩
  simp only [literalText, List.forall_mem_append, List.forall_mem_cons]
  refine ⟨⟨isNumeral_dateText t.date, by decide, clock⟩, ?_⟩
  split
  · simp
  · exact List.forall_mem_cons.mpr ⟨by decide, Text.isNumeral_paddedText _ _⟩

namespace Value

theorem isNumeral_boolText (b : Bool) : ∀ c ∈ (boolText b).toList, isNumeral c = true := by
  cases b <;> exact List.all_iff_forall_prop.mp (by decide)

theorem isNumeral_integerText (n : Int) : ∀ c ∈ (integerText n).toList, isNumeral c = true := by
  rw [integerText, String.toList_ofList]
  exact Text.isNumeral_integerText n

theorem isNumeral_floatLiteral (x : Binary64) : ∀ c ∈ (floatLiteral x).toList, isNumeral c = true := by
  rw [floatLiteral]
  split
  · rw [String.toList_append, List.forall_mem_append]
    exact ⟨x.isNumeral_text, List.all_iff_forall_prop.mp (by decide)⟩
  · exact x.isNumeral_text

/-! ### Where a literal ends -/

open Text.Literal (double quote)

/-- The text of a literal that is not a string: without delimiters, and without an apostrophe in front. -/
def IsWord (s : List Char) : Prop :=
  (∀ c ∈ s, isNumeral c = true ∨ c = '\'') ∧ s.head? ≠ some '\''

theorem isWord_of_isNumeral {s : List Char} (numeral : ∀ c ∈ s, isNumeral c = true) : IsWord s := by
  refine ⟨fun c member => .inl (numeral c member), fun first => ?_⟩
  have apostrophe := numeral '\'' (List.mem_of_mem_head? first)
  revert apostrophe
  decide

theorem isWord_quoted {word s : List Char} (any : word ≠ []) (letters : ∀ c ∈ word, isNumeral c = true)
    (numeral : ∀ c ∈ s, isNumeral c = true) : IsWord (word ++ '\'' :: (s ++ ['\''])) := by
  constructor
  · simp only [List.forall_mem_append, List.forall_mem_cons, or_true, true_and]
    exact ⟨fun c member => .inl (letters c member), fun c member => .inl (numeral c member), by simp⟩
  · cases word with
    | nil => contradiction
    | cons c word => exact (isWord_of_isNumeral letters).2

theorem toList_literal_string (s : String) :
    (string s).literal.toList = '\'' :: (double s.toList ++ ['\'']) := by
  simp [literal, quote]

theorem toList_literal_guid (g : Guid) :
    (guid g).literal.toList = "guid".toList ++ ('\'' :: (g.text ++ ['\''])) := by
  simp [literal]

theorem toList_literal_dateTime (t : Instant) :
    (dateTime t).literal.toList = "datetime".toList ++ ('\'' :: (t.literalText ++ ['\''])) := by
  simp [literal]

theorem isWord_literal {v : Value} (other : v.string? = none) : IsWord v.literal.toList := by
  cases v with
  | null => exact isWord_of_isNumeral (List.all_iff_forall_prop.mp (by decide))
  | bool b => exact isWord_of_isNumeral (isNumeral_boolText b)
  | int n => exact isWord_of_isNumeral (isNumeral_integerText _)
  | long n => exact isWord_of_isNumeral (isNumeral_integerText _)
  | float x => exact isWord_of_isNumeral (isNumeral_floatLiteral x)
  | decimal d =>
    rw [literal, String.toList_ofList]
    exact isWord_of_isNumeral d.isNumeral_text
  | string s => cases other
  | guid g =>
    rw [toList_literal_guid]
    exact isWord_quoted (by decide) (List.all_iff_forall_prop.mp (by decide)) g.isNumeral_text
  | dateTime t =>
    rw [toList_literal_dateTime]
    exact isWord_quoted (by decide) (List.all_iff_forall_prop.mp (by decide)) t.isNumeral_literalText

/-- Nothing follows, or a character that no literal other than a string holds. -/
def Delimited (rest : List Char) : Prop := ∀ c ∈ rest.head?, c = ' ' ∨ c = ',' ∨ c = ')'

theorem Delimited.not_isNumeral {rest : List Char} (delimited : Delimited rest) :
    ∀ c ∈ rest.head?, ¬(isNumeral c = true ∨ c = '\'') := by
  intro c first
  rcases delimited c first with rfl | rfl | rfl <;> decide

theorem Delimited.head?_ne {rest : List Char} (delimited : Delimited rest) : rest.head? ≠ some '\'' :=
  fun first => delimited.not_isNumeral '\'' first (.inr rfl)

/-- The apostrophe that ends a string has none behind it, and those inside of it come in pairs. -/
theorem double_append_inj {s t r r' : List Char} (ends : r.head? ≠ some '\'')
    (ends' : r'.head? ≠ some '\'') (same : double s ++ '\'' :: r = double t ++ '\'' :: r') :
    s = t ∧ r = r' := by
  induction s generalizing t with
  | nil =>
    cases t with
    | nil => exact ⟨rfl, (List.cons.inj same).2⟩
    | cons d t =>
      simp only [double] at same
      split at same
      · obtain rfl := (List.cons.inj same).2
        exact absurd rfl ends
      · rename_i different
        exact absurd (List.cons.inj same).1.symm different
  | cons c s ih =>
    cases t with
    | nil =>
      simp only [double] at same
      split at same
      · obtain rfl := (List.cons.inj same).2
        exact absurd rfl ends'
      · rename_i different
        exact absurd (List.cons.inj same).1 different
    | cons d t =>
      simp only [double] at same
      split at same <;> split at same <;> rename_i left right
      · obtain ⟨rfl, after⟩ := ih (List.cons.inj (List.cons.inj same).2).2
        exact ⟨by rw [left, right], after⟩
      · exact absurd (List.cons.inj same).1.symm right
      · exact absurd (List.cons.inj same).1 left
      · obtain ⟨rfl, rest⟩ := List.cons.inj same
        obtain ⟨rfl, after⟩ := ih rest
        exact ⟨rfl, after⟩

theorem string_literal_append_ne {s : String} {v : Value} (other : v.string? = none) {r r' : List Char}
    (ends : Delimited r') : (string s).literal.toList ++ r ≠ v.literal.toList ++ r' := by
  intro same
  have first := congrArg List.head? same
  rw [toList_literal_string, List.cons_append, List.head?_cons, List.head?_append] at first
  cases front : v.literal.toList.head? with
  | none =>
    rw [front] at first
    exact ends.head?_ne first.symm
  | some c =>
    rw [front] at first
    exact (isWord_literal other).2 (front.trans first.symm)

theorem eq_string_of_string? {v : Value} {s : String} (found : v.string? = some s) : v = string s := by
  cases v <;> cases found
  rfl

theorem literal_append_inj {v w : Value} {r r' : List Char} (ends : Delimited r) (ends' : Delimited r')
    (same : v.literal.toList ++ r = w.literal.toList ++ r') : v.literal = w.literal ∧ r = r' := by
  cases left : v.string? with
  | some s =>
    obtain rfl := eq_string_of_string? left
    cases right : w.string? with
    | some t =>
      obtain rfl := eq_string_of_string? right
      simp only [toList_literal_string, List.cons_append, List.append_assoc] at same
      obtain ⟨content, after⟩ := double_append_inj ends.head?_ne ends'.head?_ne (List.cons.inj same).2
      exact ⟨by rw [String.toList_injective content], after⟩
    | none => exact absurd same (string_literal_append_ne right ends')
  | none =>
    cases right : w.string? with
    | some t =>
      obtain rfl := eq_string_of_string? right
      exact absurd same.symm (string_literal_append_ne left ends)
    | none =>
      have ⟨literal, after⟩ := Text.run_append_inj (isWord_literal left).1 (isWord_literal right).1
        ends.not_isNumeral ends'.not_isNumeral same
      exact ⟨String.toList_injective literal, after⟩

theorem string_literal_injective {s t : String}
    (same : (string s).literal = (string t).literal) : s = t := by
  have quoted := congrArg String.toList same
  rw [toList_literal_string, toList_literal_string] at quoted
  exact String.toList_injective (double_append_inj (by simp) (by simp) (List.cons.inj quoted).2).1

end Value

end AtomData
