import AtomData.Proofs.Basic
import AtomData.Proofs.Key
import AtomData.Record

/-!
# Written records

The written form of a record: each field with its name and, for an integer of 64 bits with a sign, its
digits.  `record_written` says what every record is written as, and that an integer beyond these is not
kept: it is written as a floating-point number.
-/

namespace AtomData

open Text.Percent

namespace EntityKey

/-- What stands for the value of a record's field. -/
inductive DatumWritten : Datum → List Char → Prop
  | bool (b : Bool) : DatumWritten (.bool b) (encode (Value.boolText b))
  | string (s : String) : DatumWritten (.string s) (encode s)
  | integer {n : Int} (lower : -2 ^ 63 ≤ n) (upper : n < 2 ^ 63) :
    DatumWritten (.integer n) (Text.integerText n)
  | wide {n : Int} (outside : ¬(-2 ^ 63 ≤ n ∧ n < 2 ^ 63)) :
    DatumWritten (.integer n) (encode (Value.floatLiteral (Binary64.ofInt n)))
  | real (x : Binary64) : DatumWritten (.real x) (encode (Value.floatLiteral x))

def FieldWritten (field : String × Datum) (piece : List Char) : Prop :=
  ∃ content, piece = field.1.toList ++ '=' :: content ∧ DatumWritten field.2 content

/-! ### Integers -/

theorem encodeComponent_of_unreserved {s : List Char} (unreserved : ∀ c ∈ s, isUnreserved c = true) :
    encodeComponent s = s := by
  induction s with
  | nil => rfl
  | cons c s ih =>
    rw [List.forall_mem_cons] at unreserved
    rw [encodeComponent, List.flatMap_cons, ← encodeComponent, ih unreserved.2, encodeChar,
      if_pos unreserved.1]
    rfl

theorem mem_integerText {n : Int} {c : Char} (mem : c ∈ Text.integerText n) : c.isDigit = true ∨ c = '-' := by
  rw [Text.integerText] at mem
  split at mem
  · rcases List.mem_cons.mp mem with rfl | digit
    · exact .inr rfl
    · exact .inl (Text.isDigit_of_mem_naturalText digit)
  · exact .inl (Text.isDigit_of_mem_naturalText mem)

theorem encode_integerText (n : Int) : encode (Value.integerText n) = Text.integerText n := by
  rw [encode, Value.integerText, String.toList_ofList]
  refine encodeComponent_of_unreserved fun c mem => ?_
  rcases mem_integerText mem with digit | rfl
  · simp [isUnreserved, Char.isAlphanum, digit]
  · decide

theorem exists_mem_floatLiteral (x : Binary64) :
    ∃ c ∈ (Value.floatLiteral x).toList, isUnreserved c = true ∧ c.isDigit = false ∧ c ≠ '-' := by
  cases x with
  | nan => exact ⟨'N', by decide, by decide, by decide, by decide⟩
  | infinite negative => exact ⟨'i', by cases negative <;> decide, by decide, by decide, by decide⟩
  | finite negative m e =>
    refine ⟨'.', ?_, by decide, by decide, by decide⟩
    rw [Value.floatLiteral]
    split
    · rw [String.toList_append]
      exact List.mem_append_right _ (by decide)
    · rename_i pointed
      simpa [Binary64.isFinite] using pointed

theorem encode_floatLiteral_ne (x : Binary64) (n : Int) :
    encode (Value.floatLiteral x) ≠ Text.integerText n := by
  obtain ⟨c, mem, unreserved, noDigit, noSign⟩ := exists_mem_floatLiteral x
  intro same
  have kept : c ∈ encode (Value.floatLiteral x) := by
    refine List.mem_flatMap.mpr ⟨c, mem, ?_⟩
    rw [encodeChar, if_pos unreserved]
    exact List.mem_singleton_self c
  rw [same] at kept
  rcases mem_integerText kept with digit | sign
  · rw [noDigit] at digit
    cases digit
  · exact noSign sign

/-! ### Fields -/

theorem datumWritten_integer_iff {n : Int} {content : List Char} :
    DatumWritten (.integer n) content ↔
      content = if -2 ^ 63 ≤ n ∧ n < 2 ^ 63 then Text.integerText n
        else encode (Value.floatLiteral (Binary64.ofInt n)) := by
  constructor
  · rintro (_ | _ | ⟨lower, upper⟩ | outside)
    · rw [if_pos ⟨lower, upper⟩]
    · rw [if_neg outside]
  · rintro rfl
    split
    · rename_i inside
      exact .integer inside.1 inside.2
    · rename_i outside
      exact .wide outside

/-- An integer takes the narrowest kind that holds it, and each kind keeps it. -/
theorem fieldText_of_integer (name : String) (n : Int) :
    ((Datum.integer n).value? name).bind (fieldText name) =
      .ok (if -2 ^ 63 ≤ n ∧ n < 2 ^ 63 then Text.integerText n
        else encode (Value.floatLiteral (Binary64.ofInt n))) := by
  rw [Datum.value?]
  by_cases narrow : -2 ^ 31 ≤ n ∧ n < 2 ^ 31
  · have inside : -2 ^ 63 ≤ n ∧ n < 2 ^ 63 := by omega
    have kept := Int32.toInt_ofInt_of_le narrow.1 narrow.2
    rw [if_pos narrow, if_pos inside, ← encode_integerText]
    simp only [Except.bind, fieldText, Value.literal, kept]
  · rw [if_neg narrow]
    by_cases inside : -2 ^ 63 ≤ n ∧ n < 2 ^ 63
    · have kept := Int64.toInt_ofInt_of_le inside.1 inside.2
      rw [if_pos inside, if_pos inside, ← encode_integerText]
      simp only [Except.bind, fieldText, Value.literal, kept]
    · rw [if_neg inside, if_neg inside]
      rfl

theorem fieldText_value?_eq_ok_iff {name : String} {d : Datum} {content : List Char} :
    (d.value? name).bind (fieldText name) = .ok content ↔ DatumWritten d content := by
  cases d with
  | integer n => rw [fieldText_of_integer, datumWritten_integer_iff, Except.ok.injEq, eq_comm]
  | bool | real | string =>
    constructor
    · intro written
      cases written
      constructor
    · rintro ⟨⟩
      rfl
  | null | array | object =>
    constructor
    · intro written
      cases written
    · intro written
      cases written

theorem fieldTexts_values?_eq_ok_iff {fields : List (String × Datum)} {pieces : List (List Char)} :
    (Datum.values? fields).bind fieldTexts = .ok pieces ↔ List.Forall₂ FieldWritten fields pieces := by
  induction fields generalizing pieces with
  | nil => rw [List.forall₂_nil_left_iff, Datum.values?, Except.bind, fieldTexts, Except.ok.injEq, eq_comm]
  | cons field fields ih =>
    obtain ⟨name, d⟩ := field
    rw [List.forall₂_cons_left_iff, Datum.values?]
    constructor
    · intro written
      obtain ⟨vs, values, written⟩ := Except.bind_eq_ok_iff.mp written
      obtain ⟨v, value, values⟩ := Except.bind_eq_ok_iff.mp values
      obtain ⟨rest, others, values⟩ := Except.bind_eq_ok_iff.mp values
      obtain rfl := Except.ok.inj values
      obtain ⟨content, text, written⟩ := Except.bind_eq_ok_iff.mp written
      obtain ⟨tail, texts, written⟩ := Except.bind_eq_ok_iff.mp written
      obtain rfl := Except.ok.inj written
      have first := fieldText_value?_eq_ok_iff.mp (Except.bind_eq_ok_iff.mpr ⟨v, value, text⟩)
      have later := ih.mp (Except.bind_eq_ok_iff.mpr ⟨rest, others, texts⟩)
      exact ⟨_, tail, ⟨content, rfl, first⟩, later, rfl⟩
    · rintro ⟨-, tail, ⟨content, rfl, first⟩, later, rfl⟩
      obtain ⟨v, value, text⟩ := Except.bind_eq_ok_iff.mp (fieldText_value?_eq_ok_iff.mpr first)
      obtain ⟨rest, others, texts⟩ := Except.bind_eq_ok_iff.mp (ih.mpr later)
      rw [value, others]
      show fieldTexts ((name, v) :: rest) = _
      rw [fieldTexts, text, texts]
      rfl

/-! ### Records -/

theorem length_of_fieldTexts {fields : List (String × Value)} {pieces : List (List Char)}
    (written : fieldTexts fields = .ok pieces) : pieces.length = fields.length := by
  induction fields generalizing pieces with
  | nil =>
    obtain rfl := Except.ok.inj written
    rfl
  | cons field fields ih =>
    obtain ⟨name, v⟩ := field
    rw [fieldTexts] at written
    obtain ⟨content, -, written⟩ := Except.bind_eq_ok_iff.mp written
    obtain ⟨rest, texts, written⟩ := Except.bind_eq_ok_iff.mp written
    obtain rfl := Except.ok.inj written
    rw [List.length_cons, List.length_cons, ih texts]

theorem text?_composite_eq_ok_iff {fields : List (String × Value)} {text : List Char} :
    (composite fields).text? = .ok text ↔
      ∃ pieces, fieldTexts fields = .ok pieces ∧ pieces ≠ [] ∧ text = Text.join [','] pieces := by
  by_cases none : fields = []
  · subst none
    constructor
    · intro written
      cases written
    · rintro ⟨pieces, written, any, -⟩
      exact absurd (Except.ok.inj written).symm any
  · rw [text?_composite none]
    cases texts : fieldTexts fields with
    | error e => simp [Except.map]
    | ok pieces =>
      have any : pieces ≠ [] := by
        have same := length_of_fieldTexts texts
        have positive := List.length_pos_of_ne_nil none
        exact List.ne_nil_of_length_pos (by omega)
      simp [Except.map, any, eq_comm]

theorem text?_ofRecord_eq_ok_iff {fields : List (String × Datum)} {text : List Char} :
    (ofRecord (.object fields)).bind text? = .ok text ↔
      ∃ pieces, pieces ≠ [] ∧ List.Forall₂ FieldWritten (Table.ofList fields).entries pieces ∧
        text = Text.join [','] pieces := by
  simp only [← fieldTexts_values?_eq_ok_iff, ofRecord]
  cases values : Datum.values? (Table.ofList fields).entries with
  | error e => simp [Except.map, Except.bind]
  | ok vs =>
    show (composite vs).text? = .ok text ↔ ∃ pieces, pieces ≠ [] ∧ fieldTexts vs = .ok pieces ∧ _
    rw [text?_composite_eq_ok_iff]
    refine exists_congr fun pieces => ?_
    exact and_left_comm

def KeepsInteger (field : String × Datum) (piece : List Char) : Prop :=
  ∀ n, field.2 = .integer n → piece = field.1.toList ++ '=' :: Text.integerText n

theorem keepsInteger_iff {field : String × Datum} {piece : List Char} (written : FieldWritten field piece) :
    KeepsInteger field piece ↔ ∀ n, field.2 = .integer n → -2 ^ 63 ≤ n ∧ n < 2 ^ 63 := by
  obtain ⟨content, rfl, written⟩ := written
  refine forall_congr' fun n => imp_congr_right fun integer => ?_
  rw [integer, datumWritten_integer_iff] at written
  rw [List.append_cancel_left_eq, List.cons_inj_right, written]
  constructor
  · intro same
    by_contra outside
    rw [if_neg outside] at same
    exact encode_floatLiteral_ne _ n same
  · intro inside
    rw [if_pos inside]

/-- A record has a written form just if it has a field, and none of its fields is null or a structure.  The
written form keeps the integers of the record just if each is one of 64 bits with a sign. -/
theorem record_written (d : Datum) (text : List Char) :
    ((ofRecord d).bind text? = .ok text ↔
      ∃ fields pieces, d = .object fields ∧ pieces ≠ [] ∧
        List.Forall₂ FieldWritten (Table.ofList fields).entries pieces ∧ text = Text.join [','] pieces) ∧
    ∀ fields pieces, List.Forall₂ FieldWritten fields pieces →
      (List.Forall₂ KeepsInteger fields pieces ↔
        ∀ field ∈ fields, ∀ n, field.2 = .integer n → -2 ^ 63 ≤ n ∧ n < 2 ^ 63) := by
  constructor
  · constructor
    · intro written
      obtain ⟨key, made, -⟩ := Except.bind_eq_ok_iff.mp written
      cases d with
      | object fields =>
        obtain ⟨pieces, any, each, joined⟩ := text?_ofRecord_eq_ok_iff.mp written
        exact ⟨fields, pieces, rfl, any, each, joined⟩
      | _ => cases made
    · rintro ⟨fields, pieces, rfl, any, each, joined⟩
      exact text?_ofRecord_eq_ok_iff.mpr ⟨pieces, any, each, joined⟩
  · intro fields pieces each
    induction each with
    | nil => simp
    | cons first _ ih => rw [List.forall₂_cons, keepsInteger_iff first, ih, List.forall_mem_cons]

/-- An integer of 64 bits without a sign is written as another number. -/
theorem wide_integer_rounded :
    (ofRecord (.object [("Id", .integer (2 ^ 63 + 1))])).bind text? = .ok "Id=9223372036854776000.0".toList ∧
    Text.integerText (2 ^ 63 + 1) = "9223372036854775809".toList := by
  decide +kernel

end EntityKey

end AtomData
