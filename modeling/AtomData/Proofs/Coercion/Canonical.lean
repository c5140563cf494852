import AtomData.Proofs.Coercion.Kind
import AtomData.Proofs.Guid
import AtomData.Proofs.Number.Decimal

/-!
# Canonical texts

A value that was read from a text has a text of its own, and this one is read as the same value.
`coerced_text_canonical` says so for the primitive types other than floating-point numbers and date-times,
and that each type of integers includes the narrower ones.
-/

namespace AtomData

namespace Value

/-- The same value; of decimals, the same number with the same scale. -/
inductive Same : Value → Value → Prop
  | refl (v : Value) : Same v v
  | decimal {d e : Decimal} (number : d.toRat = e.toRat) (scale : d.scale = e.scale) :
    Same (.decimal d) (.decimal e)

def integer? : Value → Option Int
  | int n => some n.toInt
  | long n => some n.toInt
  | _ => none

theorem text_of_integer? {v : Value} {n : Int} (whole : v.integer? = some n) :
    v.text = integerText n ∧ v.literal = integerText n := by
  cases v with
  | int m =>
    cases whole
    exact ⟨rfl, rfl⟩
  | long m =>
    cases whole
    exact ⟨rfl, rfl⟩
  | _ => cases whole

end Value

/-! ### Types of integers -/

/-- A type of integers: how its numbers are read, its range, and the values that hold its numbers. -/
structure IntegerType where
  read : List Char → Option Int
  least : Int
  greatest : Int
  make : Int → Value
  integer?_of_read : ∀ s n, read s = some n → Text.integer? s = some n
  read_integerText : ∀ n, least ≤ n → n ≤ greatest → read (Text.integerText n) = some n
  integer?_make : ∀ n, least ≤ n → n ≤ greatest → (make n).integer? = some n

namespace IntegerType

def handler (type : IntegerType) : Handler := fun raw =>
  (Handler.within type.least type.greatest (type.read (Text.trim raw.toList))).map type.make

variable {type narrow wide : IntegerType} {raw : String} {v : Value}

theorem handler_eq_some_iff : type.handler raw = some v ↔
    ∃ n, type.read (Text.trim raw.toList) = some n ∧ type.least ≤ n ∧ n ≤ type.greatest ∧
      type.make n = v := by
  simp only [handler, Handler.within, Option.map_eq_some_iff, Option.filter_eq_some_iff, decide_eq_true_iff,
    and_assoc]

theorem integer?_of_handler (accepted : type.handler raw = some v) :
    ∃ n, Text.integer? (Text.trim raw.toList) = some n ∧ v.integer? = some n ∧ type.least ≤ n ∧
      n ≤ type.greatest := by
  obtain ⟨n, read, lower, upper, rfl⟩ := handler_eq_some_iff.mp accepted
  exact ⟨n, type.integer?_of_read _ n read, type.integer?_make n lower upper, lower, upper⟩

theorem handler_text (accepted : type.handler raw = some v) : type.handler v.text = some v := by
  obtain ⟨n, -, lower, upper, rfl⟩ := handler_eq_some_iff.mp accepted
  have shown := (Value.text_of_integer? (type.integer?_make n lower upper)).1
  refine handler_eq_some_iff.mpr ⟨n, ?_, lower, upper, rfl⟩
  rw [shown, Value.integerText, String.toList_ofList, Text.trim_of_isNumeral (Text.isNumeral_integerText n)]
  exact type.read_integerText n lower upper

/-- The wide type has all numbers of the narrow one, and reads them with any sign. -/
structure Narrower (narrow wide : IntegerType) : Prop where
  signed : wide.read = Text.integer?
  least : wide.least ≤ narrow.least
  greatest : narrow.greatest ≤ wide.greatest

theorem Narrower.handler (narrower : narrow.Narrower wide) (accepted : narrow.handler raw = some v) :
    ∃ n, narrow.least ≤ n ∧ n ≤ narrow.greatest ∧ v = narrow.make n ∧
      wide.handler raw = some (wide.make n) := by
  obtain ⟨n, read, lower, upper, rfl⟩ := handler_eq_some_iff.mp accepted
  have signed : wide.read (Text.trim raw.toList) = some n := by
    rw [narrower.signed]
    exact narrow.integer?_of_read _ n read
  have above := narrower.least.trans lower
  have below := upper.trans narrower.greatest
  exact ⟨n, lower, upper, rfl, handler_eq_some_iff.mpr ⟨n, signed, above, below, rfl⟩⟩

theorem integer?_int {n : Int} (lower : -2 ^ 31 ≤ n) (upper : n ≤ 2 ^ 31 - 1) :
    (Value.int (Int32.ofInt n)).integer? = some n :=
  congrArg some (Int32.toInt_ofInt_of_le lower (by omega))

theorem integer?_of_unsigned {s : List Char} {n : Int}
    (read : (Text.unsigned? s).map Int.ofNat = some n) : Text.integer? s = some n := by
  obtain ⟨m, digits, rfl⟩ := Option.map_eq_some_iff.mp read
  exact Text.integer?_of_unsigned? digits

theorem unsigned_integerText {n : Int} (nonneg : 0 ≤ n) :
    (Text.unsigned? (Text.integerText n)).map Int.ofNat = some n := by
  rw [Text.integerText, if_neg (by omega), Text.unsigned?_naturalText]
  exact congrArg some (Int.natAbs_of_nonneg nonneg)

def byte : IntegerType where
  read s := (Text.unsigned? s).map Int.ofNat
  least := 0
  greatest := 255
  make n := .int (Int32.ofInt n)
  integer?_of_read := fun _ _ => integer?_of_unsigned
  read_integerText := fun _ lower _ => unsigned_integerText lower
  integer?_make := fun _ lower upper => integer?_int (by omega) (by omega)

def int16 : IntegerType where
  read := Text.integer?
  least := -2 ^ 15
  greatest := 2 ^ 15 - 1
  make n := .int (Int32.ofInt n)
  integer?_of_read := fun _ _ read => read
  read_integerText := fun n _ _ => Text.integer?_integerText n
  integer?_make := fun _ lower upper => integer?_int (by omega) (by omega)

def int32 : IntegerType where
  read := Text.integer?
  least := -2 ^ 31
  greatest := 2 ^ 31 - 1
  make n := .int (Int32.ofInt n)
  integer?_of_read := fun _ _ read => read
  read_integerText := fun n _ _ => Text.integer?_integerText n
  integer?_make := fun _ lower upper => integer?_int lower upper

def int64 : IntegerType where
  read := Text.integer?
  least := -2 ^ 63
  greatest := 2 ^ 63 - 1
  make n := .long (Int64.ofInt n)
  integer?_of_read := fun _ _ read => read
  read_integerText := fun n _ _ => Text.integer?_integerText n
  integer?_make := fun _ lower upper => congrArg some (Int64.toInt_ofInt_of_le lower (by omega))

theorem byte_narrower : byte.Narrower int16 := ⟨rfl, by decide, by decide⟩

theorem int16_narrower : int16.Narrower int32 := ⟨rfl, by decide, by decide⟩

theorem int32_narrower : int32.Narrower int64 := ⟨rfl, by decide, by decide⟩

def ofTag? (tag : String) : Option IntegerType :=
  if tag = "Edm.Byte" then some byte
  else if tag = "Edm.Int16" then some int16
  else if tag = "Edm.Int32" then some int32
  else if tag = "Edm.Int64" then some int64
  else none

end IntegerType

/-! ### Handlers -/

namespace Handler

/-- A value that the handler makes comes back from its own text. -/
def Canonical (handler : Handler) : Prop :=
  ∀ raw v, handler raw = some v → ∃ w, handler v.text = some w ∧ v.Same w

def WritesText (handler : Handler) : Prop := ∀ raw v, handler raw = some v → v.literal = v.text

theorem canonical_string : string.Canonical := by
  intro raw v accepted
  cases accepted
  exact ⟨.string raw, rfl, .refl _⟩

theorem exists_bool_of_boolean {raw : String} {v : Value} (accepted : boolean raw = some v) :
    ∃ b, v = .bool b :=
  yields_boolean raw v accepted

theorem boolean_boolText (b : Bool) : boolean (Value.boolText b) = some (.bool b) := by
  cases b <;> decide

theorem canonical_boolean : boolean.Canonical := by
  intro raw v accepted
  obtain ⟨b, rfl⟩ := exists_bool_of_boolean accepted
  exact ⟨.bool b, boolean_boolText b, .refl _⟩

theorem writesText_boolean : boolean.WritesText := by
  intro raw v accepted
  obtain ⟨b, rfl⟩ := exists_bool_of_boolean accepted
  rfl

theorem canonical_integer (type : IntegerType) : type.handler.Canonical := by
  intro raw v accepted
  exact ⟨v, IntegerType.handler_text accepted, .refl v⟩

theorem writesText_integer (type : IntegerType) : type.handler.WritesText := by
  intro raw v accepted
  obtain ⟨n, -, whole, -⟩ := IntegerType.integer?_of_handler accepted
  have ⟨text, literal⟩ := Value.text_of_integer? whole
  rw [text, literal]

/-- A zero may lose its sign, and then it is the same number. -/
theorem canonical_decimal : decimal.Canonical := by
  intro raw v accepted
  obtain ⟨d, -, rfl⟩ := Option.map_eq_some_iff.mp accepted
  refine ⟨.decimal d.normalSign, ?_, .decimal d.toRat_normalSign.symm rfl⟩
  rw [decimal, Value.text, String.toList_ofList, Text.trim_of_isNumeral d.isNumeral_text, d.ofText?_text]
  rfl

theorem writesText_decimal : decimal.WritesText := by
  intro raw v accepted
  obtain ⟨d, -, rfl⟩ := Option.map_eq_some_iff.mp accepted
  rfl

theorem canonical_guid : guid.Canonical := by
  intro raw v accepted
  obtain ⟨g, -, rfl⟩ := Option.map_eq_some_iff.mp accepted
  refine ⟨.guid g, ?_, .refl _⟩
  rw [guid, Value.text, String.toList_ofList, Text.trim_of_isNumeral g.isNumeral_text, g.ofText?_text]
  rfl

end Handler

/-! ### The default registry -/

namespace CoercionRegistry

def canonicalTags : List String :=
  ["Edm.String", "Edm.Boolean", "Edm.Byte", "Edm.Int16", "Edm.Int32", "Edm.Int64", "Edm.Decimal", "Edm.Guid"]

theorem handler?_of_ofTag? {tag : String} {type : IntegerType} (typed : IntegerType.ofTag? tag = some type) :
    standard.handler? tag = some type.handler := by
  simp only [IntegerType.ofTag?] at typed
  split_ifs at typed <;>
    · cases typed
      subst tag
      rfl

theorem exists_canonical_integer (type : IntegerType) {tag : String}
    (typed : IntegerType.ofTag? tag = some type) :
    ∃ handler, standard.handler? tag = some handler ∧ handler.Canonical ∧ handler.WritesText :=
  ⟨type.handler, handler?_of_ofTag? typed, Handler.canonical_integer type, Handler.writesText_integer type⟩

theorem exists_canonical_handler {tag : String} (listed : tag ∈ canonicalTags) :
    ∃ handler, standard.handler? tag = some handler ∧ handler.Canonical ∧
      (tag ≠ "Edm.String" → tag ≠ "Edm.Guid" → handler.WritesText) := by
  have of_writes : (∃ handler, standard.handler? tag = some handler ∧ handler.Canonical ∧
      handler.WritesText) → ∃ handler, standard.handler? tag = some handler ∧ handler.Canonical ∧
        (tag ≠ "Edm.String" → tag ≠ "Edm.Guid" → handler.WritesText) := by
    rintro ⟨handler, found, canonical, writes⟩
    exact ⟨handler, found, canonical, fun _ _ => writes⟩
  simp only [canonicalTags, List.mem_cons, List.not_mem_nil, or_false] at listed
  rcases listed with rfl | rfl | rfl | rfl | rfl | rfl | rfl | rfl
  · exact ⟨Handler.string, rfl, Handler.canonical_string, by simp⟩
  · exact of_writes ⟨Handler.boolean, rfl, Handler.canonical_boolean, Handler.writesText_boolean⟩
  · exact of_writes (exists_canonical_integer .byte rfl)
  · exact of_writes (exists_canonical_integer .int16 rfl)
  · exact of_writes (exists_canonical_integer .int32 rfl)
  · exact of_writes (exists_canonical_integer .int64 rfl)
  · exact of_writes ⟨Handler.decimal, rfl, Handler.canonical_decimal, Handler.writesText_decimal⟩
  · exact ⟨Handler.guid, rfl, Handler.canonical_guid, by simp⟩

theorem coerce_of_ofTag? (type : IntegerType) {tag : String} (typed : IntegerType.ofTag? tag = some type)
    (raw : String) : standard.coerce tag raw = some (type.handler raw) :=
  coerce_of_handler? type.handler (handler?_of_ofTag? typed) raw

theorem coerce_text {tag raw : String} {v : Value} (listed : tag ∈ canonicalTags)
    (accepted : standard.coerce tag raw = some (some v)) :
    (∃ w, standard.coerce tag v.text = some (some w) ∧ v.Same w) ∧
      (tag ≠ "Edm.String" → tag ≠ "Edm.Guid" → v.literal = v.text) := by
  obtain ⟨handler, found, canonical, writes⟩ := exists_canonical_handler listed
  have read := Option.some.inj ((coerce_of_handler? handler found raw).symm.trans accepted)
  obtain ⟨w, again, same⟩ := canonical raw v read
  refine ⟨⟨w, ?_, same⟩, fun text guid => writes text guid raw v read⟩
  rw [coerce_of_handler? handler found, again]

theorem handler_of_coerce (type : IntegerType) {tag raw : String} {v : Value}
    (typed : IntegerType.ofTag? tag = some type) (accepted : standard.coerce tag raw = some (some v)) :
    type.handler raw = some v :=
  Option.some.inj ((coerce_of_ofTag? type typed raw).symm.trans accepted)

theorem coerce_wider {narrow wide : IntegerType} (narrower : narrow.Narrower wide) (tag wider : String)
    {raw : String} {v : Value} (typed : IntegerType.ofTag? tag = some narrow)
    (typedWider : IntegerType.ofTag? wider = some wide)
    (accepted : standard.coerce tag raw = some (some v)) :
    ∃ n, narrow.least ≤ n ∧ n ≤ narrow.greatest ∧ v = narrow.make n ∧
      standard.coerce wider raw = some (some (wide.make n)) := by
  obtain ⟨n, lower, upper, made, included⟩ := narrower.handler (handler_of_coerce narrow typed accepted)
  refine ⟨n, lower, upper, made, ?_⟩
  rw [coerce_of_ofTag? wide typedWider, included]

theorem coerce_int16_of_byte {raw : String} {v : Value}
    (accepted : standard.coerce "Edm.Byte" raw = some (some v)) :
    ∃ n : Int32, v = .int n ∧ standard.coerce "Edm.Int16" raw = some (some (.int n)) := by
  obtain ⟨n, -, -, made, included⟩ :=
    coerce_wider IntegerType.byte_narrower "Edm.Byte" "Edm.Int16" rfl rfl accepted
  exact ⟨Int32.ofInt n, made, included⟩

theorem coerce_int32_of_int16 {raw : String} {v : Value}
    (accepted : standard.coerce "Edm.Int16" raw = some (some v)) :
    ∃ n : Int32, v = .int n ∧ standard.coerce "Edm.Int32" raw = some (some (.int n)) := by
  obtain ⟨n, -, -, made, included⟩ :=
    coerce_wider IntegerType.int16_narrower "Edm.Int16" "Edm.Int32" rfl rfl accepted
  exact ⟨Int32.ofInt n, made, included⟩

theorem coerce_int64_of_int32 {raw : String} {v : Value}
    (accepted : standard.coerce "Edm.Int32" raw = some (some v)) :
    ∃ n : Int32, v = .int n ∧ standard.coerce "Edm.Int64" raw = some (some (.long n.toInt64)) := by
  obtain ⟨n, lower, upper, made, included⟩ :=
    coerce_wider IntegerType.int32_narrower "Edm.Int32" "Edm.Int64" rfl rfl accepted
  refine ⟨Int32.ofInt n, made, ?_⟩
  rw [included, Int32.toInt64_ofInt lower upper]
  rfl

/-- The values that the default registry reads come back from their texts, and the types of integers nest. -/
theorem coerced_text_canonical (raw : String) :
    (∀ tag ∈ canonicalTags, ∀ v, standard.coerce tag raw = some (some v) →
      (∃ w, standard.coerce tag v.text = some (some w) ∧ v.Same w) ∧
        (tag ≠ "Edm.String" → tag ≠ "Edm.Guid" → v.literal = v.text)) ∧
    (∀ v, standard.coerce "Edm.Byte" raw = some (some v) →
      ∃ n : Int32, v = .int n ∧ standard.coerce "Edm.Int16" raw = some (some (.int n))) ∧
    (∀ v, standard.coerce "Edm.Int16" raw = some (some v) →
      ∃ n : Int32, v = .int n ∧ standard.coerce "Edm.Int32" raw = some (some (.int n))) ∧
    (∀ v, standard.coerce "Edm.Int32" raw = some (some v) →
      ∃ n : Int32, v = .int n ∧ standard.coerce "Edm.Int64" raw = some (some (.long n.toInt64))) ∧
    ∀ tag type v, IntegerType.ofTag? tag = some type → standard.coerce tag raw = some (some v) →
      ∃ n, Text.integer? (Text.trim raw.toList) = some n ∧ v.integer? = some n ∧ type.least ≤ n ∧
        n ≤ type.greatest := by
  refine ⟨?canonical, ?byte, ?int16, ?int32, ?range⟩
  case canonical => exact fun tag listed v accepted => coerce_text listed accepted
  case byte => exact fun v accepted => coerce_int16_of_byte accepted
  case int16 => exact fun v accepted => coerce_int32_of_int16 accepted
  case int32 => exact fun v accepted => coerce_int64_of_int32 accepted
  case range =>
    intro tag type v typed accepted
    exact IntegerType.integer?_of_handler (handler_of_coerce type typed accepted)

end CoercionRegistry
end AtomData
