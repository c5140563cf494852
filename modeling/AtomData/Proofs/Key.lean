import AtomData.Key
import AtomData.Proofs.Literal
import AtomData.Proofs.Text.Percent
import Mathlib.Data.List.Forall2

/-!
# Written keys

The written form of a key says which key it is.  `text?_decodable` shows what can be read back from it:
the literal of a single value, the names and the values of several.  It also says which characters a
written key holds and which keys have no written form.
-/

namespace AtomData

open Text.Percent

def Value.bareText : Value → String
  | .string s => s
  | .guid g => String.ofList g.text
  | .dateTime t => String.ofList t.literalText
  | v => v.literal

namespace EntityKey

def names : EntityKey → List String
  | single _ => []
  | composite fields => fields.map Prod.fst

def fault? : EntityKey → Option KeyError
  | single v => if v.isNull then some (.unsupportedValue "" "null") else none
  | composite [] => some .empty
  | composite fields =>
    (fields.find? fun field => field.2.isNull).map fun field => .unsupportedValue field.1 "null"

/-! ### Written values -/

/-- The text stands for the content and is written with unreserved characters, `%` and the marks. -/
def Writes (marks text content : List Char) : Prop :=
  Encodes text content ∧ ∀ c ∈ text, isUnreserved c = true ∨ c = '%' ∨ c ∈ marks

theorem writes_encodeComponent (marks s : List Char) : Writes marks (encodeComponent s) s :=
  ⟨encodes_encodeComponent s, fun _ member => (unreserved_of_mem_encodeComponent member).imp_right .inl⟩

theorem writes_of_unreserved (marks : List Char) {s : List Char}
    (unreserved : ∀ c ∈ s, isUnreserved c = true) : Writes marks s s :=
  ⟨Encodes.plain fun percent => ne_percent_of_isUnreserved (unreserved '%' percent) rfl,
    fun c member => .inl (unreserved c member)⟩

theorem Writes.append {marks s t a b : List Char} (first : Writes marks s a) (second : Writes marks t b) :
    Writes marks (s ++ t) (a ++ b) :=
  ⟨first.1.append second.1, List.forall_mem_append.mpr ⟨first.2, second.2⟩⟩

theorem writes_apostrophe : Writes ['\''] ['\''] ['\''] := ⟨Encodes.plain (by decide), List.all_iff_forall_prop.mp (by decide)⟩

theorem writes_quoted (word : List Char) {text content : List Char}
    (letters : ∀ c ∈ word, isUnreserved c = true) (inside : Writes ['\''] text content) :
    Writes ['\''] (word ++ '\'' :: (text ++ ['\''])) (word ++ '\'' :: (content ++ ['\''])) :=
  (writes_of_unreserved _ letters).append (writes_apostrophe.append (inside.append writes_apostrophe))

theorem unreserved_of_mem_guid (g : Guid) : ∀ c ∈ g.text, isUnreserved c = true := by
  intro c member
  rcases g.mem_text c member with letter | rfl
  · simp [isUnreserved, letter]
  · decide

theorem singleText_spec (field : String) {v : Value} (notNull : v.isNull = false) :
    ∃ text, singleText field v = .ok text ∧ Writes ['\''] text v.literal.toList := by
  cases v with
  | null => cases notNull
  | bool | int | long | float | decimal => exact ⟨_, rfl, writes_encodeComponent _ _⟩
  | string s =>
    rw [Value.toList_literal_string]
    exact ⟨_, rfl, writes_quoted [] (by simp) (writes_encodeComponent _ _)⟩
  | guid g =>
    rw [Value.toList_literal_guid]
    exact ⟨_, congrArg Except.ok (by simp),
      writes_quoted "guid".toList (List.all_iff_forall_prop.mp (by decide)) (writes_of_unreserved _ (unreserved_of_mem_guid g))⟩
  | dateTime t =>
    rw [Value.toList_literal_dateTime]
    exact ⟨_, congrArg Except.ok (by simp [quoted]),
      writes_quoted "datetime".toList (List.all_iff_forall_prop.mp (by decide)) (writes_encodeComponent _ _)⟩

theorem fieldText_spec (field : String) {v : Value} (notNull : v.isNull = false) :
    ∃ text, fieldText field v = .ok text ∧ Writes [] text v.bareText.toList := by
  cases v with
  | null => cases notNull
  | bool | int | long | float | decimal | string => exact ⟨_, rfl, writes_encodeComponent _ _⟩
  | guid g =>
    refine ⟨_, rfl, ?_⟩
    rw [Value.bareText, String.toList_ofList]
    exact writes_of_unreserved _ (unreserved_of_mem_guid g)
  | dateTime t =>
    refine ⟨_, rfl, ?_⟩
    rw [Value.bareText, String.toList_ofList]
    exact writes_encodeComponent _ _

/-! ### Written fields -/

def WritesField (field : String × Value) (piece : List Char) : Prop :=
  ∃ text, piece = field.1.toList ++ '=' :: text ∧ Writes [] text field.2.bareText.toList

theorem fieldText_of_isNull {field : String} {v : Value} (null : v.isNull = true) :
    fieldText field v = .error (.unsupportedValue field "null") := by
  cases v <;> cases null
  rfl

theorem fieldTexts_of_find?_eq_some {fields : List (String × Value)} {field : String × Value}
    (found : fields.find? (fun field => field.2.isNull) = some field) :
    fieldTexts fields = .error (.unsupportedValue field.1 "null") := by
  induction fields with
  | nil => cases found
  | cons first fields ih =>
    obtain ⟨name, v⟩ := first
    cases null : v.isNull with
    | true =>
      rw [List.find?_cons_of_pos (a := (name, v)) null] at found
      cases found
      rw [fieldTexts, fieldText_of_isNull null]
      rfl
    | false =>
      obtain ⟨text, written, -⟩ := fieldText_spec name null
      rw [List.find?_cons_of_neg (a := (name, v)) (by simp [null])] at found
      rw [fieldTexts, written, ih found]
      rfl

theorem exists_fieldTexts {fields : List (String × Value)}
    (notNull : ∀ field ∈ fields, field.2.isNull = false) :
    ∃ pieces, fieldTexts fields = .ok pieces ∧ List.Forall₂ WritesField fields pieces := by
  induction fields with
  | nil => exact ⟨[], rfl, .nil⟩
  | cons first fields ih =>
    obtain ⟨name, v⟩ := first
    rw [List.forall_mem_cons] at notNull
    obtain ⟨text, written, writes⟩ := fieldText_spec name notNull.1
    obtain ⟨pieces, rest, each⟩ := ih notNull.2
    refine ⟨(name.toList ++ '=' :: text) :: pieces, ?_, .cons ⟨text, rfl, writes⟩ each⟩
    rw [fieldTexts, written, rest]
    rfl

/-! ### Written keys -/

inductive Written : EntityKey → List Char → Prop
  | single {v : Value} {text : List Char} (writes : Writes ['\''] text v.literal.toList) :
    Written (.single v) text
  | composite {fields : List (String × Value)} {pieces : List (List Char)} (any : fields ≠ [])
    (each : List.Forall₂ WritesField fields pieces) : Written (.composite fields) (Text.join [','] pieces)

theorem fault?_composite {fields : List (String × Value)} (any : fields ≠ []) :
    (composite fields).fault? = (fields.find? fun field => field.2.isNull).map fun field =>
      .unsupportedValue field.1 "null" := by
  cases fields with
  | nil => exact absurd rfl any
  | cons => rfl

theorem text?_composite {fields : List (String × Value)} (any : fields ≠ []) :
    (composite fields).text? = (fieldTexts fields).map (Text.join [',']) := by
  cases fields with
  | nil => exact absurd rfl any
  | cons => rfl

theorem text?_of_fault? {key : EntityKey} {e : KeyError} (fault : key.fault? = some e) :
    key.text? = .error e := by
  cases key with
  | single v => cases v <;> cases fault; rfl
  | composite fields =>
    by_cases any : fields = []
    · subst any
      cases fault
      rfl
    · rw [fault?_composite any, Option.map_eq_some_iff] at fault
      obtain ⟨field, found, rfl⟩ := fault
      rw [text?_composite any, fieldTexts_of_find?_eq_some found]
      rfl

theorem exists_text? {key : EntityKey} (sound : key.fault? = none) :
    ∃ text, key.text? = .ok text ∧ Written key text := by
  cases key with
  | single v =>
    have notNull : v.isNull = false := by
      cases v <;> first | rfl | cases sound
    obtain ⟨text, written, writes⟩ := singleText_spec "" notNull
    exact ⟨text, written, .single writes⟩
  | composite fields =>
    by_cases any : fields = []
    · subst any
      cases sound
    · rw [fault?_composite any, Option.map_eq_none_iff, List.find?_eq_none] at sound
      obtain ⟨pieces, written, each⟩ := exists_fieldTexts (by simpa using sound)
      refine ⟨Text.join [','] pieces, ?_, .composite any each⟩
      rw [text?_composite any, written]
      rfl

theorem text?_eq_error_iff {key : EntityKey} {e : KeyError} :
    key.text? = .error e ↔ key.fault? = some e := by
  refine ⟨fun failed => ?_, text?_of_fault?⟩
  cases fault : key.fault? with
  | some e' => exact congrArg some (Except.error.inj ((text?_of_fault? fault).symm.trans failed))
  | none =>
    obtain ⟨text, ok, -⟩ := exists_text? fault
    cases ok.symm.trans failed

theorem written_of_text? {key : EntityKey} {text : List Char} (ok : key.text? = .ok text) :
    Written key text := by
  cases fault : key.fault? with
  | some e => cases (text?_of_fault? fault).symm.trans ok
  | none =>
    obtain ⟨text', ok', written⟩ := exists_text? fault
    cases ok'.symm.trans ok
    exact written

/-! ### Reading a written key -/

theorem WritesField.mem {field : String × Value} {piece : List Char} (writes : WritesField field piece) :
    ∀ c ∈ piece, isUnreserved c = true ∨ c = '%' ∨ c = '=' ∨ c ∈ field.1.toList := by
  obtain ⟨text, rfl, -, marks⟩ := writes
  rw [List.forall_mem_append, List.forall_mem_cons]
  refine ⟨fun c name => .inr (.inr (.inr name)), .inr (.inr (.inl rfl)), fun c member => ?_⟩
  rcases marks c member with unreserved | percent | none
  · exact .inl unreserved
  · exact .inr (.inl percent)
  · cases none

theorem exists_field {fields : List (String × Value)} {pieces : List (List Char)}
    (each : List.Forall₂ WritesField fields pieces) {piece : List Char} (member : piece ∈ pieces) :
    ∃ field ∈ fields, WritesField field piece := by
  induction each with
  | nil => cases member
  | @cons field first fields pieces writes each ih =>
    rcases List.mem_cons.mp member with rfl | later
    · exact ⟨field, List.mem_cons_self, writes⟩
    · obtain ⟨other, listed, writes⟩ := ih later
      exact ⟨other, List.mem_cons_of_mem field listed, writes⟩

theorem Written.mem {key : EntityKey} {text : List Char} (written : Written key text) : ∀ c ∈ text,
    isUnreserved c = true ∨ c ∈ ['%', '\'', ',', '='] ∨ ∃ name ∈ key.names, c ∈ name.toList := by
  have percent : '%' ∈ ['%', '\'', ',', '='] := by decide
  have sign : '=' ∈ ['%', '\'', ',', '='] := by decide
  cases written with
  | single writes =>
    intro c member
    rcases writes.2 c member with unreserved | rfl | apostrophe
    · exact .inl unreserved
    · exact .inr (.inl percent)
    · exact .inr (.inl (by rw [List.mem_singleton.mp apostrophe]; decide))
  | @composite fields pieces any each =>
    intro c member
    rcases Text.mem_join member with comma | ⟨piece, listed, inside⟩
    · exact .inr (.inl (by rw [List.mem_singleton.mp comma]; decide))
    · obtain ⟨field, named, writes⟩ := exists_field each listed
      rcases writes.mem c inside with unreserved | rfl | rfl | name
      · exact .inl unreserved
      · exact .inr (.inl percent)
      · exact .inr (.inl sign)
      · exact .inr (.inr ⟨field.1, List.mem_map_of_mem named, name⟩)

theorem Written.single_ne_composite {v : Value} {fields : List (String × Value)} {text : List Char}
    (single : Written (.single v) text) (composite : Written (.composite fields) text) : False := by
  cases composite with
  | @composite _ pieces any each =>
    have sign : '=' ∈ Text.join [','] pieces := by
      cases each with
      | nil => exact absurd rfl any
      | @cons _ piece _ pieces writes _ =>
        obtain ⟨text, rfl, -⟩ := writes
        cases pieces <;> simp [Text.join]
    cases single with
    | single writes => exact absurd (writes.2 '=' sign) (by decide)

theorem Written.pieces {fields : List (String × Value)} {text : List Char}
    (written : Written (.composite fields) text)
    (free : ∀ field ∈ fields, ',' ∉ field.1.toList ∧ '=' ∉ field.1.toList) :
    List.Forall₂ (fun field piece => ∃ content, Text.cutFirst? '=' piece = some (field.1.toList, content) ∧
      decodeText? content = some field.2.bareText) fields (Text.pieces ',' text) := by
  cases written with
  | @composite _ pieces any each =>
    have some : pieces ≠ [] := by
      rintro rfl
      cases each
      exact any rfl
    have apart : ∀ piece ∈ pieces, ',' ∉ piece := by
      intro piece member comma
      obtain ⟨field, listed, writes⟩ := exists_field each member
      rcases writes.mem ',' comma with unreserved | percent | sign | name
      · exact absurd unreserved (by decide)
      · exact absurd percent (by decide)
      · exact absurd sign (by decide)
      · exact (free field listed).1 name
    rw [Text.pieces_join some apart]
    refine ((List.forall₂_and_left _ _).mpr ⟨free, each⟩).imp ?_
    rintro field piece ⟨⟨-, unmarked⟩, text, rfl, writes⟩
    exact ⟨text, Text.cutFirst?_append unmarked text, by rw [writes.1.decodeText?, String.ofList_toList]⟩

theorem isNull_eq_false {v : Value} (notNull : v ≠ .null) : v.isNull = false := by
  cases v <;> first | rfl | contradiction

theorem not_mem_of_written {c : Char} (kept : isUnreserved c = true ∨ c ∈ ['%', '\'', ',', '=']) :
    c ∉ ['/', '?', '#', '&', '(', ')'] := by
  intro other
  simp only [List.mem_cons, List.not_mem_nil, or_false] at other
  rcases other with rfl | rfl | rfl | rfl | rfl | rfl <;> revert kept <;> decide

/-- The written form of a key of one value stands for the literal of the value, and that of a key of
several values holds the names of its fields, in order, each with a text that stands for the value
without quotes.  Nothing in it ends an address or the parentheses around the key, and keys of the two
sorts are told apart.  The only faults are a null, of which the first is given, and a lack of fields. -/
theorem text?_decodable :
    (∀ v : Value, v ≠ .null →
      ∃ text, (single v).text? = .ok text ∧ decodeText? text = some v.literal) ∧
    (∀ fields : List (String × Value), fields ≠ [] →
      (∀ field ∈ fields, field.2 ≠ .null ∧ ',' ∉ field.1.toList ∧ '=' ∉ field.1.toList) →
      ∃ text, (composite fields).text? = .ok text ∧
        List.Forall₂ (fun field piece => ∃ content,
          Text.cutFirst? '=' piece = some (field.1.toList, content) ∧
            decodeText? content = some field.2.bareText) fields (Text.pieces ',' text)) ∧
    (∀ (key : EntityKey) text, key.text? = .ok text →
      (∀ name ∈ key.names, ∀ c ∈ name.toList, c.isAlphanum = true ∨ c = '_') →
      ∀ c ∈ text, (isUnreserved c = true ∨ c ∈ ['%', '\'', ',', '=']) ∧
        c ∉ ['/', '?', '#', '&', '(', ')']) ∧
    (∀ v fields text, (single v).text? = .ok text → (composite fields).text? ≠ .ok text) ∧
    ∀ (key : EntityKey) e, key.text? = .error e ↔ key.fault? = some e := by
  refine ⟨fun v notNull => ?_, fun fields any free => ?_, fun key text ok names c member => ?_,
    fun v fields text one several => ?_, fun key e => text?_eq_error_iff⟩
  · have sound : (single v).fault? = none := if_neg (by simp [isNull_eq_false notNull])
    obtain ⟨text, ok, written⟩ := exists_text? sound
    cases written with
    | single writes => exact ⟨text, ok, by rw [writes.1.decodeText?, String.ofList_toList]⟩
  · have sound : (composite fields).fault? = none := by
      rw [fault?_composite any, Option.map_eq_none_iff, List.find?_eq_none]
      intro field member
      simp [isNull_eq_false (free field member).1]
    obtain ⟨text, ok, written⟩ := exists_text? sound
    exact ⟨text, ok, written.pieces fun field member => (free field member).2⟩
  · have kept : isUnreserved c = true ∨ c ∈ ['%', '\'', ',', '='] := by
      rcases (written_of_text? ok).mem c member with unreserved | mark | ⟨name, listed, inside⟩
      · exact .inl unreserved
      · exact .inr mark
      · rcases names name listed c inside with letter | rfl
        · exact .inl (by simp [isUnreserved, letter])
        · exact .inl (by decide)
    exact ⟨kept, not_mem_of_written kept⟩
  · exact (written_of_text? one).single_ne_composite (written_of_text? several)

/-- Commas, equals signs and apostrophes of a value are no marks of the key. -/
example : (composite [("Title", .string "a,b=c'/"), ("Part", .int 2)]).text? =
    .ok "Title=a%2Cb%3Dc%27%2F,Part=2".toList := by
  decide +kernel

end EntityKey
end AtomData
