import AtomData.Proofs.Coercion.Kind
import AtomData.Proofs.Key
import AtomData.Proofs.Schema.Document
import AtomData.Proofs.Schema.Supertype

/-!
# The key of an entity

An entity has the key that its own properties make.  With the default registry it has a written form just if
none of them is null, and what a text property holds can be read back from it.  `own_key_decided` says
what the key is, when it can be written, and how far written keys tell entities apart.
-/

namespace AtomData

open Xml (Node)
open Text.Percent (decodeText?)

namespace Property

variable {p : Property} {raw : String}

/-- The value of the property is its text: the text of a string, or one of which the default registry makes
no value, for lack of a handler or because the handler refuses it. -/
def KeepsText (p : Property) (raw : String) : Prop :=
  p.raw = some raw ∧ (p.typeTag = "Edm.String" ∨ CoercionRegistry.standard.coerce p.typeTag raw = none ∨
    CoercionRegistry.standard.coerce p.typeTag raw = some none)

theorem value_of_keepsText (keeps : p.KeepsText raw) : p.value .standard = .string raw := by
  obtain ⟨text, string | unknown | refused⟩ := keeps
  · have read : CoercionRegistry.standard.coerce p.typeTag raw = some (some (.string raw)) := by
      rw [string]
      exact CoercionRegistry.coerce_of_handler? Handler.string rfl raw
    simp only [value, tryValue, text, read]
  · simp only [value, tryValue, text, unknown]
  · simp only [value, tryValue, text, refused, Option.getD_some]

theorem isNull_value_iff (p : Property) : (p.value .standard).isNull = true ↔ p.raw = none := by
  cases text : p.raw with
  | none => simp [value, tryValue, text, Value.isNull]
  | some raw =>
    have kept (keeps : p.KeepsText raw) : (p.value .standard).isNull = false := by
      rw [value_of_keepsText keeps]
      rfl
    cases read : CoercionRegistry.standard.coerce p.typeTag raw with
    | none => simp [kept ⟨text, .inr (.inl read)⟩]
    | some outcome =>
      cases outcome with
      | none => simp [kept ⟨text, .inr (.inr read)⟩]
      | some v =>
        obtain ⟨kind, content, -, rfl⟩ := CoercionRegistry.eq_value_of_coerce_standard read
        have notNull := EntityKey.isNull_eq_false (kind.value_ne_null content)
        simp [value, tryValue, text, read, notNull]

end Property

theorem EntityType.keys_eq_flatMap (t : EntityType) :
    t.keys = (t :: t.ancestors).reverse.flatMap fun s => PropertyList.keys s.coreProperties := by
  induction t with
  | root d => simp [keys, properties, ancestors, coreProperties, decl]
  | derived d base ih =>
    have own : (derived d base).keys = base.keys ++ PropertyList.keys d.properties := List.filter_append ..
    rw [own, ih, ancestors, List.reverse_cons (a := derived d base), List.flatMap_append]
    simp [coreProperties, decl]

namespace EntityKey

/-- The name that an error gives for a field: a key of one value has no names. -/
def fieldName : EntityKey → String → String
  | single _, _ => ""
  | composite _, name => name

end EntityKey

namespace Entity

variable {e e' : Entity} {key key' : EntityKey} {text : List Char}

theorem Fills.gives_of_mem {elements : List Node} {declared filled : PropertyList} {p : Property} {raw : String}
    (h : Fills elements declared filled) (listed : p ∈ filled) (text : p.raw = some raw) :
    Gives elements p.name (some raw) := by
  obtain ⟨before, after, rfl⟩ := List.append_of_mem listed
  have passed : before.find? (fun q => q.name = p.name) = none := by
    rw [List.find?_eq_none]
    intro q earlier same
    have shadowed := (List.pairwise_append.mp h.rest).2.2 q earlier p List.mem_cons_self
      (of_decide_eq_true same)
    rw [text] at shadowed
    cases shadowed
  rw [← text]
  apply h.first
  rw [PropertyList.named?, List.find?_append, passed, Option.none_or, List.find?_cons_of_pos (by simp)]

/-! ### The form of the key -/

theorem key?_cases (e : Entity) :
    (PropertyList.keys e.properties = [] ∧ e.key? = none) ∨
    (∃ p, PropertyList.keys e.properties = [p] ∧ e.key? = some (.single (p.value e.coercions))) ∨
    2 ≤ (PropertyList.keys e.properties).length ∧
      e.key? = some (.composite ((PropertyList.keys e.properties).map fun p => (p.name, p.value e.coercions))) := by
  unfold key?
  split
  · rename_i none
    exact .inl ⟨none, rfl⟩
  · rename_i only one
    exact .inr (.inl ⟨only, one, rfl⟩)
  · rename_i notNone notOne
    refine .inr (.inr ⟨?_, rfl⟩)
    cases several : PropertyList.keys e.properties with
    | nil => exact absurd several notNone
    | cons p ps =>
      cases ps with
      | nil => exact absurd several (notOne p)
      | cons q qs => simp

theorem key?_eq_single_iff {v : Value} :
    e.key? = some (.single v) ↔
      ∃ p, PropertyList.keys e.properties = [p] ∧ v = p.value e.coercions := by
  rcases e.key?_cases with ⟨none, made⟩ | ⟨p, one, made⟩ | ⟨several, made⟩
  · simp [made, none]
  · simp [made, one, eq_comm]
  · simp only [made, Option.some.injEq, reduceCtorEq, false_iff, not_exists, not_and]
    intro p one
    rw [one] at several
    simp at several

theorem key?_eq_composite_iff {fields : List (String × Value)} :
    e.key? = some (.composite fields) ↔ 2 ≤ (PropertyList.keys e.properties).length ∧
      fields = (PropertyList.keys e.properties).map fun p => (p.name, p.value e.coercions) := by
  rcases e.key?_cases with ⟨none, made⟩ | ⟨p, one, made⟩ | ⟨several, made⟩
  · simp [made, none]
  · simp [made, one]
  · simp [made, several, eq_comm]

/-! ### Keys that cannot be written -/

theorem fault?_of_key? (standard : e.coercions = .standard) (made : e.key? = some key) :
    key.fault? = ((PropertyList.keys e.properties).find? fun p => p.raw.isNone).map fun p =>
      .unsupportedValue (key.fieldName p.name) "null" := by
  have null_iff (p : Property) : (p.value .standard).isNull = p.raw.isNone := by
    rw [Bool.eq_iff_iff, p.isNull_value_iff, Option.isNone_iff_eq_none]
  rcases e.key?_cases with ⟨-, made'⟩ | ⟨p, one, made'⟩ | ⟨several, made'⟩
  · rw [made'] at made
    cases made
  · rw [made', standard] at made
    obtain rfl := Option.some.inj made
    rw [one, EntityKey.fault?, null_iff]
    cases text : p.raw <;> simp [text, EntityKey.fieldName]
  · rw [made', standard] at made
    obtain rfl := Option.some.inj made
    have some : ((PropertyList.keys e.properties).map fun p => (p.name, p.value .standard)) ≠ [] := by
      intro none
      rw [List.map_eq_nil_iff] at none
      simp [none] at several
    rw [EntityKey.fault?_composite some, List.find?_map, Option.map_map]
    simp only [Function.comp_def, null_iff, EntityKey.fieldName]

theorem text?_ok_iff (standard : e.coercions = .standard) (made : e.key? = some key) :
    (∃ text, key.text? = .ok text) ↔ ∀ p ∈ PropertyList.keys e.properties, p.raw ≠ none := by
  have fault := fault?_of_key? standard made
  constructor
  · rintro ⟨text, written⟩ p listed null
    cases found : (PropertyList.keys e.properties).find? fun p => p.raw.isNone with
    | none =>
      have full := List.find?_eq_none.mp found p listed
      simp [null] at full
    | some q =>
      rw [found] at fault
      cases (EntityKey.text?_of_fault? fault).symm.trans written
  · intro full
    have none : (PropertyList.keys e.properties).find? (fun p => p.raw.isNone) = none := by
      rw [List.find?_eq_none]
      intro p listed null
      exact full p listed (Option.isNone_iff_eq_none.mp null)
    rw [none] at fault
    obtain ⟨text, written, -⟩ := EntityKey.exists_text? fault
    exact ⟨text, written⟩

theorem text?_error_iff (standard : e.coercions = .standard) (made : e.key? = some key) {err : KeyError} :
    key.text? = .error err ↔ ∃ before p after, PropertyList.keys e.properties = before ++ p :: after ∧
      (∀ q ∈ before, q.raw ≠ none) ∧ p.raw = none ∧
        err = .unsupportedValue (key.fieldName p.name) "null" := by
  rw [EntityKey.text?_eq_error_iff, fault?_of_key? standard made, Option.map_eq_some_iff]
  constructor
  · rintro ⟨p, found, rfl⟩
    obtain ⟨null, before, after, split, full⟩ := List.find?_eq_some_iff_append.mp found
    exact ⟨before, p, after, split, by simpa [Option.isSome_iff_ne_none] using full, by simpa using null, rfl⟩
  · rintro ⟨before, p, after, split, full, null, rfl⟩
    refine ⟨p, List.find?_eq_some_iff_append.mpr ⟨by simp [null], before, after, split, ?_⟩, rfl⟩
    simpa [Option.isSome_iff_ne_none] using full

/-! ### Reading the key back -/

theorem decode_of_single {v : Value} {p : Property} {raw : String} (standard : e.coercions = .standard)
    (made : e.key? = some (.single v)) (written : (EntityKey.single v).text? = .ok text)
    (one : PropertyList.keys e.properties = [p]) (keeps : p.KeepsText raw) :
    decodeText? text = some (Text.Literal.quote raw) := by
  obtain ⟨q, one', rfl⟩ := key?_eq_single_iff.mp made
  obtain rfl : p = q := (List.cons.inj (one.symm.trans one')).1
  cases EntityKey.written_of_text? written with
  | single writes =>
    rw [writes.1.decodeText?, String.ofList_toList, standard, Property.value_of_keepsText keeps]
    rfl

/-- The piece of a written key for a property: its name, and what can be read as its text. -/
def Shows (p : Property) (piece : List Char) : Prop :=
  ∃ content, Text.cutFirst? '=' piece = some (p.name.toList, content) ∧
    ∀ raw, p.KeepsText raw → decodeText? content = some raw

theorem shows_of_composite {fields : List (String × Value)} (standard : e.coercions = .standard)
    (made : e.key? = some (.composite fields)) (written : (EntityKey.composite fields).text? = .ok text)
    (free : ∀ p ∈ PropertyList.keys e.properties, ',' ∉ p.name.toList ∧ '=' ∉ p.name.toList) :
    List.Forall₂ Shows (PropertyList.keys e.properties) (Text.pieces ',' text) := by
  obtain ⟨-, rfl⟩ := key?_eq_composite_iff.mp made
  have pieces := (EntityKey.written_of_text? written).pieces (by simpa using free)
  refine (List.forall₂_map_left_iff.mp pieces).imp ?_
  rintro p piece ⟨content, cut, read⟩
  refine ⟨content, cut, fun raw keeps => ?_⟩
  rw [read, standard, Property.value_of_keepsText keeps]
  rfl

/-- Two properties of one name, whose texts are the same if both are their values. -/
def Matches (p q : Property) : Prop :=
  p.name = q.name ∧ ∀ raw other, p.KeepsText raw → q.KeepsText other → raw = other

theorem Shows.matches {p q : Property} {piece : List Char} (first : Shows p piece) (second : Shows q piece) :
    Matches p q := by
  obtain ⟨content, cut, read⟩ := first
  obtain ⟨content', cut', read'⟩ := second
  obtain ⟨name, rfl⟩ := Prod.mk.inj (Option.some.inj (cut.symm.trans cut'))
  refine ⟨String.toList_injective name, fun raw other keeps keeps' => ?_⟩
  exact Option.some.inj ((read raw keeps).symm.trans (read' other keeps'))

theorem matches_of_shows {ps qs : List Property} {pieces : List (List Char)}
    (first : List.Forall₂ Shows ps pieces) (second : List.Forall₂ Shows qs pieces) :
    List.Forall₂ Matches ps qs := by
  induction first generalizing qs with
  | nil =>
    cases second
    exact .nil
  | cons shows _ ih =>
    cases second with
    | cons shows' rest => exact .cons (shows.matches shows') (ih rest)

theorem matches_of_text? (standard : e.coercions = .standard) (standard' : e'.coercions = .standard)
    (names : (PropertyList.keys e.properties).map Property.name =
      (PropertyList.keys e'.properties).map Property.name)
    (free : ∀ p ∈ PropertyList.keys e.properties, ',' ∉ p.name.toList ∧ '=' ∉ p.name.toList)
    (free' : ∀ p ∈ PropertyList.keys e'.properties, ',' ∉ p.name.toList ∧ '=' ∉ p.name.toList)
    (made : e.key? = some key) (made' : e'.key? = some key') (written : key.text? = .ok text)
    (written' : key'.text? = .ok text) :
    List.Forall₂ Matches (PropertyList.keys e.properties) (PropertyList.keys e'.properties) := by
  have length := congrArg List.length names
  rw [List.length_map, List.length_map] at length
  cases key with
  | single v =>
    obtain ⟨p, one, -⟩ := key?_eq_single_iff.mp made
    cases key' with
    | single v' =>
      obtain ⟨q, one', -⟩ := key?_eq_single_iff.mp made'
      rw [one, one', List.map_singleton, List.map_singleton] at names
      have same : ∀ raw other, p.KeepsText raw → q.KeepsText other → raw = other := by
        intro raw other keeps keeps'
        have read := decode_of_single standard made written one keeps
        rw [decode_of_single standard' made' written' one' keeps'] at read
        exact (Value.string_literal_injective (Option.some.inj read)).symm
      rw [one, one']
      exact .cons ⟨(List.cons.inj names).1, same⟩ .nil
    | composite fields' =>
      have several := (key?_eq_composite_iff.mp made').1
      rw [← length, one] at several
      simp at several
  | composite fields =>
    have several := (key?_eq_composite_iff.mp made).1
    cases key' with
    | single v' =>
      obtain ⟨q, one', -⟩ := key?_eq_single_iff.mp made'
      rw [length, one'] at several
      simp at several
    | composite fields' =>
      exact matches_of_shows (shows_of_composite standard made written free)
        (shows_of_composite standard' made' written' free')

/-! ### What the key is -/

/-- What the key of an entity says of its key properties.  These are the ones that its type has, those of the
first ancestor in front. -/
structure Keyed (e : Entity) : Prop where
  declared : (PropertyList.keys e.properties).map Property.cleared = e.entityType.keys.map Property.cleared
  inherited : e.entityType.keys = (e.entityType :: e.entityType.ancestors).reverse.flatMap fun t =>
    PropertyList.keys t.coreProperties
  none_iff : e.key? = none ↔ e.entityType.keys = []
  one : e.entityType.keys.length = 1 →
    ∃ p, PropertyList.keys e.properties = [p] ∧ e.key? = some (.single (p.value .standard))
  several : 2 ≤ e.entityType.keys.length →
    e.key? = some (.composite ((PropertyList.keys e.properties).map fun p => (p.name, p.value .standard)))
  written_iff : ∀ key, e.key? = some key →
    ((∃ text, key.text? = .ok text) ↔ ∀ p ∈ PropertyList.keys e.properties, p.raw ≠ none)
  error_iff : ∀ key err, e.key? = some key →
    (key.text? = .error err ↔ ∃ before p after, PropertyList.keys e.properties = before ++ p :: after ∧
      (∀ q ∈ before, q.raw ≠ none) ∧ p.raw = none ∧ err = .unsupportedValue (key.fieldName p.name) "null")
  read_one : ∀ v p raw text, e.key? = some (.single v) → (EntityKey.single v).text? = .ok text →
    PropertyList.keys e.properties = [p] → p.KeepsText raw → decodeText? text = some (Text.Literal.quote raw)
  read_several : ∀ fields text, e.key? = some (.composite fields) →
    (EntityKey.composite fields).text? = .ok text →
    (∀ p ∈ e.entityType.keys, ',' ∉ p.name.toList ∧ '=' ∉ p.name.toList) →
    List.Forall₂ Shows (PropertyList.keys e.properties) (Text.pieces ',' text)

section Made
variable {m m' : Metadata} {entry entry' : Node}

theorem coercions_of_ofEntry {coercions : CoercionRegistry} (made : ofEntry m coercions entry = .ok e) :
    e.coercions = coercions :=
  (describes_of_ofEntry made).coercions

theorem names_of_ofEntry {coercions : CoercionRegistry} (made : ofEntry m coercions entry = .ok e) :
    (PropertyList.keys e.properties).map Property.name = e.entityType.keys.map Property.name :=
  PropertyList.names_of_cleared_eq (keys_of_ofEntry made)

theorem free_of_ofEntry {coercions : CoercionRegistry} (made : ofEntry m coercions entry = .ok e)
    (free : ∀ p ∈ e.entityType.keys, ',' ∉ p.name.toList ∧ '=' ∉ p.name.toList) :
    ∀ p ∈ PropertyList.keys e.properties, ',' ∉ p.name.toList ∧ '=' ∉ p.name.toList := by
  intro p listed
  have named := List.mem_map_of_mem (f := Property.name) listed
  rw [names_of_ofEntry made] at named
  obtain ⟨q, declared, same⟩ := List.mem_map.mp named
  exact same ▸ free q declared

theorem keyed_of_ofEntry (made : ofEntry m .standard entry = .ok e) : e.Keyed := by
  have standard := coercions_of_ofEntry made
  have declared := keys_of_ofEntry made
  have length : (PropertyList.keys e.properties).length = e.entityType.keys.length := by
    have lengths := congrArg List.length declared
    rwa [List.length_map, List.length_map] at lengths
  have cases := e.key?_cases
  rw [standard] at cases
  refine ⟨declared, e.entityType.keys_eq_flatMap, ?_, ?_, ?_, fun key => text?_ok_iff standard,
    fun key err found => text?_error_iff standard found,
    fun v p raw text => decode_of_single standard,
    fun fields text found written free =>
      shows_of_composite standard found written (free_of_ofEntry made free)⟩
  · rw [key?_eq_none_iff, ← List.map_eq_nil_iff, declared, List.map_eq_nil_iff]
  · intro single
    rcases cases with ⟨none, -⟩ | one | ⟨several, -⟩
    · simp [none] at length
      omega
    · exact one
    · omega
  · intro several
    rcases cases with ⟨none, -⟩ | ⟨p, one, -⟩ | ⟨-, composite⟩
    · simp [none] at length
      omega
    · simp [one] at length
      omega
    · exact composite

/-- The key of an entity is that of its key properties: none, one value, or several with their names in the
order of declaration.  It can be written just if none of them is null, and otherwise the first null one is
named.  The text that the entry gives can be read back from a written key wherever it is the value, and so
two entities of a type with the same written key have the same text there. -/
theorem own_key_decided (made : ofEntry m .standard entry = .ok e) :
    e.Keyed ∧
    (∃ elements, ListsElements entry elements ∧
      ∀ p ∈ e.properties, ∀ raw, p.raw = some raw → Gives elements p.name (some raw)) ∧
    ∀ m' entry' e', ofEntry m' .standard entry' = .ok e' → e'.entityType = e.entityType →
      (∀ p ∈ e.entityType.keys, ',' ∉ p.name.toList ∧ '=' ∉ p.name.toList) →
      ∀ key key' text, e.key? = some key → e'.key? = some key' → key.text? = .ok text →
        key'.text? = .ok text →
        List.Forall₂ Matches (PropertyList.keys e.properties) (PropertyList.keys e'.properties) := by
  refine ⟨keyed_of_ofEntry made, ?_, ?_⟩
  · obtain ⟨elements, lists, -, fills⟩ := (describes_of_ofEntry made).filled
    exact ⟨elements, lists, fun p listed raw => fills.gives_of_mem listed⟩
  · intro m' entry' e' made' alike free key key' text found found' written written'
    have names : (PropertyList.keys e.properties).map Property.name =
        (PropertyList.keys e'.properties).map Property.name := by
      rw [names_of_ofEntry made, names_of_ofEntry made', alike]
    exact matches_of_text? (coercions_of_ofEntry made) (coercions_of_ofEntry made') names
      (free_of_ofEntry made free) (free_of_ofEntry made' (alike ▸ free)) found found' written written'

section Kennel

private def keyedDog : EntityType :=
  .root { namespaceName := "Kennel", name := "Dog", properties :=
    [{ name := "Owner", typeTag := "Edm.String", key := true }, { name := "Tag", typeTag := "Edm.Int32", key := true }] }

private def rex : Node :=
  .element "entry" [] [.element "category" [⟨"term", "Kennel.Dog"⟩] [] "",
    .element "properties" [] [.element "Owner" [] [.text "O'Hara, J"] "", .element "Tag" [] [.text "A7"] ""] ""] ""

private def rexKey : List Char := "Owner=O%27Hara%2C%20J,Tag=A7".toList

/-- The tag of a dog is no number, and yet the key of the dog says what it is. -/
theorem own_key_decided_rex :
    ∃ e, ofEntry ⟨["Kennel"], [keyedDog]⟩ .standard rex = .ok e ∧
      (e.key?.bind fun key => key.text?.toOption) = some rexKey ∧
      List.Forall₂ Shows (PropertyList.keys e.properties) (Text.pieces ',' rexKey) ∧
      ∃ p, PropertyList.named? e.properties "Tag" = some p ∧ p.KeepsText "A7" := by
  have outcome : ((ofEntry ⟨["Kennel"], [keyedDog]⟩ .standard rex).toOption.map fun e =>
      (e.entityType, PropertyList.named? e.properties "Tag", e.key?.map EntityKey.text?)) =
      some (keyedDog, some { name := "Tag", typeTag := "Edm.Int32", key := true, raw := some "A7" },
        some (.ok rexKey)) := by
    decide +kernel
  cases made : ofEntry ⟨["Kennel"], [keyedDog]⟩ .standard rex with
  | error err =>
    rw [made] at outcome
    cases outcome
  | ok e =>
    rw [made] at outcome
    obtain ⟨typed, rest⟩ := Prod.mk.inj (Option.some.inj outcome)
    obtain ⟨tag, written⟩ := Prod.mk.inj rest
    obtain ⟨key, found, written⟩ := Option.map_eq_some_iff.mp written
    have keyed := (own_key_decided made).1
    have composite := keyed.several (by rw [typed]; decide)
    rw [composite] at found
    obtain rfl := Option.some.inj found
    have shows := keyed.read_several _ rexKey composite written (by rw [typed]; decide)
    exact ⟨e, rfl, by rw [composite, Option.bind_some, written]; rfl, shows, _, tag, rfl, by decide +kernel⟩

end Kennel

end Made

end Entity

end AtomData
