import AtomData.Entity
import AtomData.Proofs.Coercion.Kind
import Mathlib.Data.List.Basic

/-!
# Access to properties

An entity has ten ways to ask for a property: its value as far as there is one, its value or an error, and
eight getters that ask for one kind of content.  `access_decided` says that all ten see the same: the first
property of the name, its text, and what the handler of its tag makes of the text.
-/

namespace AtomData

/-! ### What a getter asks for -/

namespace ContentKind

def getter : (kind : ContentKind) → Entity → String → Except FieldError (Option kind.Content)
  | string => Entity.getString
  | bool => Entity.getBool
  | int => Entity.getInt
  | long => Entity.getLong
  | float => Entity.getFloat
  | decimal => Entity.getDecimal
  | guid => Entity.getGuid
  | dateTime => Entity.getDateTime

/-- Does the value hold the content?  An integer of 32 bits holds one of 64 bits as well. -/
inductive Holds : (kind : ContentKind) → Value → kind.Content → Prop
  | own (kind : ContentKind) (content : kind.Content) : Holds kind (kind.value content) content
  | widened {n : Int32} {m : Int64} (same : m.toInt = n.toInt) : Holds .long (.int n) m

def pick : (kind : ContentKind) → Value → Option kind.Content
  | string => Value.string?
  | bool => fun
    | .bool b => some b
    | _ => none
  | int => fun
    | .int n => some n
    | _ => none
  | long => fun
    | .long n => some n
    | .int n => some n.toInt64
    | _ => none
  | float => fun
    | .float x => some x
    | _ => none
  | decimal => fun
    | .decimal d => some d
    | _ => none
  | guid => fun
    | .guid g => some g
    | _ => none
  | dateTime => fun
    | .dateTime t => some t
    | _ => none

theorem getter_eq (kind : ContentKind) : kind.getter = Entity.typed kind.name kind.pick := by
  cases kind <;> rfl

theorem holds_of_pick {kind : ContentKind} {v : Value} {content : kind.Content}
    (found : kind.pick v = some content) : kind.Holds v content := by
  cases kind with
  | long =>
    cases v with
    | long n =>
      obtain rfl : n = content := Option.some.inj found
      exact .own .long n
    | int n =>
      obtain rfl : n.toInt64 = content := Option.some.inj found
      exact .widened (Int32.toInt_toInt64 n)
    | _ => cases found
  | _ =>
    cases v <;> cases found
    exact .own _ _

theorem pick_eq_some_iff {kind : ContentKind} {v : Value} {content : kind.Content} :
    kind.pick v = some content ↔ kind.Holds v content := by
  constructor
  · exact holds_of_pick
  · intro held
    cases held with
    | own => cases kind <;> rfl
    | widened same =>
      rename_i n m
      have wide : n.toInt64 = m := Int64.toInt_inj.mp (by rw [Int32.toInt_toInt64, same])
      exact congrArg some wide

theorem not_holds_null {kind : ContentKind} {content : kind.Content} : ¬kind.Holds .null content := by
  rw [← pick_eq_some_iff]
  cases kind <;> exact fun found => by cases found

end ContentKind

/-! ### The first property of a name -/

namespace PropertyList

def IsFirst (ps : PropertyList) (name : String) (p : Property) : Prop :=
  p.name = name ∧ ∃ before after, ps = before ++ p :: after ∧ ∀ q ∈ before, q.name ≠ name

theorem named?_eq_some_iff {ps : PropertyList} {name : String} {p : Property} :
    named? ps name = some p ↔ ps.IsFirst name p := by
  simp [named?, IsFirst, List.find?_eq_some_iff_append]

theorem named?_of_absent {ps : PropertyList} {name : String} (absent : ∀ p ∈ ps, p.name ≠ name) :
    named? ps name = none := by
  simpa [named?] using absent

end PropertyList

namespace Entity

variable {e : Entity} {name : String} {p : Property} {v : Value}

structure Refuses (e : Entity) (name : String) (err : FieldError) : Prop where
  tryGet : e.tryGet name = .error err
  getter : ∀ kind : ContentKind, kind.getter e name = .error err

/-- Whoever asks gets the value or what it holds: content of the kind that is asked for, nothing from null,
and an error that names both kinds from all others. -/
structure Yields (e : Entity) (name : String) (v : Value) : Prop where
  get? : e.get? name = some v
  tryGet : e.tryGet name = .ok v
  content : ∀ (kind : ContentKind) content, kind.getter e name = .ok (some content) ↔ kind.Holds v content
  nothing : ∀ kind : ContentKind, kind.getter e name = .ok none ↔ v = .null
  mismatch : ∀ (kind : ContentKind) err, kind.getter e name = .error err ↔
    v ≠ .null ∧ (∀ content, ¬kind.Holds v content) ∧ err = .typeMismatch name kind.name v.kind

theorem refuses_of_tryGet {err : FieldError} (failed : e.tryGet name = .error err) : e.Refuses name err where
  tryGet := failed
  getter kind := by rw [ContentKind.getter_eq, typed, failed]

theorem getter_of_null (null : e.tryGet name = .ok .null) (kind : ContentKind) :
    kind.getter e name = .ok none := by
  rw [ContentKind.getter_eq, typed, null]

theorem getter_of_pick (read : e.tryGet name = .ok v) {kind : ContentKind} {content : kind.Content}
    (found : kind.pick v = some content) : kind.getter e name = .ok (some content) := by
  have held := ContentKind.holds_of_pick found
  rw [ContentKind.getter_eq, typed, read]
  cases v with
  | null => exact absurd held ContentKind.not_holds_null
  | _ => simp only [found]

theorem getter_of_not_pick (read : e.tryGet name = .ok v) (some : v ≠ .null) {kind : ContentKind}
    (other : kind.pick v = none) : kind.getter e name = .error (.typeMismatch name kind.name v.kind) := by
  rw [ContentKind.getter_eq, typed, read]
  cases v with
  | null => contradiction
  | _ => simp only [other]

theorem yields_of_tryGet (valued : e.get? name = some v) (read : e.tryGet name = .ok v) :
    e.Yields name v := by
  by_cases null : v = .null
  · subst null
    have given := getter_of_null read
    refine ⟨valued, read, fun kind content => ?_, fun kind => ?_, fun kind err => ?_⟩
    · simp [given kind, ContentKind.not_holds_null]
    · simp [given kind]
    · simp [given kind]
  · refine ⟨valued, read, fun kind content => ?_, fun kind => ?_, fun kind err => ?_⟩
    all_goals
      simp only [← ContentKind.pick_eq_some_iff, null]
      cases picked : kind.pick v with
      | some other =>
        rw [getter_of_pick read picked]
        simp
      | none =>
        rw [getter_of_not_pick read null picked]
        simp [null, eq_comm]

theorem get?_of_first (first : e.properties.IsFirst name p) :
    e.get? name = some (p.value e.coercions) := by
  rw [get?, property?, PropertyList.named?_eq_some_iff.mpr first]
  rfl

theorem tryGet_of_first (first : e.properties.IsFirst name p) :
    e.tryGet name = p.tryValue e.coercions := by
  rw [tryGet, property?, PropertyList.named?_eq_some_iff.mpr first]

theorem yields_of_first (first : e.properties.IsFirst name p) (read : p.tryValue e.coercions = .ok v) :
    e.Yields name v := by
  refine yields_of_tryGet ?_ ((tryGet_of_first first).trans read)
  rw [get?_of_first first, Property.value, read]

/-- A text that the handler of its tag refuses is there as a text, but for nobody who asks for its value. -/
theorem refuses_of_first {err : FieldError} (first : e.properties.IsFirst name p)
    (failed : p.tryValue e.coercions = .error err) :
    e.get? name = some (.string (p.raw.getD "")) ∧ e.Refuses name err := by
  refine ⟨?_, refuses_of_tryGet ((tryGet_of_first first).trans failed)⟩
  rw [get?_of_first first, Property.value, failed]

theorem refuses_of_absent (absent : ∀ p ∈ e.properties, p.name ≠ name) :
    e.get? name = none ∧ e.Refuses name (.missing name) := by
  have missing : e.property? name = none := PropertyList.named?_of_absent absent
  refine ⟨?_, refuses_of_tryGet ?_⟩
  · rw [get?, missing]
    rfl
  · rw [tryGet, missing]

theorem access_of_text {raw : String} (first : e.properties.IsFirst name p) (text : p.raw = some raw) :
    (e.coercions.handler? p.typeTag = none → e.Yields name (.string raw)) ∧
    ∀ handler, e.coercions.handler? p.typeTag = some handler →
      (handler raw = none →
        e.get? name = some (.string raw) ∧ e.Refuses name (.coercion name p.typeTag raw)) ∧
      ∀ v, handler raw = some v → e.Yields name v := by
  refine ⟨fun none => ?_, fun handler found => ⟨fun refused => ?_, fun v accepted => ?_⟩⟩
  · refine yields_of_first first ?_
    simp only [Property.tryValue, text, CoercionRegistry.coerce, none, Option.map_none]
  · have failed : p.tryValue e.coercions = .error (.coercion name p.typeTag raw) := by
      simp only [Property.tryValue, text, CoercionRegistry.coerce, found, Option.map_some, refused, first.1]
    have access := refuses_of_first first failed
    rwa [text] at access
  · refine yields_of_first first ?_
    simp only [Property.tryValue, text, CoercionRegistry.coerce, found, Option.map_some, accepted]

theorem yields_null_of_first (first : e.properties.IsFirst name p) (text : p.raw = none) :
    e.Yields name .null :=
  yields_of_first first (by rw [Property.tryValue, text])

theorem getter_standard_eq_none_iff (first : e.properties.IsFirst name p)
    (standard : e.coercions = .standard) (kind : ContentKind) :
    kind.getter e name = .ok none ↔ p.raw = none := by
  cases text : p.raw with
  | none => simp [(yields_null_of_first first text).nothing]
  | some raw =>
    have ⟨untyped, typed⟩ := access_of_text first text
    cases found : e.coercions.handler? p.typeTag with
    | none => simp [(untyped found).nothing]
    | some handler =>
      cases outcome : handler raw with
      | none =>
        have refuses := ((typed handler found).1 outcome).2
        simp [refuses.getter]
      | some v =>
        have accepted : CoercionRegistry.standard.coerce p.typeTag raw = some (some v) :=
          CoercionRegistry.coerce_eq_some_iff.mpr ⟨handler, standard ▸ found, outcome⟩
        obtain ⟨own, content, -, rfl⟩ := CoercionRegistry.eq_value_of_coerce_standard accepted
        have yields := (typed handler found).2 _ outcome
        simp [yields.nothing, own.value_ne_null content]

/-- Every way to ask an entity for a property sees the first property of the name.  Without one there is no
value and an error for all; a property without text is null; a text that the handler of its tag refuses
is given as it is or named in the error; without a handler the text is the value; and otherwise the value is
what the handler makes of the text.  With the default registry that is of the kind of the tag, so a getter
gives nothing just if there is no text. -/
theorem access_decided (e : Entity) (name : String) :
    ((∀ p ∈ e.properties, p.name ≠ name) → e.get? name = none ∧ e.Refuses name (.missing name)) ∧
    (∀ p, e.properties.IsFirst name p →
      (p.raw = none → e.Yields name .null) ∧
      (∀ raw, p.raw = some raw →
        (e.coercions.handler? p.typeTag = none → e.Yields name (.string raw)) ∧
        ∀ handler, e.coercions.handler? p.typeTag = some handler →
          (handler raw = none →
            e.get? name = some (.string raw) ∧ e.Refuses name (.coercion name p.typeTag raw)) ∧
          ∀ v, handler raw = some v → e.Yields name v) ∧
      (e.coercions = .standard → ∀ kind : ContentKind, kind.getter e name = .ok none ↔ p.raw = none)) ∧
    ∀ tag raw v, CoercionRegistry.standard.coerce tag raw = some (some v) →
      ∃ kind content, ContentKind.ofTag? tag = some kind ∧ v = kind.value content := by
  refine ⟨refuses_of_absent, fun p first => ?_,
    fun tag raw v accepted => CoercionRegistry.eq_value_of_coerce_standard accepted⟩
  exact ⟨yields_null_of_first first, fun raw text => access_of_text first text,
    fun standard kind => getter_standard_eq_none_iff first standard kind⟩

end Entity
end AtomData
