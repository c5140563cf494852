import AtomData.Coercion
import Mathlib.Data.List.Induction

/-!
# Kinds of values

What a value holds, by its kind, and the kind that each primitive type has.
`eq_value_of_coerce_standard` says that the default registry keeps to it: whatever text a tag accepts, the
value is of the kind of the tag, and so never null.
-/

namespace AtomData

inductive ContentKind where
  | string
  | bool
  | int
  | long
  | float
  | decimal
  | guid
  | dateTime
  deriving DecidableEq

namespace ContentKind

def Content : ContentKind → Type
  | string => String
  | bool => Bool
  | int => Int32
  | long => Int64
  | float => Binary64
  | decimal => Decimal
  | guid => Guid
  | dateTime => Instant

def value : (kind : ContentKind) → kind.Content → Value
  | string => .string
  | bool => .bool
  | int => .int
  | long => .long
  | float => .float
  | decimal => .decimal
  | guid => .guid
  | dateTime => .dateTime

def name : ContentKind → String
  | string => "string"
  | bool => "bool"
  | int => "int"
  | long => "long"
  | float => "float"
  | decimal => "decimal"
  | guid => "guid"
  | dateTime => "datetime"

def ofTag? (tag : String) : Option ContentKind :=
  if tag = "Edm.String" then some string
  else if tag = "Edm.Boolean" then some bool
  else if tag = "Edm.Byte" ∨ tag = "Edm.Int16" ∨ tag = "Edm.Int32" then some int
  else if tag = "Edm.Int64" then some long
  else if tag = "Edm.Single" ∨ tag = "Edm.Double" then some float
  else if tag = "Edm.Decimal" then some decimal
  else if tag = "Edm.Guid" then some guid
  else if tag = "Edm.DateTime" ∨ tag = "Edm.DateTimeOffset" then some dateTime
  else none

theorem value_ne_null (kind : ContentKind) (content : kind.Content) : kind.value content ≠ .null := by
  cases kind <;> exact fun null => by cases null

end ContentKind

theorem Table.mem_of_get?_ofList {α : Type} {entries : List (String × α)} {name : String} {a : α}
    (found : (Table.ofList entries).get? name = some a) : (name, a) ∈ entries := by
  induction entries using List.reverseRecOn with
  | nil => cases found
  | append_singleton entries entry ih =>
    rw [Table.ofList, List.foldl_append, List.foldl_cons, List.foldl_nil, Table.get?_set] at found
    split at found
    · rename_i named
      cases found
      simp [named]
    · exact List.mem_append_left _ (ih found)

/-! ### The default registry -/

namespace Handler

/-- All values that the handler makes are of the kind. -/
def Yields (handler : Handler) (kind : ContentKind) : Prop :=
  ∀ raw v, handler raw = some v → ∃ content, v = kind.value content

theorem yields_map (kind : ContentKind) {α : Type} (read : String → Option α) (make : α → kind.Content) :
    Yields (fun raw => (read raw).map fun a => kind.value (make a)) kind := by
  intro raw v accepted
  obtain ⟨a, -, made⟩ := Option.map_eq_some_iff.mp accepted
  exact ⟨make a, made.symm⟩

theorem yields_string : string.Yields .string := by
  intro raw v accepted
  exact ⟨raw, (Option.some.inj accepted).symm⟩

theorem yields_boolean : boolean.Yields .bool := by
  intro raw v accepted
  rw [boolean] at accepted
  split at accepted
  · exact ⟨true, (Option.some.inj accepted).symm⟩
  · split at accepted
    · exact ⟨false, (Option.some.inj accepted).symm⟩
    · cases accepted

end Handler

namespace CoercionRegistry

theorem coerce_eq_some_iff {r : CoercionRegistry} {tag raw : String} {outcome : Option Value} :
    r.coerce tag raw = some outcome ↔ ∃ handler, r.handler? tag = some handler ∧ handler raw = outcome :=
  Option.map_eq_some_iff

theorem coerce_of_handler? {r : CoercionRegistry} {tag : String} (handler : Handler)
    (found : r.handler? tag = some handler) (raw : String) : r.coerce tag raw = some (handler raw) := by
  rw [coerce, found, Option.map_some]

theorem yields_of_handler?_standard {tag : String} {handler : Handler}
    (found : standard.handler? tag = some handler) :
    ∃ kind, ContentKind.ofTag? tag = some kind ∧ handler.Yields kind := by
  have listed := Table.mem_of_get?_ofList found
  simp only [List.mem_cons, Prod.mk.injEq, List.not_mem_nil, or_false] at listed
  rcases listed with ⟨rfl, rfl⟩ | ⟨rfl, rfl⟩ | ⟨rfl, rfl⟩ | ⟨rfl, rfl⟩ | ⟨rfl, rfl⟩ | ⟨rfl, rfl⟩ |
    ⟨rfl, rfl⟩ | ⟨rfl, rfl⟩ | ⟨rfl, rfl⟩ | ⟨rfl, rfl⟩ | ⟨rfl, rfl⟩ | ⟨rfl, rfl⟩
  · exact ⟨.string, rfl, Handler.yields_string⟩
  · exact ⟨.bool, rfl, Handler.yields_boolean⟩
  · exact ⟨.dateTime, rfl, Handler.yields_map .dateTime _ id⟩
  · exact ⟨.dateTime, rfl, Handler.yields_map .dateTime _ id⟩
  · exact ⟨.int, rfl, Handler.yields_map .int _ Int32.ofInt⟩
  · exact ⟨.int, rfl, Handler.yields_map .int _ Int32.ofInt⟩
  · exact ⟨.int, rfl, Handler.yields_map .int _ Int32.ofInt⟩
  · exact ⟨.long, rfl, Handler.yields_map .long _ Int64.ofInt⟩
  · exact ⟨.float, rfl, Handler.yields_map .float _ id⟩
  · exact ⟨.float, rfl, Handler.yields_map .float _ id⟩
  · exact ⟨.decimal, rfl, Handler.yields_map .decimal _ id⟩
  · exact ⟨.guid, rfl, Handler.yields_map .guid _ id⟩

theorem eq_value_of_coerce_standard {tag raw : String} {v : Value}
    (accepted : standard.coerce tag raw = some (some v)) :
    ∃ kind content, ContentKind.ofTag? tag = some kind ∧ v = kind.value content := by
  obtain ⟨handler, found, read⟩ := coerce_eq_some_iff.mp accepted
  obtain ⟨kind, tagged, yields⟩ := yields_of_handler?_standard found
  obtain ⟨content, same⟩ := yields raw v read
  exact ⟨kind, content, tagged, same⟩

end CoercionRegistry
end AtomData
