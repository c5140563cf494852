import AtomData.Key
import AtomData.Schema.EntityType

/-!
# Entities

An entity is one record of a collection: its type, the properties of the type with the raw text
that the server sent, and the registry that turns the text into values.
-/

namespace AtomData

structure Entity where
  entityType : EntityType
  properties : PropertyList
  id : Option String
  source : String
  coercions : CoercionRegistry

namespace Entity

def key? (e : Entity) : Option EntityKey :=
  match PropertyList.keys e.properties with
  | [] => none
  | [only] => some (.single (only.value e.coercions))
  | many => some (.composite (many.map fun p => (p.name, p.value e.coercions)))

def property? (e : Entity) (name : String) : Option Property :=
  PropertyList.named? e.properties name

def has (e : Entity) (name : String) : Bool := PropertyList.has e.properties name

def raw? (e : Entity) (name : String) : Option String := (e.property? name).bind Property.raw

def get? (e : Entity) (name : String) : Option Value :=
  (e.property? name).map fun p => p.value e.coercions

/-- The value of a property, or why it has none. -/
def tryGet (e : Entity) (name : String) : Except FieldError Value :=
  match e.property? name with
  | none => .error (.missing name)
  | some p => p.tryValue e.coercions

/-- The content of a property's value, where `pick` says which values have the kind `expected`.
A null value has no content. -/
def typed {α : Type} (expected : String) (pick : Value → Option α) (e : Entity) (name : String) :
    Except FieldError (Option α) :=
  match e.tryGet name with
  | .error err => .error err
  | .ok .null => .ok none
  | .ok v =>
    match pick v with
    | some a => .ok (some a)
    | none => .error (.typeMismatch name expected v.kind)

def getString : Entity → String → Except FieldError (Option String) :=
  typed "string" Value.string?

def getBool : Entity → String → Except FieldError (Option Bool) :=
  typed "bool" fun
    | .bool b => some b
    | _ => none

def getInt : Entity → String → Except FieldError (Option Int32) :=
  typed "int" fun
    | .int n => some n
    | _ => none

/-- A narrower integer is widened. -/
def getLong : Entity → String → Except FieldError (Option Int64) :=
  typed "long" fun
    | .long n => some n
    | .int n => some n.toInt64
    | _ => none

def getFloat : Entity → String → Except FieldError (Option Binary64) :=
  typed "float" fun
    | .float x => some x
    | _ => none

def getDecimal : Entity → String → Except FieldError (Option Decimal) :=
  typed "decimal" fun
    | .decimal d => some d
    | _ => none

def getGuid : Entity → String → Except FieldError (Option Guid) :=
  typed "guid" fun
    | .guid g => some g
    | _ => none

def getDateTime : Entity → String → Except FieldError (Option Instant) :=
  typed "datetime" fun
    | .dateTime t => some t
    | _ => none

end Entity
end AtomData
