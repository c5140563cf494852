import AtomData.Coercion
import AtomData.Error

/-!
# Properties

A property has a name, a type tag and, on an entity, the raw text that the server sent.  A list of
properties may hold one name more than once; the first one answers for the name.
-/

namespace AtomData

structure Property where
  name : String
  typeTag : String
  nullable : Bool := true
  key : Bool := false
  raw : Option String := none
  deriving DecidableEq, Repr

namespace Property

def isNull (p : Property) : Bool := p.raw.isNone

def cleared (p : Property) : Property := { p with raw := none }

/-- The value that the registry makes of the text.  Without text it is null, and without a handler
for the tag it is the text itself. -/
def tryValue (p : Property) (r : CoercionRegistry) : Except FieldError Value :=
  match p.raw with
  | none => .ok .null
  | some raw =>
    match r.coerce p.typeTag raw with
    | some (some v) => .ok v
    | some none => .error (.coercion p.name p.typeTag raw)
    | none => .ok (.string raw)

/-- The value as far as there is one, and otherwise the text itself. -/
def value (p : Property) (r : CoercionRegistry) : Value :=
  match p.tryValue r with
  | .ok v => v
  | .error _ => .string (p.raw.getD "")

end Property

abbrev PropertyList := List Property

namespace PropertyList

def named? (ps : PropertyList) (name : String) : Option Property := ps.find? fun p => p.name = name

def has (ps : PropertyList) (name : String) : Bool := (named? ps name).isSome

def update (name : String) (change : Property → Property) : PropertyList → PropertyList
  | [] => []
  | p :: ps => if p.name = name then change p :: ps else p :: update name change ps

def insertName (name : String) : List String → List String
  | [] => [name]
  | other :: names =>
    if name = other then other :: names
    else if name < other then name :: other :: names
    else other :: insertName name names

def names (ps : PropertyList) : List String := ps.foldr (fun p names => insertName p.name names) []

def keys (ps : PropertyList) : PropertyList := ps.filter Property.key

def cleared (ps : PropertyList) : PropertyList := ps.map Property.cleared

end PropertyList
end AtomData
