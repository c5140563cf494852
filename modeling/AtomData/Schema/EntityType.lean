import AtomData.Schema.Property

/-!
# Entity types

A declaration names its base type by reference.  A resolved type holds the base type itself, and
has the properties of all its ancestors before its own.
-/

namespace AtomData

/-- A name within a namespace; the empty namespace leaves no trace. -/
def qualify (namespaceName name : String) : String :=
  if namespaceName = "" then name else namespaceName ++ "." ++ name

structure EntityTypeDecl where
  namespaceName : String
  name : String
  baseTypeName : Option String := none
  properties : PropertyList := []
  deriving DecidableEq, Repr

namespace EntityTypeDecl

def fullName (d : EntityTypeDecl) : String := qualify d.namespaceName d.name

/-- A reference with a dot is a full name, and any other a short one. -/
def isNamedBy (d : EntityTypeDecl) (reference : String) : Bool :=
  if reference.toList.contains '.' then d.fullName = reference else d.name = reference

end EntityTypeDecl

inductive EntityType where
  | root (decl : EntityTypeDecl)
  | derived (decl : EntityTypeDecl) (base : EntityType)
  deriving DecidableEq, Repr

namespace EntityType

def ofDecl (d : EntityTypeDecl) : Option EntityType → EntityType
  | none => root d
  | some base => derived d base

def decl : EntityType → EntityTypeDecl
  | root d | derived d _ => d

def base? : EntityType → Option EntityType
  | root _ => none
  | derived _ base => some base

def name (t : EntityType) : String := t.decl.name

def namespaceName (t : EntityType) : String := t.decl.namespaceName

def fullName (t : EntityType) : String := t.decl.fullName

def coreProperties (t : EntityType) : PropertyList := t.decl.properties

/-- All properties, those of the first ancestor in front. -/
def properties : EntityType → PropertyList
  | root d => d.properties
  | derived d base => base.properties ++ d.properties

def keys (t : EntityType) : PropertyList := PropertyList.keys t.properties

def propertyNames (t : EntityType) : List String := PropertyList.names t.properties

def corePropertyNames (t : EntityType) : List String := PropertyList.names t.coreProperties

def basePropertyNames (t : EntityType) : List String :=
  match t.base? with
  | none => []
  | some base => base.propertyNames

def same (a b : EntityType) : Bool := a.namespaceName = b.namespaceName && a.name = b.name

def distinct (ts : List EntityType) : List EntityType := ts.eraseDupsBy same

def isA (t other : EntityType) : Bool :=
  match t with
  | root d => (root d).same other
  | derived d base => (derived d base).same other || base.isA other

end EntityType
end AtomData
