import AtomData.Schema.EntityType

/-!
# Metadata

The entity types of a service.  Declarations may refer to base types in any order, so each
declaration carries a mark while the chain of its ancestors is followed: a chain that comes back to
a declaration it is still visiting is a cycle.
-/

namespace AtomData

inductive BaseTypePolicy where
  | strict
  | lenient
  deriving DecidableEq, Repr

structure Metadata where
  namespaces : List String
  entityTypes : List EntityType
  deriving DecidableEq, Repr

namespace Metadata

def empty : Metadata := ⟨[], []⟩

inductive Mark where
  | untouched
  | visiting
  | resolved (t : EntityType)
  deriving DecidableEq, Repr

abbrev Marks (n : Nat) := Vector Mark n

abbrev Place (decls : List EntityTypeDecl) := Fin decls.length

/-- The type of a declaration, once the chain of its ancestors is resolved.  Every call of an
unfinished chain has its own declaration, so `depth` need not exceed the number of declarations by
more than one. -/
def visit (decls : List EntityTypeDecl) (policy : BaseTypePolicy) :
    Nat → Marks decls.length → Place decls →
      Except SchemaError (EntityType × Marks decls.length)
  | 0, _, i => .error (.inheritanceCycle decls[i].fullName)
  | depth + 1, marks, i =>
    match marks[i] with
    | .resolved t => .ok (t, marks)
    | .visiting => .error (.inheritanceCycle decls[i].fullName)
    | .untouched =>
      let opened := marks.set i .visiting
      let close (base : Option EntityType) (marks : Marks decls.length) :=
        let t := EntityType.ofDecl decls[i] base
        (t, marks.set i (.resolved t))
      match decls[i].baseTypeName with
      | none => .ok (close none opened)
      | some reference =>
        match decls.findFinIdx? (·.isNamedBy reference), policy with
        | some j, _ =>
          match visit decls policy depth opened j with
          | .ok (base, marks) => .ok (close (some base) marks)
          | .error e => .error e
        | none, .lenient => .ok (close none opened)
        | none, .strict => .error (.unresolvedBaseType decls[i].fullName reference)

def visitAll (decls : List EntityTypeDecl) (policy : BaseTypePolicy) :
    List (Place decls) → Marks decls.length → Except SchemaError (List EntityType)
  | [], _ => .ok []
  | i :: is, marks => do
    let (t, marks) ← visit decls policy (decls.length + 1) marks i
    let ts ← visitAll decls policy is marks
    return t :: ts

def resolve (decls : List EntityTypeDecl) (policy : BaseTypePolicy) :
    Except SchemaError Metadata := do
  let types ← visitAll decls policy (List.finRange decls.length) (Vector.replicate _ .untouched)
  return ⟨(decls.map EntityTypeDecl.namespaceName).eraseDups, types⟩

/-- The first type of the name; a name with a dot is a full name, and any other a short one. -/
def entityType? (m : Metadata) (name : String) : Option EntityType :=
  if name.toList.contains '.' then m.entityTypes.find? (·.fullName = name)
  else m.entityTypes.find? (·.name = name)

end Metadata
end AtomData
