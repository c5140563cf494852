import AtomData.Schema.Metadata
import AtomData.Xml.Document

/-!
# Metadata documents

Reading entity type declarations from a metadata document, and the metadata that they resolve to.
-/

namespace AtomData

open Xml (Node)

def requiredAttribute (n : Node) (element attributeName : String) : Except SchemaError String :=
  match n.attribute? attributeName with
  | some value => .ok value
  | none => .error (.missingAttribute element attributeName)

/-- A property may be null unless the declaration says `false`, in any case. -/
def Property.ofNode (n : Node) : Except SchemaError Property := do
  let name ← requiredAttribute n "Property" "Name"
  let typeTag ← requiredAttribute n "Property" "Type"
  let refused := (n.attribute? "Nullable").any fun v => v.toList.map Char.toLower = "false".toList
  return { name, typeTag, nullable := !refused }

/-- Marks the first property of each name as a key property; other names have no effect. -/
def PropertyList.markKeys (names : List String) (ps : PropertyList) : PropertyList :=
  names.foldl (fun ps name => PropertyList.update name (fun p => { p with key := true }) ps) ps

def keyReferences (n : Node) : List Node :=
  (n.childrenNamed "Key").flatMap fun key => key.childrenNamed "PropertyRef"

def EntityTypeDecl.ofNode (namespaceName : String) (n : Node) :
    Except SchemaError EntityTypeDecl := do
  let name ← requiredAttribute n "EntityType" "Name"
  let properties ← (n.childrenNamed "Property").mapM Property.ofNode
  let keyNames ← (keyReferences n).mapM fun r => requiredAttribute r "PropertyRef" "Name"
  return { namespaceName, name, baseTypeName := n.attribute? "BaseType",
           properties := PropertyList.markKeys keyNames properties }

def schemaDecls (n : Node) : Except SchemaError (List EntityTypeDecl) := do
  let namespaceName ← requiredAttribute n "Schema" "Namespace"
  (n.childrenNamed "EntityType").mapM (EntityTypeDecl.ofNode namespaceName)

def metadataDecls (root : Node) : Except SchemaError (List EntityTypeDecl) := do
  return (← (root.descendantsNamed "Schema").mapM schemaDecls).flatten

def Metadata.ofNode (policy : BaseTypePolicy) (root : Node) : Except SchemaError Metadata := do
  resolve (← metadataDecls root) policy

def Metadata.ofText (policy : BaseTypePolicy) (body : String) : Except Error Metadata := do
  let root ← (Xml.read body).mapError .document
  (ofNode policy root).mapError .schema

end AtomData
