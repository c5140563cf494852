import AtomData.Entity
import AtomData.Schema.Metadata
import AtomData.Xml.Document

/-!
# Entries

Making an entity of an entry.  The entry names its type in a category, and the properties that it
gives are those of the properties block inside its content, or else beside it.
-/

namespace AtomData

open Xml (Node)

/-- The type name that an entry gives: the first category term. -/
def categoryTerm? (entry : Node) : Option String :=
  (entry.childrenNamed "category").findSome? fun category => category.attribute? "term"

def propertiesBlock? (entry : Node) : Option Node :=
  ((entry.child? "content").bind fun content => content.child? "properties").orElse
    fun _ => entry.child? "properties"

/-- The text that an element gives its property; an element marked as null gives none. -/
def rawText? (element : Node) : Option String :=
  if element.attribute? "null" = some "true" then none else some element.content

/-- Sets the properties that the elements name, in their order.  Each must be declared. -/
def fillProperties (typeName : String) :
    List Node → PropertyList → Except EntryError PropertyList
  | [], ps => .ok ps
  | element :: elements, ps =>
    let name := (element.name?).getD ""
    if PropertyList.has ps name then
      fillProperties typeName elements
        (PropertyList.update name (fun p => { p with raw := rawText? element }) ps)
    else .error (.unknownProperty typeName name)

def Entity.ofEntry (m : Metadata) (coercions : CoercionRegistry) (entry : Node) :
    Except EntryError Entity :=
  match categoryTerm? entry with
  | none => .error (.missing .categoryTerm)
  | some term =>
    match m.entityType? term with
    | none => .error (.unknownEntityType term)
    | some entityType => do
      let elements := ((propertiesBlock? entry).map Node.elements).getD []
      let properties ← fillProperties entityType.fullName elements
        (PropertyList.cleared entityType.properties)
      return { entityType, properties, id := (entry.child? "id").map Node.content,
               source := entry.source, coercions }

/-- Reads a document whose first entry is the entity. -/
def Entity.ofText (m : Metadata) (coercions : CoercionRegistry) (body : String) :
    Except Error Entity := do
  let root ← (Xml.read body).mapError .document
  match root.descendantsNamed "entry" with
  | [] => .error (.entry (.missing .entry))
  | entry :: _ => (ofEntry m coercions entry).mapError .entry

end AtomData
