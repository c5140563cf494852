import AtomData.Xml.Document

/-!
# Service documents

The collections that a service offers, each with a title and the address of its feed.
-/

namespace AtomData

open Xml (Node)

structure CollectionInfo where
  name : String
  href : String
  deriving DecidableEq, Repr

/-- A collection goes by its title, or by its address if it has none. -/
def CollectionInfo.ofNode (n : Node) : Except DocumentError CollectionInfo :=
  match n.attribute? "href" with
  | none => .error .collectionWithoutHref
  | some href =>
    let title := ((n.child? "title").map Node.content).getD href
    .ok ⟨String.ofList (Text.trim title.toList), href⟩

def readServiceDocument (body : String) : Except DocumentError (List CollectionInfo) := do
  let root ← Xml.read body
  (root.descendantsNamed "collection").mapM CollectionInfo.ofNode

end AtomData
