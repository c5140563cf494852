import AtomData.Feed.Entry

/-!
# Pages

One document of a feed: its entities, the address of the page that follows, and the number of
entities in the whole feed if the server counted them.  Only direct children of the feed count, so
feeds that are expanded inside an entry have no say.
-/

namespace AtomData

open Xml (Node)

structure Page where
  entities : List Entity
  nextLink : Option String
  totalCount : Option Nat

namespace Page

def hasMore (p : Page) : Bool := p.nextLink.isSome

/-- The address in the first link to the next page that has one. -/
def nextLink? (feed : Node) : Option String :=
  ((feed.childrenNamed "link").filter fun link => link.attribute? "rel" = some "next").findSome?
    fun link => link.attribute? "href"

/-- A count is digits after at most one plus sign, below 2^64. -/
def count? (text : String) : Option Nat :=
  (Text.unsigned? (Text.trim text.toList)).filter (· < 2 ^ 64)

def totalCount? (feed : Node) : Except DocumentError (Option Nat) :=
  match feed.child? "count" with
  | none => .ok none
  | some n =>
    match count? n.content with
    | some total => .ok (some total)
    | none => .error (.invalidCount n.content)

/-- The page of a feed.  The first entry that is no entity makes the whole page fail. -/
def ofFeed (m : Metadata) (coercions : CoercionRegistry) (feed : Node) : Except Error Page := do
  let entities ← ((feed.childrenNamed "entry").mapM (Entity.ofEntry m coercions)).mapError .entry
  let totalCount ← (totalCount? feed).mapError .document
  return { entities, nextLink := nextLink? feed, totalCount }

def ofText (m : Metadata) (coercions : CoercionRegistry) (body : String) : Except Error Page := do
  let feed ← (Xml.read body).mapError .document
  ofFeed m coercions feed

end Page
end AtomData
