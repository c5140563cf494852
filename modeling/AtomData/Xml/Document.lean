import AtomData.Error
import AtomData.Xml.Reference
import AtomData.Xml.Tree

/-!
# Documents

Reading a document into the tree of its root element.  A document is refused unless its elements
are closed in order, its prefixes are declared, and no element has two attributes of one name.  The
text of an entity is read as content where the entity is referred to, and may open elements that
are closed elsewhere.
-/

namespace AtomData.Xml

abbrev Reader := StateT Tree Counted

/-- What stays the same while one text is read: the document with its entities, how many characters
of it follow the text, and how many entities are open. -/
structure Scope where
  document : List Char
  entities : Entities
  behind : Nat := 0
  depth : Nat := 0

namespace Scope

/-- The text of the document between two places.  A place is given by the number of characters
from it to the end. -/
def source (scope : Scope) (start stop : Nat) : String :=
  String.ofList ((scope.document.drop (scope.document.length - start)).take (start - stop))

def inside (scope : Scope) (r : Replacement) : Scope :=
  { scope with behind := r.behind, depth := scope.depth + 1 }

end Scope

namespace Reader

def refuse {α : Type} : Reader α := fun _ _ => none

def update (change : Tree → Option Tree) : Reader Unit := fun t count =>
  (change t).map fun t => (((), t), count)

def addText (s : List Char) : Reader Unit := modify fun t => t.appendText s

end Reader

open Reader

/-! ### Tags -/

def addAttributes (scope : Scope) : List (QName × List Char) → Reader Unit
  | [] => pure ()
  | (q, raw) :: more => do
    let room := greatestDepth - scope.depth
    let value ← attributeValue scope.entities room scope.depth raw
    update fun t => do
      let pending ← t.pending.add? q (String.ofList value)
      return { t with pending }
    addAttributes scope more

/-- Adds a tag that stands between two places and starts an element.  If its end is missing, there
is no element, but its attributes wait for the next one. -/
def addTag (scope : Scope) (tag : Markup.StartTag) (start stop : Nat) : Reader Unit := do
  if tag.name.space = "xmlns" then refuse
  addAttributes scope tag.attributes
  match tag.ending with
  | .missing => return
  | .opens => update fun t => t.open? tag.name start
  | .closes => update fun t => do
    (← t.open? tag.name start).close? tag.name fun start => scope.source start stop

/-! ### Content -/

/-- Adds the text made of chunks, where `expand` reads the text of an entity.  The text so far is in
`buffer`, last character first; `verbatim` says that the next character follows a reference and is
kept as it is. -/
def addChunks (expand : Replacement → Reader Unit) (depth : Nat) (buffer : List Char)
    (verbatim : Bool) : List Chunk → Reader Unit
  | [] => addText buffer.reverse
  | .literal c :: chunks =>
    let buffer := if verbatim then c :: buffer else addToLine buffer c chunks.isEmpty
    addChunks expand depth buffer false chunks
  | .referred c :: chunks =>
    if depth = 0 then addChunks expand depth (c :: buffer) true chunks
    else addChunks expand depth (addToLine buffer c chunks.isEmpty) verbatim chunks
  | .entity meaning :: chunks => do
    addText buffer.reverse
    openEntity depth
    expand meaning
    closeEntity depth
    addChunks expand depth [] false chunks

/-- Reads content up to the end of the text, or behind the end tag that closes more than was opened
in it; what is left of the text.  `nesting` counts the elements opened in it, and `tagged` says that
a tag came before, without which no end tag may stand there.  `bound` limits the number of tokens;
each of them has a character. -/
def content (scope : Scope) (expand : Replacement → Reader Unit) :
    (bound nesting : Nat) → (tagged : Bool) → List Char → Reader (List Char)
  | _, _, _, [] => pure []
  | 0, _, _, _ => refuse
  | bound + 1, nesting, tagged, s => do
    let (token, rest) ← Markup.token s
    match token with
    | .start tag =>
      addTag scope tag (scope.behind + s.length) (scope.behind + rest.length)
      let nesting := if tag.ending = .opens then nesting + 1 else nesting
      content scope expand bound nesting true rest
    | .stop name =>
      if !tagged then refuse
      update fun t => t.close? name fun start => scope.source start (scope.behind + rest.length)
      match nesting with
      | 0 => return rest
      | nesting + 1 => content scope expand bound nesting tagged rest
    | .text raw =>
      match Chunk.ofText? scope.entities none raw with
      | none => refuse
      | some chunks =>
        addChunks expand scope.depth [] false chunks
        content scope expand bound nesting tagged rest
    | .characters text =>
      addText (sectionText [] text)
      content scope expand bound nesting tagged rest
    | .remark => content scope expand bound nesting tagged rest

/-- Reads the text of an entity; `room` more may be opened inside.  Behind an end tag that closes
an element from outside, the text is passed over. -/
def entityContent : (room : Nat) → Scope → Replacement → Reader Unit
  | 0, _, _ => refuse
  | room + 1, scope, r => do
    let inner := scope.inside r
    let _ ← content inner (entityContent room inner) r.text.length 0 false r.text

/-! ### The whole document -/

def rootElement (scope : Scope) (s : List Char) : Reader (List Char) := do
  let (tag, rest) ← Markup.startTag s
  addTag scope tag s.length rest.length
  match tag.ending with
  | .opens => content scope (entityContent greatestDepth scope) rest.length 0 true rest
  | _ => return rest

def root? (s : String) : Option Node := do
  let document := s.toList
  let (entities, rest) ← Markup.prolog document
  let ((rest, tree), _) ← rootElement { document, entities } rest {} 0
  let ((), behind) ← Markup.miscellany (rest.length + 1) rest
  if behind.isEmpty then tree.finished? else none

def read (s : String) : Except DocumentError Node :=
  match root? s with
  | some root => .ok root
  | none => .error .malformed

end AtomData.Xml
