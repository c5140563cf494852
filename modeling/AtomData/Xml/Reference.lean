import AtomData.Text.Digits
import AtomData.Xml.Prolog

/-!
# References

Text with its references told apart from its characters, and the two ways in which it becomes
content: line ends become line feeds in text, and every kind of space becomes a space in an
attribute's value.  What an entity stands for is treated as if it stood there itself, as long as
entities are not nested too deep or too often.
-/

namespace AtomData.Xml

inductive Chunk where
  | literal (c : Char)
  | referred (c : Char)
  | entity (meaning : Replacement)
  deriving DecidableEq, Repr

namespace Chunk

def hexDigit? (c : Char) : Option Nat :=
  if c.isDigit then some (c.toNat - 48)
  else if 'a' ≤ c ∧ c ≤ 'f' then some (c.toNat - 87)
  else if 'A' ≤ c ∧ c ≤ 'F' then some (c.toNat - 55)
  else none

def hexValue? (s : List Char) : Option Nat :=
  if s.isEmpty then none else (s.mapM hexDigit?).map fun ds => ds.foldl (fun n d => 16 * n + d) 0

/-- The character of a number; numbers below 2^32 that belong to no character stand for the
replacement character. -/
def ofCodePoint? (n : Nat) : Option Chunk :=
  let c := if n.isValidChar then Char.ofNat n else '\uFFFD'
  if n < 2 ^ 32 ∧ isAllowed c then some (referred c) else none

def predefined? (name : String) : Option Char :=
  match name with
  | "quot" => some '"'
  | "amp" => some '&'
  | "apos" => some '\''
  | "lt" => some '<'
  | "gt" => some '>'
  | _ => none

def ofReference? (entities : Entities) : List Char → Option Chunk
  | '#' :: 'x' :: digits => hexValue? digits >>= ofCodePoint?
  | '#' :: digits => Text.natural? digits >>= ofCodePoint?
  | s => do
    let name ← Markup.name.whole? s
    match predefined? name with
    | some c => return referred c
    | none => (entities.find? fun e => e.1 = name).map fun e => entity e.2

/-- The chunks of a text.  `pending` holds the characters behind an open `&`, last one first. -/
def ofText? (entities : Entities) : Option (List Char) → List Char → Option (List Chunk)
  | none, [] => some []
  | some _, [] => none
  | none, c :: s =>
    if c = '&' then ofText? entities (some []) s
    else (ofText? entities none s).map (literal c :: ·)
  | some pending, c :: s =>
    if c = ';' then do
      let chunk ← ofReference? entities pending.reverse
      let rest ← ofText? entities none s
      return chunk :: rest
    else ofText? entities (some (c :: pending)) s

end Chunk

/-! ### Nesting -/

/-- Entities open inside one another, at most this many. -/
def greatestDepth : Nat := 10

/-- References inside the text of one entity that is referred to from outside, at most this many. -/
def greatestCount : Nat := 255

/-- The state is the number of references met so far inside the outermost open entity. -/
abbrev Counted := StateT Nat Option

def openEntity (depth : Nat) : Counted Unit := fun count =>
  if greatestDepth ≤ depth then none
  else if depth = 0 then some ((), 0)
  else if greatestCount ≤ count then none
  else some ((), count + 1)

/-- Closes an entity with `depth` others around it.  The count starts anew outside of all. -/
def closeEntity (depth : Nat) : Counted Unit := fun count =>
  some ((), if depth = 0 then 0 else count)

/-! ### Attribute values -/

def flattenSpace (c : Char) : Char := if isSpace c then ' ' else c

/-- The value made of chunks, where `expand` gives the value of an entity's text.  Inside an entity
a reference may not give `<`. -/
def flatten (expand : List Char → Counted (List Char)) (depth : Nat) :
    List Chunk → Counted (List Char)
  | [] => pure []
  | .literal c :: chunks => do
    let rest ← flatten expand depth chunks
    if c = '\r' ∧ chunks.head? = some (.literal '\n') then return rest
    return flattenSpace c :: rest
  | .referred c :: chunks => do
    if depth = 0 then return c :: (← flatten expand depth chunks)
    if c = '<' then fun _ => none
    else return flattenSpace c :: (← flatten expand depth chunks)
  | .entity meaning :: chunks => do
    openEntity depth
    let inner ← expand meaning.text
    closeEntity depth
    return inner ++ (← flatten expand depth chunks)

/-- The value of an attribute `depth` entities deep; `room` more may be opened. -/
def attributeValue (entities : Entities) :
    (room : Nat) → (depth : Nat) → List Char → Counted (List Char)
  | 0, depth, s => do
    let chunks ← Chunk.ofText? entities none s
    flatten (fun _ _ => none) depth chunks
  | room + 1, depth, s => do
    let chunks ← Chunk.ofText? entities none s
    flatten (attributeValue entities room (depth + 1)) depth chunks

/-! ### Line ends -/

/-- Adds a character to a text, last one first: a carriage return becomes a line feed, and takes a
line feed behind it along.  One that was added last is only known for a line end now. -/
def addToLine (buffer : List Char) (c : Char) (last : Bool) : List Char :=
  match buffer with
  | '\r' :: before =>
    if last && c == '\r' then '\n' :: '\n' :: before
    else if c == '\n' then '\n' :: before
    else c :: '\n' :: before
  | _ => if last && c == '\r' then '\n' :: buffer else c :: buffer

def sectionText (buffer : List Char) : List Char → List Char
  | [] => buffer.reverse
  | c :: s => sectionText (addToLine buffer c s.isEmpty) s

end AtomData.Xml
