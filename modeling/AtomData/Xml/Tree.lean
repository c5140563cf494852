import AtomData.Xml.Markup
import AtomData.Xml.Node

/-!
# Trees under construction

A document is read from front to back, and its tree grows at the innermost open element.  What the
attributes of a tag say is only settled when the next tag is complete: the attributes and prefixes
of a tag that stops half-way go to the tag behind it.  `close?_open?` shows that an element closes
under the name that it was opened with.
-/

namespace AtomData.Xml

/-- Declared prefixes with what they stand for, the nearest first. -/
abbrev Prefixes := List (String × String)

def xmlSpace : String := "http://www.w3.org/XML/1998/namespace"

def xmlnsSpace : String := "http://www.w3.org/2000/xmlns/"

/-! ### Attributes of tags -/

/-- May the prefix be declared for the name?  The prefix `xml` and its name belong together. -/
def isDeclarable (space name : String) : Bool :=
  name != xmlnsSpace && ((space == "xml") == (name == xmlSpace))

/-- The attributes of tags that wait for the end of a tag, told apart: declared prefixes, and all
that declare nothing. -/
structure TagAttributes where
  spaces : Prefixes := []
  plain : List (QName × String) := []

/-- Adds an attribute.  No prefix may be declared twice. -/
def TagAttributes.add? (t : TagAttributes) (q : QName) (value : String) : Option TagAttributes :=
  if q.space = "xmlns" then
    if !isDeclarable q.name value || t.spaces.any (fun s => s.1 == q.name) then none
    else if q.name = "xml" then some t
    else some { t with spaces := t.spaces ++ [(q.name, value)] }
  else if q.name = "xmlns" then
    if value == xmlSpace || value == xmlnsSpace then none else some t
  else some { t with plain := t.plain ++ [(q, value)] }

/-- The name that an attribute's prefix stands for.  No prefix stands for no name. -/
def resolve? (spaces : Prefixes) (space : String) : Option (Option String) :=
  if space = "" then some none
  else if space = "xml" then some (some xmlSpace)
  else (spaces.find? fun s => s.1 = space).map fun s => some s.2

/-- The attributes by local name, if every prefix is declared and no name occurs twice. -/
def resolveAttributes? (spaces : Prefixes) (plain : List (QName × String)) :
    Option (List Attribute) := do
  let names ← plain.mapM fun a => (resolve? spaces a.1.space).map fun space => (space, a.1.name)
  if names.Nodup then return plain.map fun a => ⟨a.1.name, a.2⟩ else none

/-- May an element have the name?  Its prefix must be declared; that of `xml` serves attributes
only. -/
def allowsElement (spaces : Prefixes) (q : QName) : Bool :=
  q.space == "" || spaces.any fun s => s.1 == q.space

/-! ### Elements -/

/-- An element whose end has not been reached.  `start` counts the characters of the document from
the start of the element on, and `children` holds the content so far, last node first. -/
structure OpenElement where
  name : QName
  attributes : List Attribute
  spaces : Prefixes
  start : Nat
  children : List Node := []

/-- The root element, if it is complete; the open elements, innermost first; and the attributes
that wait for the end of a tag. -/
structure Tree where
  root : Option Node := none
  opened : List OpenElement := []
  pending : TagAttributes := {}

namespace Tree

def spaces (t : Tree) : Prefixes :=
  match t.opened with
  | e :: _ => e.spaces
  | [] => []

/-- Adds a node to the innermost open element.  Outside of all, only the first element counts. -/
def append (t : Tree) (n : Node) : Tree :=
  match t.opened with
  | e :: es => { t with opened := { e with children := n :: e.children } :: es }
  | [] => { t with root := t.root.or (if n.isElement then some n else none) }

def appendText (t : Tree) (s : List Char) : Tree :=
  if s.isEmpty then t else t.append (.text (String.ofList s))

/-- Settles the attributes that wait: the prefixes and attributes of the tag that ends here. -/
def settle? (t : Tree) : Option (Prefixes × List Attribute) := do
  let spaces := t.pending.spaces ++ t.spaces
  let attributes ← resolveAttributes? spaces t.pending.plain
  return (spaces, attributes)

def open? (t : Tree) (name : QName) (start : Nat) : Option Tree := do
  let (spaces, attributes) ← t.settle?
  if allowsElement spaces name then
    return { t with opened := ⟨name, attributes, spaces, start, []⟩ :: t.opened, pending := {} }
  else none

/-- Closes the innermost element, which must have the name, and adds it where it stands.
`source` gives the text of the document from a start on. -/
def close? (t : Tree) (name : QName) (source : Nat → String) : Option Tree := do
  let _ ← t.settle?
  match t.opened with
  | [] => none
  | e :: es =>
    if e.name = name then
      let node := .element name.name e.attributes e.children.reverse (source e.start)
      return { t with opened := es, pending := {} }.append node
    else none

def finished? (t : Tree) : Option Node := if t.opened.isEmpty then t.root else none

theorem resolveAttributes?_nil (spaces : Prefixes) : resolveAttributes? spaces [] = some [] := by
  simp [resolveAttributes?]

theorem close?_open? {t u : Tree} {name : QName} {start : Nat} (h : t.open? name start = some u)
    (source : Nat → String) : (u.close? name source).isSome = true := by
  simp only [open?, bind, Option.bind_eq_some_iff] at h
  obtain ⟨⟨spaces, attributes⟩, -, h⟩ := h
  dsimp only at h
  split at h
  · cases h
    simp [close?, settle?, resolveAttributes?_nil]
  · cases h

end Tree
end AtomData.Xml
