/-!
# Document trees

The tree of a document as its readers see it: text and elements.  Elements and attributes go by
their local names, whatever prefixes the document gives them.
-/

namespace AtomData.Xml

structure Attribute where
  name : String
  value : String
  deriving DecidableEq, Repr

/-- A piece of text, or an element with its attributes, its content, and the part of the document
that it was read from. -/
inductive Node where
  | text (content : String)
  | element (name : String) (attributes : List Attribute) (children : List Node) (source : String)
  deriving Repr, Inhabited

namespace Node

/-- The local name of an element. -/
def name? : Node → Option String
  | text _ => none
  | element name .. => some name

def isElement (n : Node) : Bool := n.name?.isSome

def isNamed (name : String) (n : Node) : Bool := n.name? == some name

def attributes : Node → List Attribute
  | text _ => []
  | element _ attributes .. => attributes

def children : Node → List Node
  | text _ => []
  | element _ _ children _ => children

def source : Node → String
  | text content => content
  | element _ _ _ source => source

def elements (n : Node) : List Node := n.children.filter isElement

def childrenNamed (n : Node) (name : String) : List Node := n.children.filter (isNamed name)

def child? (n : Node) (name : String) : Option Node := n.children.find? (isNamed name)

def attribute? (n : Node) (name : String) : Option String :=
  (n.attributes.find? fun a => a.name = name).map Attribute.value

mutual

def descendants : Node → List Node
  | text content => [text content]
  | element name attributes children source =>
    element name attributes children source :: descendantsOfAll children

def descendantsOfAll : List Node → List Node
  | [] => []
  | n :: ns => descendants n ++ descendantsOfAll ns

end

def descendantsNamed (n : Node) (name : String) : List Node := n.descendants.filter (isNamed name)

mutual

def content : Node → String
  | text content => content
  | element _ _ children _ => contentOfAll children

def contentOfAll : List Node → String
  | [] => ""
  | n :: ns => content n ++ contentOfAll ns

end

def walk? (n : Node) : List String → Option Node
  | [] => some n
  | name :: names =>
    match n.child? name with
    | some c => c.walk? names
    | none => none

end Node
end AtomData.Xml
