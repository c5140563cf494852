import AtomData.Xml.Node

/-!
# Trees with a link more

What is found below a node when one of its neighbours is a link that was not there before, and when
the sources of elements are left out of account.  A node that is looked up by another name than
`link` is found as before.
-/

namespace AtomData.Xml.Node

/-! ### Comparison -/

mutual

def decideEq : (m n : Node) → Decidable (m = n)
  | text s, text t =>
    if same : s = t then isTrue (congrArg text same) else isFalse fun h => same (Node.text.inj h)
  | element name attributes children source, element name' attributes' children' source' =>
    match decideEqAll children children' with
    | isTrue below =>
      if same : name = name' ∧ attributes = attributes' ∧ source = source' then
        isTrue (by obtain ⟨rfl, rfl, rfl⟩ := same; rw [below])
      else isFalse fun h => same (by cases h; exact ⟨rfl, rfl, rfl⟩)
    | isFalse below => isFalse fun h => below (by cases h; rfl)
  | text _, element .. => isFalse nofun
  | element .., text _ => isFalse nofun

def decideEqAll : (ms ns : List Node) → Decidable (ms = ns)
  | [], [] => isTrue rfl
  | m :: ms, n :: ns =>
    match decideEq m n, decideEqAll ms ns with
    | isTrue first, isTrue rest => isTrue (by rw [first, rest])
    | isFalse first, _ => isFalse fun h => first (List.cons.inj h).1
    | _, isFalse rest => isFalse fun h => rest (List.cons.inj h).2
  | [], _ :: _ => isFalse nofun
  | _ :: _, [] => isFalse nofun

end

instance : DecidableEq Node := decideEq

/-! ### Without sources -/

mutual

def bare : Node → Node
  | text content => text content
  | element name attributes children _ => element name attributes (bareAll children) ""

def bareAll : List Node → List Node
  | [] => []
  | n :: ns => bare n :: bareAll ns

end

theorem bareAll_eq_map (ns : List Node) : bareAll ns = ns.map bare := by
  induction ns with
  | nil => rfl
  | cons n ns ih => rw [bareAll, ih, List.map_cons]

@[simp] theorem name?_bare (n : Node) : n.bare.name? = n.name? := by
  cases n <;> rfl

@[simp] theorem isElement_bare (n : Node) : n.bare.isElement = n.isElement := by
  rw [isElement, isElement, name?_bare]

@[simp] theorem isNamed_bare (name : String) (n : Node) : n.bare.isNamed name = n.isNamed name := by
  rw [isNamed, isNamed, name?_bare]

@[simp] theorem attribute?_bare (n : Node) (name : String) :
    n.bare.attribute? name = n.attribute? name := by
  cases n <;> rfl

theorem children_bare (n : Node) : n.bare.children = n.children.map bare := by
  cases n with
  | text content => rfl
  | element name attributes children source => exact bareAll_eq_map children

theorem elements_bare (n : Node) : n.bare.elements = n.elements.map bare := by
  rw [elements, elements, children_bare, List.filter_map]
  congr 2
  funext c
  exact isElement_bare c

theorem childrenNamed_bare (n : Node) (name : String) :
    n.bare.childrenNamed name = (n.childrenNamed name).map bare := by
  rw [childrenNamed, childrenNamed, children_bare, List.filter_map]
  congr 2
  funext c
  exact isNamed_bare name c

theorem child?_eq_head? (n : Node) (name : String) : n.child? name = (n.childrenNamed name).head? :=
  List.head?_filter.symm

theorem child?_bare (n : Node) (name : String) : n.bare.child? name = (n.child? name).map bare := by
  rw [child?_eq_head?, child?_eq_head?, childrenNamed_bare, List.head?_map]

mutual

theorem content_bare : (n : Node) → n.bare.content = n.content
  | text _ => rfl
  | element _ _ children _ => contentOfAll_bareAll children

theorem contentOfAll_bareAll : (ns : List Node) → contentOfAll (bareAll ns) = contentOfAll ns
  | [] => rfl
  | n :: ns => by
    rw [bareAll, contentOfAll, contentOfAll, content_bare n, contentOfAll_bareAll ns]

end

/-! ### One link more -/

/-- The second node is the first with a link more among its children, between two of them or inside of
a text. -/
inductive AddsLink : Node → Node → Prop
  | between {name source : String} {attributes : List Attribute} {before after : List Node} {link : Node}
      (named : link.isNamed "link" = true) :
      AddsLink (.element name attributes (before ++ after) source)
        (.element name attributes (before ++ link :: after) source)
  | inside {name source front back : String} {attributes : List Attribute} {before after : List Node}
      {link : Node} (named : link.isNamed "link" = true) :
      AddsLink (.element name attributes (before ++ .text (front ++ back) :: after) source)
        (.element name attributes (before ++ .text front :: link :: .text back :: after) source)

theorem not_isNamed_of_isNamed {n : Node} {name other : String} (named : n.isNamed name = true)
    (different : name ≠ other) : n.isNamed other = false := by
  rw [isNamed, beq_iff_eq] at named
  rw [isNamed, named, beq_eq_false_iff_ne]
  exact fun same => different (Option.some.inj same)

namespace AddsLink

variable {n n' : Node}

theorem isNamed (added : AddsLink n n') (name : String) : n'.isNamed name = n.isNamed name := by
  cases added <;> rfl

theorem source (added : AddsLink n n') : n'.source = n.source := by
  cases added <;> rfl

theorem childrenNamed (added : AddsLink n n') {name : String} (other : "link" ≠ name) :
    n'.childrenNamed name = n.childrenNamed name := by
  cases added with
  | between named =>
    have passed := not_isNamed_of_isNamed named other
    simp [Node.childrenNamed, children, passed]
  | inside named =>
    have passed := not_isNamed_of_isNamed named other
    have text (s : String) : (Node.text s).isNamed name = false := rfl
    simp [Node.childrenNamed, children, passed, text]

theorem child? (added : AddsLink n n') {name : String} (other : "link" ≠ name) :
    n'.child? name = n.child? name := by
  rw [child?_eq_head?, child?_eq_head?, added.childrenNamed other]

end AddsLink
end AtomData.Xml.Node
