import AtomData.Feed.Page
import AtomData.Proofs.Basic
import AtomData.Proofs.Xml.Node

/-!
# Pages of feeds

What a feed document shows, said by its entries, links and counts, and that reading finds exactly
this or the first fault.  What stands inside of a link of an entry has no say:
`ofText_decided_by_outline` gathers these.
-/

namespace AtomData

open Xml (Node)

namespace Page

/-! ### What a feed shows -/

/-- The text is the number: digits after at most one plus sign, below 2^64. -/
def Counts (text : String) (n : Nat) : Prop :=
  ∃ digits, (Text.trim text.toList = digits ∨ Text.trim text.toList = '+' :: digits) ∧
    digits ≠ [] ∧ (∀ c ∈ digits, c.isDigit = true) ∧ Text.digitsValue digits = n ∧ n < 2 ^ 64

def LinksNext (link : Node) (href : String) : Prop :=
  link.isNamed "link" = true ∧ link.attribute? "rel" = some "next" ∧ link.attribute? "href" = some href

/-- The address in the first link to the next page among the children of the feed, if there is one. -/
def ShowsNext (feed : Node) : Option String → Prop
  | some href => ∃ before link after, feed.children = before ++ link :: after ∧ LinksNext link href ∧
      ∀ other ∈ before, ∀ href, ¬LinksNext other href
  | none => ∀ link ∈ feed.children, ∀ href, ¬LinksNext link href

/-- The number in the first count of the feed, if there is one. -/
def ShowsCount (feed : Node) : Option Nat → Prop
  | some n => ∃ count, feed.child? "count" = some count ∧ Counts count.content n
  | none => feed.child? "count" = none

structure Shows (m : Metadata) (coercions : CoercionRegistry) (feed : Node) (page : Page) : Prop where
  entities : List.Forall₂ (fun entry e => Entity.ofEntry m coercions entry = .ok e)
    (feed.childrenNamed "entry") page.entities
  nextLink : ShowsNext feed page.nextLink
  totalCount : ShowsCount feed page.totalCount

/-- The first fault of a feed: of its first entry that is no entity, or else of its count. -/
inductive Faults (m : Metadata) (coercions : CoercionRegistry) (feed : Node) : Error → Prop
  | entry {before after : List Node} {entry : Node} {e : EntryError}
      (split : feed.childrenNamed "entry" = before ++ entry :: after)
      (fine : ∀ earlier ∈ before, ∃ entity, Entity.ofEntry m coercions earlier = .ok entity)
      (fails : Entity.ofEntry m coercions entry = .error e) : Faults m coercions feed (.entry e)
  | count {count : Node}
      (fine : ∀ entry ∈ feed.childrenNamed "entry", ∃ entity, Entity.ofEntry m coercions entry = .ok entity)
      (found : feed.child? "count" = some count) (wrong : ∀ n, ¬Counts count.content n) :
      Faults m coercions feed (.document (.invalidCount count.content))

variable {m : Metadata} {coercions : CoercionRegistry} {feed feed' : Node}

theorem natural?_eq_some_iff {s : List Char} {n : Nat} :
    Text.natural? s = some n ↔ s ≠ [] ∧ (∀ c ∈ s, c.isDigit = true) ∧ Text.digitsValue s = n := by
  rw [Text.natural?]
  split
  · rename_i digits
    rw [List.all_eq_true] at digits
    exact ⟨fun h => ⟨digits.1, digits.2, Option.some.inj h⟩, fun h => congrArg some h.2.2⟩
  · rename_i other
    rw [List.all_eq_true] at other
    refine ⟨fun h => ?_, fun h => absurd ⟨h.1, h.2.1⟩ other⟩
    cases h

theorem unsigned?_eq_some_iff {s : List Char} {n : Nat} :
    Text.unsigned? s = some n ↔
      ∃ digits, (s = digits ∨ s = '+' :: digits) ∧ Text.natural? digits = some n := by
  constructor
  · intro h
    rw [Text.unsigned?.eq_def] at h
    split at h
    · exact ⟨_, Or.inr rfl, h⟩
    · exact ⟨s, Or.inl rfl, h⟩
  · rintro ⟨digits, rfl | rfl, h⟩
    · rw [Text.unsigned?.eq_def]
      split
      · rename_i rest
        have plus := (natural?_eq_some_iff.mp h).2.1 '+' List.mem_cons_self
        cases plus
      · exact h
    · exact h

theorem count?_eq_some_iff {text : String} {n : Nat} : count? text = some n ↔ Counts text n := by
  rw [count?, Option.filter_eq_some_iff, unsigned?_eq_some_iff, decide_eq_true_iff, Counts]
  simp only [natural?_eq_some_iff]
  constructor
  · rintro ⟨⟨digits, trimmed, some, all, value⟩, below⟩
    exact ⟨digits, trimmed, some, all, value, below⟩
  · rintro ⟨digits, trimmed, some, all, value, below⟩
    exact ⟨⟨digits, trimmed, some, all, value⟩, below⟩

theorem count?_eq_none_iff {text : String} : count? text = none ↔ ∀ n, ¬Counts text n := by
  rw [Option.eq_none_iff_forall_ne_some]
  exact forall_congr' fun n => not_congr count?_eq_some_iff

theorem totalCount?_eq_ok_iff {n : Option Nat} : totalCount? feed = .ok n ↔ ShowsCount feed n := by
  rw [totalCount?]
  cases found : feed.child? "count" with
  | none => cases n <;> simp [ShowsCount, found]
  | some count =>
    dsimp only
    cases counted : count? count.content with
    | none =>
      have wrong := count?_eq_none_iff.mp counted
      cases n <;> simp [ShowsCount, found, wrong]
    | some total =>
      cases n with
      | none => simp [ShowsCount, found]
      | some n => simp [ShowsCount, found, ← count?_eq_some_iff, counted]

theorem totalCount?_eq_error_iff {e : DocumentError} :
    totalCount? feed = .error e ↔
      ∃ count, feed.child? "count" = some count ∧ (∀ n, ¬Counts count.content n) ∧
        e = .invalidCount count.content := by
  rw [totalCount?]
  cases found : feed.child? "count" with
  | none => simp
  | some count =>
    simp only [← count?_eq_none_iff, Option.some.injEq, exists_eq_left']
    cases counted : count? count.content <;> simp [eq_comm]

def nextHref? (link : Node) : Option String :=
  if link.isNamed "link" = true ∧ link.attribute? "rel" = some "next" then link.attribute? "href" else none

theorem nextHref?_eq_some_iff {link : Node} {href : String} :
    nextHref? link = some href ↔ LinksNext link href := by
  rw [nextHref?, LinksNext]
  split <;> simp_all

theorem nextLink?_eq (feed : Node) : nextLink? feed = feed.children.findSome? nextHref? := by
  rw [nextLink?, Node.childrenNamed, List.filter_filter, findSome?_filter]
  congr 1
  funext link
  simp [nextHref?, and_comm]

theorem nextLink?_eq_iff {next : Option String} : nextLink? feed = next ↔ ShowsNext feed next := by
  rw [nextLink?_eq]
  have unlinked (link : Node) : nextHref? link = none ↔ ∀ href, ¬LinksNext link href := by
    rw [Option.eq_none_iff_forall_ne_some]
    exact forall_congr' fun href => not_congr nextHref?_eq_some_iff
  cases next with
  | none =>
    rw [List.findSome?_eq_none_iff]
    exact forall₂_congr fun link _ => unlinked link
  | some href =>
    rw [List.findSome?_eq_some_iff]
    simp only [unlinked, nextHref?_eq_some_iff]
    exact Iff.rfl

theorem ofFeed_eq_ok_iff {page : Page} :
    ofFeed m coercions feed = .ok page ↔ Shows m coercions feed page := by
  simp only [ofFeed, Except.bind_eq_ok_iff, Except.mapError_eq_ok_iff, Except.mapM_eq_ok_iff,
    totalCount?_eq_ok_iff]
  constructor
  · rintro ⟨entities, read, totalCount, counted, same⟩
    cases same
    exact ⟨read, nextLink?_eq_iff.mp rfl, counted⟩
  · intro shows
    refine ⟨page.entities, shows.entities, page.totalCount, shows.totalCount, ?_⟩
    rw [nextLink?_eq_iff.mpr shows.nextLink]
    rfl

theorem ofFeed_eq_error_iff {e : Error} :
    ofFeed m coercions feed = .error e ↔ Faults m coercions feed e := by
  simp only [ofFeed, Except.bind_eq_error_iff, Except.mapError_eq_error_iff, Except.mapError_eq_ok_iff,
    Except.mapM_eq_error_iff, totalCount?_eq_error_iff]
  constructor
  · rintro (⟨_, ⟨before, entry, after, split, fine, fails⟩, rfl⟩ |
      ⟨entities, read, ⟨_, ⟨count, found, wrong, rfl⟩, rfl⟩ | ⟨_, -, done⟩⟩)
    · exact .entry split fine fails
    · exact .count (Except.exists_mapM_eq_ok_iff.mp ⟨entities, read⟩) found wrong
    · cases done
  · intro faults
    cases faults with
    | entry split fine fails => exact Or.inl ⟨_, ⟨_, _, _, split, fine, fails⟩, rfl⟩
    | count fine found wrong =>
      obtain ⟨entities, read⟩ := Except.exists_mapM_eq_ok_iff.mpr fine
      exact Or.inr ⟨entities, read, Or.inl ⟨_, ⟨_, found, wrong, rfl⟩, rfl⟩⟩

theorem exists_shows_iff :
    (∃ page, Shows m coercions feed page) ↔
      (∀ entry ∈ feed.childrenNamed "entry", ∃ entity, Entity.ofEntry m coercions entry = .ok entity) ∧
        ∀ count, feed.child? "count" = some count → ∃ n, Counts count.content n := by
  constructor
  · rintro ⟨page, shows⟩
    refine ⟨Except.exists_mapM_eq_ok_iff.mp ⟨_, Except.mapM_eq_ok_iff.mpr shows.entities⟩, ?_⟩
    intro count found
    have counted := shows.totalCount
    cases total : page.totalCount with
    | none =>
      rw [total, ShowsCount, found] at counted
      cases counted
    | some n =>
      rw [total] at counted
      obtain ⟨count', found', counts⟩ := counted
      obtain rfl := Option.some.inj (found.symm.trans found')
      exact ⟨n, counts⟩
  · rintro ⟨fine, counts⟩
    obtain ⟨entities, read⟩ := Except.exists_mapM_eq_ok_iff.mpr fine
    have counted : ∃ total, ShowsCount feed total := by
      cases found : feed.child? "count" with
      | none => exact ⟨none, found⟩
      | some count =>
        obtain ⟨n, counts⟩ := counts count found
        exact ⟨some n, count, found, counts⟩
    obtain ⟨totalCount, counted⟩ := counted
    exact ⟨⟨entities, nextLink? feed, totalCount⟩, Except.mapM_eq_ok_iff.mp read,
      nextLink?_eq_iff.mp rfl, counted⟩

end Page

/-! ### Sources left out -/

def Entity.unsourced (e : Entity) : Entity := { e with source := "" }

def Page.unsourced (p : Page) : Page := { p with entities := p.entities.map Entity.unsourced }

section Bare

variable {m : Metadata} {coercions : CoercionRegistry}

theorem categoryTerm?_bare (entry : Node) : categoryTerm? entry.bare = categoryTerm? entry := by
  rw [categoryTerm?, categoryTerm?, Node.childrenNamed_bare, List.findSome?_map]
  congr 1
  funext category
  exact category.attribute?_bare "term"

theorem propertiesBlock?_bare (entry : Node) :
    propertiesBlock? entry.bare = (propertiesBlock? entry).map Node.bare := by
  rw [propertiesBlock?, propertiesBlock?, Node.child?_bare, Node.child?_bare]
  cases entry.child? "content" with
  | none => rfl
  | some content =>
    simp only [Option.map_some, Option.bind_some, Node.child?_bare]
    cases content.child? "properties" <;> rfl

theorem rawText?_bare (element : Node) : rawText? element.bare = rawText? element := by
  rw [rawText?, rawText?, Node.attribute?_bare, Node.content_bare]

theorem fillProperties_bare (typeName : String) (elements : List Node) (ps : PropertyList) :
    fillProperties typeName (elements.map Node.bare) ps = fillProperties typeName elements ps := by
  induction elements generalizing ps with
  | nil => rfl
  | cons element elements ih =>
    rw [List.map_cons, fillProperties, fillProperties, Node.name?_bare, rawText?_bare]
    simp only [ih]

theorem Entity.ofEntry_bare (entry : Node) :
    (ofEntry m coercions entry.bare).map unsourced = (ofEntry m coercions entry).map unsourced := by
  have elements : ((propertiesBlock? entry.bare).map Node.elements).getD [] =
      (((propertiesBlock? entry).map Node.elements).getD []).map Node.bare := by
    rw [propertiesBlock?_bare]
    cases propertiesBlock? entry with
    | none => rfl
    | some block => exact block.elements_bare
  have id : (entry.bare.child? "id").map Node.content = (entry.child? "id").map Node.content := by
    rw [Node.child?_bare, Option.map_map]
    congr 1
    funext id
    exact id.content_bare
  rw [ofEntry, ofEntry, categoryTerm?_bare]
  cases categoryTerm? entry with
  | none => rfl
  | some term =>
    dsimp only
    cases m.entityType? term with
    | none => rfl
    | some entityType =>
      dsimp only
      rw [elements, fillProperties_bare, id]
      cases fillProperties _ _ _ <;> rfl

namespace Page

theorem map_unsourced_ofFeed (feed : Node) :
    (ofFeed m coercions feed).map unsourced =
      ((((feed.childrenNamed "entry").mapM fun entry =>
        (Entity.ofEntry m coercions entry).map Entity.unsourced).mapError Error.entry).bind fun entities =>
          ((totalCount? feed).mapError Error.document).map fun totalCount =>
            { entities, nextLink := nextLink? feed, totalCount }) := by
  rw [ofFeed, Except.mapM_map_eq]
  cases (feed.childrenNamed "entry").mapM (Entity.ofEntry m coercions) with
  | error e => rfl
  | ok entities => cases totalCount? feed <;> rfl

theorem nextLink?_bare (feed : Node) : nextLink? feed.bare = nextLink? feed := by
  rw [nextLink?_eq, nextLink?_eq, Node.children_bare, List.findSome?_map]
  congr 1
  funext link
  simp [nextHref?]

theorem totalCount?_bare (feed : Node) : totalCount? feed.bare = totalCount? feed := by
  rw [totalCount?, totalCount?, Node.child?_bare]
  cases feed.child? "count" with
  | none => rfl
  | some count => simp only [Option.map_some, Node.content_bare]

theorem ofFeed_bare (feed : Node) :
    (ofFeed m coercions feed.bare).map unsourced = (ofFeed m coercions feed).map unsourced := by
  rw [map_unsourced_ofFeed, map_unsourced_ofFeed, Node.childrenNamed_bare, List.mapM_map,
    nextLink?_bare, totalCount?_bare]
  have entries : (fun entry => (Entity.ofEntry m coercions entry).map Entity.unsourced) ∘ Node.bare =
      fun entry => (Entity.ofEntry m coercions entry).map Entity.unsourced :=
    funext Entity.ofEntry_bare
  rw [entries]

end Page

/-! ### Links inside of entries -/

open Xml.Node (AddsLink)

theorem Entity.ofEntry_of_addsLink {entry entry' : Node} (added : AddsLink entry entry') :
    ofEntry m coercions entry' = ofEntry m coercions entry := by
  have term : categoryTerm? entry' = categoryTerm? entry := by
    rw [categoryTerm?, categoryTerm?, added.childrenNamed (by decide)]
  have block : propertiesBlock? entry' = propertiesBlock? entry := by
    rw [propertiesBlock?, propertiesBlock?, added.child? (by decide), added.child? (by decide)]
  rw [ofEntry, ofEntry, term, block, added.child? (by decide), added.source]

namespace Page

/-- The second feed is the first with a link more in one of its entries. -/
inductive Expands : Node → Node → Prop
  | entry {name source : String} {attributes : List Xml.Attribute} {before after : List Node}
      {entry entry' : Node} (named : entry.isNamed "entry" = true) (added : AddsLink entry entry') :
      Expands (.element name attributes (before ++ entry :: after) source)
        (.element name attributes (before ++ entry' :: after) source)

theorem Expands.childrenNamed {feed feed' : Node} (expands : Expands feed feed') {name : String}
    (other : "entry" ≠ name) : feed'.childrenNamed name = feed.childrenNamed name := by
  cases expands with
  | entry named added =>
    have passed := Node.not_isNamed_of_isNamed named other
    have passed' := (added.isNamed name).trans passed
    simp [Node.childrenNamed, Node.children, passed, passed']

theorem ofFeed_of_expands {feed feed' : Node} (expands : Expands feed feed') :
    ofFeed m coercions feed' = ofFeed m coercions feed := by
  have entities : (feed'.childrenNamed "entry").mapM (Entity.ofEntry m coercions) =
      (feed.childrenNamed "entry").mapM (Entity.ofEntry m coercions) := by
    cases expands with
    | entry named added =>
      have named' := (added.isNamed "entry").trans named
      simp only [Node.childrenNamed, Node.children, List.filter_append, List.filter_cons, named, named',
        if_true, List.mapM_append, List.mapM_cons, Entity.ofEntry_of_addsLink added]
  have count : totalCount? feed' = totalCount? feed := by
    rw [totalCount?, totalCount?, Node.child?_eq_head?, expands.childrenNamed (by decide),
      ← Node.child?_eq_head?]
  have next : nextLink? feed' = nextLink? feed := by
    rw [nextLink?, nextLink?, expands.childrenNamed (by decide)]
  rw [ofFeed, ofFeed, entities, count, next]

theorem ofText_eq {body : String} (read : Xml.read body = .ok feed) :
    ofText m coercions body = ofFeed m coercions feed := by
  rw [ofText, read]
  rfl

/-- Reading a feed document comes to the page that the feed shows, or to its first fault, and one of
the two always.  A link more in an entry, whatever it holds, makes no difference but to sources. -/
theorem ofText_decided_by_outline (m : Metadata) (coercions : CoercionRegistry) {body : String} {feed : Node}
    (read : Xml.read body = .ok feed) :
    ((∃ page, ofText m coercions body = .ok page) ↔
      (∀ entry ∈ feed.childrenNamed "entry", ∃ entity, Entity.ofEntry m coercions entry = .ok entity) ∧
        ∀ count, feed.child? "count" = some count → ∃ n, Counts count.content n) ∧
    (∀ page, ofText m coercions body = .ok page ↔ Shows m coercions feed page) ∧
    (∀ e, ofText m coercions body = .error e ↔ Faults m coercions feed e) ∧
    ∀ body' feed', Xml.read body' = .ok feed' → Expands feed.bare feed'.bare →
      (ofText m coercions body').map unsourced = (ofText m coercions body).map unsourced := by
  rw [ofText_eq read]
  refine ⟨?_, fun page => ofFeed_eq_ok_iff, fun e => ofFeed_eq_error_iff, ?_⟩
  · simp only [ofFeed_eq_ok_iff]
    exact exists_shows_iff
  · intro body' feed' read' expands
    rw [ofText_eq read', ← ofFeed_bare feed', ofFeed_of_expands expands, ofFeed_bare]

section Puppies

private def pup : EntityTypeDecl := { namespaceName := "Litter", name := "Pup" }

private def litter : Metadata := ⟨["Litter"], [.root pup]⟩

private def plainFeed : String :=
  "<f><count>+2</count><entry><category term='Pup'/>\n</entry></f>"

private def plainEntry : Node :=
  .element "entry" [] [.element "category" [⟨"term", "Pup"⟩] [] "<category term='Pup'/>", .text "\n"]
    "<entry><category term='Pup'/>\n</entry>"

private def plainOutline : Node :=
  .element "f" [] [.element "count" [] [.text "+2"] "<count>+2</count>", plainEntry] plainFeed

private def linkedFeed : String :=
  "<f><count>+2</count><entry><category term='Pup'/><link rel='next' href='x'><count>9</count></link>\n</entry></f>"

private def inlineLink : Node :=
  .element "link" [⟨"rel", "next"⟩, ⟨"href", "x"⟩]
    [.element "count" [] [.text "9"] "<count>9</count>"]
    "<link rel='next' href='x'><count>9</count></link>"

private def linkedOutline : Node :=
  .element "f" [] [.element "count" [] [.text "+2"] "<count>+2</count>",
    .element "entry" []
      [.element "category" [⟨"term", "Pup"⟩] [] "<category term='Pup'/>", inlineLink, .text "\n"]
      "<entry><category term='Pup'/><link rel='next' href='x'><count>9</count></link>\n</entry>"] linkedFeed

/-- A next link and a count inside of an entry are not those of its page. -/
theorem ofText_decided_by_outline_pup :
    Xml.read plainFeed = .ok plainOutline ∧ Xml.read linkedFeed = .ok linkedOutline ∧
    Expands plainOutline.bare linkedOutline.bare ∧
    (∃ page, ofText litter .empty plainFeed = .ok page) ∧
    (ofText litter .empty linkedFeed).map unsourced = (ofText litter .empty plainFeed).map unsourced := by
  have read : Xml.read plainFeed = .ok plainOutline := by decide +kernel
  have read' : Xml.read linkedFeed = .ok linkedOutline := by decide +kernel
  have added : AddsLink plainEntry.bare
      (.element "entry" [] [.element "category" [⟨"term", "Pup"⟩] [] "", inlineLink.bare, .text "\n"] "") :=
    @AddsLink.between _ _ _ [_] [_] inlineLink.bare rfl
  have expands : Expands plainOutline.bare linkedOutline.bare := @Expands.entry _ _ _ [_] [] _ _ rfl added
  obtain ⟨succeeds, -, -, blind⟩ := ofText_decided_by_outline litter .empty read
  refine ⟨read, read', expands, succeeds.mpr ⟨?_, ?_⟩, blind _ _ read' expands⟩
  · intro entry member
    obtain rfl := List.mem_singleton.mp (show entry ∈ [plainEntry] from member)
    exact ⟨_, rfl⟩
  · intro count found
    obtain rfl := Option.some.inj found
    exact ⟨2, count?_eq_some_iff.mp (by decide +kernel)⟩

end Puppies

end Page
end Bare
end AtomData
