import AtomData.Proofs.Query.Path
import AtomData.Proofs.Text.Blank

/-!
# Options that list names

A list of names counts for its items only, and these are read off the option's value again.
`list_decided` says so for the three options that list names, and says without the items when two lists of
names make the same request: when they differ in grouping by commas, in blanks and in empty names.
-/

namespace AtomData

open Text (AllBlank pieces trim)
open Text.Percent

/-! ### The items of names -/

/-- The items that one name stands for. -/
def nameItems (s : List Char) : List (List Char) :=
  ((pieces ',' s).map trim).filter fun item => !item.isEmpty

theorem listItems_nil : listItems [] = [] := rfl

theorem listItems_cons (name : String) (names : List String) :
    listItems (name :: names) = nameItems name.toList ++ listItems names := by
  simp [listItems, nameItems]

theorem listItems_singleton (name : String) : listItems [name] = nameItems name.toList := by
  rw [listItems_cons, listItems_nil, List.append_nil]

theorem listItems_append (names others : List String) :
    listItems (names ++ others) = listItems names ++ listItems others := by
  simp [listItems]

theorem nameItems_comma (s t : List Char) : nameItems (s ++ ',' :: t) = nameItems s ++ nameItems t := by
  rw [nameItems, Text.pieces_append_cons, List.map_append, List.filter_append]
  rfl

theorem not_mem_of_allBlank {s : List Char} (blank : AllBlank s) : ',' ∉ s :=
  fun comma => absurd (blank ',' comma) (by decide)

theorem nameItems_blank_append {left : List Char} (blank : AllBlank left) (s : List Char) :
    nameItems (left ++ s) = nameItems s := by
  obtain ⟨front, last, first, back, inLeft, inName, both⟩ := Text.pieces_append ',' left s
  rw [Text.pieces_of_not_mem (not_mem_of_allBlank blank)] at inLeft
  obtain ⟨rfl, rfl⟩ : front = [] ∧ last = left := by
    cases front with
    | nil => exact ⟨rfl, (List.cons.inj inLeft).1.symm⟩
    | cons p front => simp at inLeft
  rw [nameItems, nameItems, both, inName, List.nil_append, List.map_cons, List.map_cons,
    Text.trim_blank_append blank]

theorem nameItems_append_blank (s : List Char) {right : List Char} (blank : AllBlank right) :
    nameItems (s ++ right) = nameItems s := by
  obtain ⟨front, last, first, back, inName, inRight, both⟩ := Text.pieces_append ',' s right
  rw [Text.pieces_of_not_mem (not_mem_of_allBlank blank)] at inRight
  obtain ⟨rfl, rfl⟩ := List.cons.inj inRight
  rw [nameItems, nameItems, both, inName, List.map_append, List.map_append, List.map_cons, List.map_cons,
    Text.trim_append_blank last blank]

theorem of_mem_listItems {names : List String} {item : List Char} (listed : item ∈ listItems names) :
    item ≠ [] ∧ ',' ∉ item := by
  obtain ⟨trimmed, some⟩ := List.mem_filter.mp listed
  obtain ⟨piece, cut, rfl⟩ := List.mem_map.mp trimmed
  obtain ⟨name, -, inName⟩ := List.mem_flatMap.mp cut
  refine ⟨by simpa using some, fun comma => ?_⟩
  exact Text.not_mem_of_mem_pieces inName (Text.mem_of_mem_trim comma)

/-! ### Names that list the same items -/

/-- Two lists of names that differ in how the names are grouped by commas, in blanks around names and in
empty names, and so also in blanks around commas and in commas with no name behind or in front of them. -/
inductive Regrouped : List String → List String → Prop
  | refl (names : List String) : Regrouped names names
  | symm {names others : List String} (h : Regrouped names others) : Regrouped others names
  | trans {names others more : List String} (first : Regrouped names others)
      (second : Regrouped others more) : Regrouped names more
  | append {names others names' others' : List String} (front : Regrouped names others)
      (back : Regrouped names' others') : Regrouped (names ++ names') (others ++ others')
  | group (a b : String) : Regrouped [a, b] [a ++ "," ++ b]
  | pad {left right : String} (before : AllBlank left.toList) (after : AllBlank right.toList)
      (name : String) : Regrouped [name] [left ++ name ++ right]
  | empty : Regrouped [] [""]

theorem Regrouped.listItems_eq {names others : List String} (h : Regrouped names others) :
    listItems names = listItems others := by
  induction h with
  | refl names => rfl
  | symm _ ih => exact ih.symm
  | trans _ _ first second => exact first.trans second
  | append _ _ front back => rw [listItems_append, listItems_append, front, back]
  | group a b =>
    have cut := nameItems_comma a.toList b.toList
    simp only [listItems_cons, listItems_nil, List.append_nil, String.toList_append, List.append_assoc]
    exact cut.symm
  | pad before after name =>
    rw [listItems_singleton, listItems_singleton, String.toList_append, String.toList_append,
      nameItems_append_blank _ after, nameItems_blank_append before]
  | empty => rfl

theorem Regrouped.cons (name : String) {names others : List String} (h : Regrouped names others) :
    Regrouped (name :: names) (name :: others) :=
  .append (.refl [name]) h

theorem regrouped_join {ps : List (List Char)} (any : ps ≠ []) :
    Regrouped [String.ofList (Text.join [','] ps)] (ps.map String.ofList) := by
  induction ps with
  | nil => contradiction
  | cons p ps ih =>
    cases ps with
    | nil => exact .refl _
    | cons q ps =>
      have rest := ih (by simp)
      have cut := Regrouped.group (String.ofList p) (String.ofList (Text.join [','] (q :: ps)))
      have whole : String.ofList p ++ "," ++ String.ofList (Text.join [','] (q :: ps)) =
          String.ofList (Text.join [','] (p :: q :: ps)) := by
        apply String.toList_injective
        simp [Text.join]
      rw [whole] at cut
      exact cut.symm.trans (rest.cons _)

theorem regrouped_trim (s : List Char) : Regrouped [String.ofList s] [String.ofList (trim s)] := by
  obtain ⟨left, right, split, before, after⟩ := Text.exists_padding s
  have padded : Regrouped [String.ofList (trim s)]
      [String.ofList left ++ String.ofList (trim s) ++ String.ofList right] :=
    .pad (by simpa using before) (by simpa using after) _
  rw [← String.ofList_append, ← String.ofList_append, ← split] at padded
  exact padded.symm

theorem regrouped_items (ps : List (List Char)) :
    Regrouped (ps.map String.ofList)
      (((ps.map trim).filter fun item => !item.isEmpty).map String.ofList) := by
  induction ps with
  | nil => exact .refl _
  | cons p ps ih =>
    have first : Regrouped [String.ofList p]
        (([trim p].filter fun item => !item.isEmpty).map String.ofList) := by
      by_cases none : trim p = []
      · rw [none]
        exact (none ▸ regrouped_trim p).trans Regrouped.empty.symm
      · simpa [none] using regrouped_trim p
    have both := first.append ih
    rw [← List.map_append, ← List.filter_append] at both
    exact both

theorem regrouped_listItems (names : List String) :
    Regrouped names ((listItems names).map String.ofList) := by
  induction names with
  | nil => exact .refl _
  | cons name names ih =>
    have cut := regrouped_join (Text.pieces_ne_nil ',' name.toList)
    rw [Text.join_pieces, String.ofList_toList] at cut
    have first := cut.trans (regrouped_items (pieces ',' name.toList))
    rw [listItems_cons, List.map_append]
    exact first.append ih

theorem listItems_eq_iff {names others : List String} :
    listItems names = listItems others ↔ Regrouped names others := by
  constructor
  · intro same
    have left := regrouped_listItems names
    rw [same] at left
    exact left.trans (regrouped_listItems others).symm
  · exact Regrouped.listItems_eq

example : listItems ["Name , Category", ",, Age,"] = listItems ["Name", "Category", "Age"] := by
  decide +kernel

/-! ### Values of options -/

/-- The items that the value of an option stands for: none if it is empty, else the pieces between commas,
once the escapes are read. -/
def itemsOfValue? : List Char → Option (List (List Char))
  | [] => some []
  | value => (decodeText? value).map fun text => pieces ',' text.toList

inductive ListKind where
  | select
  | orderBy
  | expand

namespace ListKind

def option : ListKind → List String → QueryOption
  | select => .select
  | orderBy => .orderBy
  | expand => .expand

theorem plainValue_option (kind : ListKind) (names : List String) :
    (kind.option names).plainValue = Text.join [','] (listItems names) := by
  cases kind <;> rfl

theorem decodeText?_value (kind : ListKind) (names : List String) :
    decodeText? (kind.option names).value = some (String.ofList (Text.join [','] (listItems names))) := by
  rw [(kind.option names).encodes_value.decodeText?, plainValue_option]

theorem value_of_no_items {kind : ListKind} {names : List String} (none : listItems names = []) :
    (kind.option names).value = [] := by
  cases kind <;> simp [option, QueryOption.value, none, Text.join]

theorem join_ne_nil {items : List (List Char)} (any : items ≠ []) (each : ∀ item ∈ items, item ≠ []) :
    Text.join [','] items ≠ [] := by
  cases items with
  | nil => contradiction
  | cons item items =>
    cases items with
    | nil => simpa [Text.join] using each item
    | cons next items => simp [Text.join]

theorem value_eq_nil_iff {kind : ListKind} {names : List String} :
    (kind.option names).value = [] ↔ listItems names = [] := by
  constructor
  · intro empty
    by_contra any
    have read := kind.decodeText?_value names
    rw [empty, Encodes.nil.decodeText?] at read
    have joined : Text.join [','] (listItems names) = [] :=
      (String.ofList_injective (Option.some.inj read)).symm
    exact join_ne_nil any (fun item listed => (of_mem_listItems listed).1) joined
  · exact value_of_no_items

theorem itemsOfValue?_value (kind : ListKind) (names : List String) :
    itemsOfValue? (kind.option names).value = some (listItems names) := by
  by_cases none : listItems names = []
  · rw [value_of_no_items none, none]
    rfl
  · have written : (kind.option names).value ≠ [] := fun empty => none (value_eq_nil_iff.mp empty)
    have cut := Text.pieces_join none fun item listed => (of_mem_listItems listed).2
    rw [itemsOfValue?, decodeText?_value, Option.map_some, String.toList_ofList, cut]
    exact written

theorem value_eq_iff {kind : ListKind} {names others : List String} :
    (kind.option names).value = (kind.option others).value ↔ listItems names = listItems others := by
  constructor
  · intro same
    have read := kind.itemsOfValue?_value names
    rw [same, itemsOfValue?_value] at read
    exact (Option.some.inj read).symm
  · intro same
    cases kind <;> simp [option, QueryOption.value, same]

theorem not_mem_encodePathItem (item : List Char) : '/' ∉ encodePathItem item := by
  intro member
  obtain ⟨c, -, written⟩ := List.mem_flatMap.mp member
  rw [escapeSlash] at written
  split at written
  · revert written
    decide
  · rename_i different
    exact different (List.mem_singleton.mp written).symm

theorem not_mem_value_expand (names : List String) : '/' ∉ (QueryOption.expand names).value := by
  intro member
  rcases Text.mem_join member with between | ⟨piece, listed, inside⟩
  · revert between
    decide
  · obtain ⟨item, -, rfl⟩ := List.mem_map.mp listed
    exact not_mem_encodePathItem item inside

theorem path_eq_iff {kind : ListKind} {names others : List String} (href : String)
    (before after : List QueryOption) :
    QueryOptions.path href ⟨before ++ kind.option names :: after⟩ =
        QueryOptions.path href ⟨before ++ kind.option others :: after⟩ ↔
      (kind.option names).value = (kind.option others).value := by
  obtain ⟨front, back, around⟩ := Text.exists_join_around ['&'] (before.map QueryOption.assignment)
    (after.map QueryOption.assignment)
  have key : (kind.option names).key = (kind.option others).key := by cases kind <;> rfl
  rw [← String.toList_inj, QueryOptions.toList_path (by simp), QueryOptions.toList_path (by simp),
    List.map_append, List.map_append, List.map_cons, List.map_cons, around, around]
  simp [QueryOption.assignment, key]

/-- The value of an option that lists names stands for the items of the names and for nothing else.  It is
empty if there are none, and otherwise they are what stands between its commas once the escapes are read.
So two lists of names make the same value, and the same path, just if they have the same items, which is
just if one comes from the other by grouping names with commas, by blanks around names and by empty
names.  An expansion holds no slash. -/
theorem list_decided (kind : ListKind) (names : List String) :
    itemsOfValue? (kind.option names).value = some (listItems names) ∧
    ((kind.option names).value = [] ↔ listItems names = []) ∧
    (∀ others,
      ((kind.option names).value = (kind.option others).value ↔ listItems names = listItems others) ∧
      (listItems names = listItems others ↔ Regrouped names others) ∧
      ∀ href before after,
        QueryOptions.path href ⟨before ++ kind.option names :: after⟩ =
          QueryOptions.path href ⟨before ++ kind.option others :: after⟩ ↔
        listItems names = listItems others) ∧
    '/' ∉ (QueryOption.expand names).value := by
  refine ⟨kind.itemsOfValue?_value names, value_eq_nil_iff, fun others => ?_,
    not_mem_value_expand names⟩
  refine ⟨value_eq_iff, listItems_eq_iff, fun href before after => ?_⟩
  rw [path_eq_iff, value_eq_iff]

end ListKind
end AtomData
