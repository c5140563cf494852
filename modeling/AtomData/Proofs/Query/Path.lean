import AtomData.Proofs.Text.Percent
import AtomData.Query.Path

/-!
# Query paths taken apart

The options of a query can be read off its path again, whatever texts their names, properties and
values are.  `path_taken_apart` says how: no value holds a character at which the path is cut.
-/

namespace AtomData

open Text.Percent

/-! ### Items of lists -/

theorem flatMap_escapeSlash {s : List Char} (free : '/' ∉ s) : s.flatMap escapeSlash = s := by
  induction s with
  | nil => rfl
  | cons c s ih =>
    have different := List.ne_of_not_mem_cons free
    rw [List.flatMap_cons, escapeSlash, if_neg different.symm, ih (List.not_mem_of_not_mem_cons free)]
    rfl

theorem encodes_encodePathItem (item : List Char) : Encodes (encodePathItem item) item := by
  rw [encodePathItem, encodeQuery, List.flatMap_assoc]
  refine Encodes.flatMap (fun c => ?_) item
  by_cases slash : c = '/'
  · subst slash
    decide
  · have free : '/' ∉ encodeQueryChar c := by
      intro member
      rw [encodeQueryChar] at member
      cases found : queryEscape? c with
      | none =>
        rw [found] at member
        exact slash (List.mem_singleton.mp member).symm
      | some escape =>
        rw [found] at member
        exact absurd ((escape_of_queryEscape? found).2 '/' member) (by decide)
    rw [flatMap_escapeSlash free]
    exact encodes_encodeQueryChar c

theorem not_mem_queryMarks_of_mem_encodePathItem {item : List Char} {c : Char}
    (member : c ∈ encodePathItem item) : c ∉ queryMarks := by
  obtain ⟨d, encoded, written⟩ := List.mem_flatMap.mp member
  rw [escapeSlash] at written
  split at written
  · have escape : ∀ c ∈ ['%', '2', 'f'], c ∉ queryMarks := List.all_iff_forall_prop.mp (by decide)
    exact escape c written
  · rw [List.mem_singleton.mp written]
    exact not_mem_queryMarks_of_mem_encodeQuery encoded

namespace QueryOption

/-- The value of an option as it is meant, before anything is escaped. -/
def plainValue : QueryOption → List Char
  | top n | skip n => Text.naturalText n
  | select names | orderBy names | expand names => Text.join [','] (listItems names)
  | inlineCount allPages => if allPages then "allpages".toList else "none".toList
  | filter chain => chain.text.toList

theorem isUnreserved_of_mem_naturalText {n : Nat} {c : Char} (member : c ∈ Text.naturalText n) :
    isUnreserved c = true := by
  have digit := Text.isDigit_of_mem_naturalText member
  simp [isUnreserved, Char.isAlphanum, digit]

theorem encodes_naturalText (n : Nat) : Encodes (Text.naturalText n) (Text.naturalText n) :=
  Encodes.plain fun percent =>
    ne_percent_of_isUnreserved (isUnreserved_of_mem_naturalText percent) rfl

theorem encodes_value (o : QueryOption) : Encodes o.value o.plainValue := by
  have separator : Encodes listSeparator [','] := by decide
  cases o with
  | top n => exact encodes_naturalText n
  | skip n => exact encodes_naturalText n
  | select names => exact separator.join encodes_encodeQuery
  | orderBy names => exact separator.join encodes_encodeQuery
  | expand names => exact separator.join encodes_encodePathItem
  | inlineCount allPages => cases allPages <;> decide
  | filter chain => exact encodes_encodeQuery _

theorem not_mem_queryMarks_of_mem_join {items : List (List Char)} {f : List Char → List Char}
    (each : ∀ item, ∀ c ∈ f item, c ∉ queryMarks) :
    ∀ c ∈ Text.join listSeparator (items.map f), c ∉ queryMarks := by
  refine Text.join_induction (P := fun s => ∀ c ∈ s, c ∉ queryMarks) (by simp) ?_ (List.all_iff_forall_prop.mp (by decide)) ?_
  · intro s t left right c member
    exact (List.mem_append.mp member).elim (left c) (right c)
  · intro p member
    obtain ⟨item, -, rfl⟩ := List.mem_map.mp member
    exact each item

theorem not_mem_queryMarks_of_mem_value (o : QueryOption) : ∀ c ∈ o.value, c ∉ queryMarks := by
  have number (n : Nat) : ∀ c ∈ Text.naturalText n, c ∉ queryMarks := fun c member =>
    not_mem_queryMarks_of_escape (.inl (isUnreserved_of_mem_naturalText member))
  have names (names : List String) : ∀ c ∈ Text.join listSeparator
      ((listItems names).map encodeQuery), c ∉ queryMarks :=
    not_mem_queryMarks_of_mem_join fun _ _ => not_mem_queryMarks_of_mem_encodeQuery
  cases o with
  | top n => exact number n
  | skip n => exact number n
  | select ns => exact names ns
  | orderBy ns => exact names ns
  | expand ns => exact not_mem_queryMarks_of_mem_join fun _ _ => not_mem_queryMarks_of_mem_encodePathItem
  | inlineCount allPages => cases allPages <;> exact List.all_iff_forall_prop.mp (by decide)
  | filter chain => exact fun _ => not_mem_queryMarks_of_mem_encodeQuery

theorem not_mem_key (o : QueryOption) : '&' ∉ o.key.toList ∧ '=' ∉ o.key.toList := by
  cases o <;> (rw [key]; decide)

theorem not_mem_assignment (o : QueryOption) : '&' ∉ o.assignment := by
  intro member
  rcases List.mem_append.mp member with key | rest
  · exact o.not_mem_key.1 key
  · rcases List.mem_cons.mp rest with sign | value
    · exact absurd sign (by decide)
    · exact o.not_mem_queryMarks_of_mem_value _ value (by decide)

end QueryOption

namespace QueryOptions

theorem toList_path {options : QueryOptions} (any : options.toList ≠ []) (href : String) :
    (options.path href).toList =
      href.toList ++ '?' :: Text.join ['&'] (options.toList.map QueryOption.assignment) := by
  rw [path]
  split
  · contradiction
  · rw [String.toList_ofList]

theorem path_eq_href_iff {options : QueryOptions} {href : String} :
    options.path href = href ↔ options.toList = [] := by
  constructor
  · intro same
    by_cases none : options.toList = []
    · exact none
    · have longer := congrArg (fun s => s.toList.length) same
      simp only [toList_path none, List.length_append, List.length_cons] at longer
      omega
  · intro none
    rw [path, none]

/-- Behind the first question mark of a path stands one piece for each option, in order, and each is the
key and the value of the option.  Values hold no character that would change how the query reads, and
the filters are read back from theirs as they were written. -/
theorem path_taken_apart (options : QueryOptions) {href : String} (unmarked : '?' ∉ href.toList) :
    (options.path href = href ↔ options.toList = []) ∧
    (options.toList ≠ [] → ∃ query,
      Text.cutFirst? '?' (options.path href).toList = some (href.toList, query) ∧
      (Text.pieces '&' query).map (Text.cutFirst? '=') =
        options.toList.map fun o => some (o.key.toList, o.value)) ∧
    (∀ o ∈ options.toList, (∀ c ∈ o.value, c ∉ [' ', '\'', '&', '#', '+']) ∧ Escaped o.value) ∧
    ∀ chain, .filter chain ∈ options.toList →
      decodeText? (QueryOption.filter chain).value = some chain.text := by
  refine ⟨path_eq_href_iff, fun any => ?_, fun o _ => ?_, fun chain _ => ?_⟩
  · refine ⟨Text.join ['&'] (options.toList.map QueryOption.assignment), ?_, ?_⟩
    · rw [toList_path any]
      exact Text.cutFirst?_append unmarked _
    · have free : ∀ p ∈ options.toList.map QueryOption.assignment, '&' ∉ p := by
        intro p member
        obtain ⟨o, -, rfl⟩ := List.mem_map.mp member
        exact o.not_mem_assignment
      rw [Text.pieces_join (by simpa using any) free, List.map_map]
      exact List.map_congr_left fun o _ => Text.cutFirst?_append o.not_mem_key.2 o.value
  · exact ⟨o.not_mem_queryMarks_of_mem_value, escaped_of_decode o.encodes_value⟩
  · rw [(QueryOption.encodes_value (.filter chain)).decodeText?]
    exact congrArg some chain.text.ofList_toList

section Dogs

private def dogs : QueryOptions :=
  ((empty.push (.top 5)).pushFilter ⟨.and, .compare "Name" .eq (.string "a'&$top=1#%2c")⟩).push
    (.expand ["Owner/Cat , x=1&y"])

/-- Texts that look like parts of a query stay inside of their values. -/
theorem path_taken_apart_dogs :
    '?' ∉ "Dogs".toList ∧
    ∃ query, Text.cutFirst? '?' (dogs.path "Dogs").toList = some ("Dogs".toList, query) ∧
      (Text.pieces '&' query).map (Text.cutFirst? '=') =
        [some ("$top".toList, "5".toList),
          some ("$filter".toList, "Name%20eq%20%27a%27%27%26$top=1%23%252c%27".toList),
          some ("$expand".toList, "Owner%2fCat%2cx=1%26y".toList)] := by
  have unmarked : '?' ∉ "Dogs".toList := by decide
  obtain ⟨-, cut, -⟩ := dogs.path_taken_apart unmarked
  obtain ⟨query, front, options⟩ := cut (by decide)
  exact ⟨unmarked, query, front, options.trans (by decide +kernel)⟩

end Dogs

end QueryOptions
end AtomData
