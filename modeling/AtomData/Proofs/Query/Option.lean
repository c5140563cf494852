import AtomData.Query.Plan
import AtomData.Proofs.Query.Filter

/-!
# Merged filters

Options and filters are added to a query in any order.  `filters_merge` says what comes of them: the
other options as they were added, and all filters in one option, where the first of them was added.
-/

namespace AtomData

inductive Addition where
  | option (o : QueryOption)
  | filter (joiner : Joiner) (predicate : Predicate)

inductive PlanChange where
  | add (a : Addition)
  | cap (n : Nat)

namespace QueryOption

def isFilter : QueryOption → Bool
  | filter _ => true
  | _ => false

def ofFilters : List Filter → List QueryOption
  | [] => []
  | f :: fs => [.filter ⟨f :: fs⟩]

theorem isFilter_of_mem_ofFilters {fs : List Filter} {o : QueryOption} (mem : o ∈ ofFilters fs) :
    o.isFilter = true := by
  cases fs with
  | nil => cases mem
  | cons f fs =>
    obtain rfl := List.mem_singleton.mp mem
    rfl

end QueryOption

namespace Addition

def filters : Addition → List Filter
  | option (.filter chain) => chain.filters
  | option _ => []
  | filter joiner predicate => [⟨joiner, predicate⟩]

def addsNoFilter (a : Addition) : Bool := a.filters.isEmpty

def others : Addition → List QueryOption
  | option o => if o.isFilter then [] else [o]
  | filter _ _ => []

theorem isFilter_of_mem_others {a : Addition} {o : QueryOption} (mem : o ∈ a.others) :
    o.isFilter = false := by
  cases a with
  | option p => grind [others]
  | filter joiner predicate => cases mem

theorem others_of_filters {a : Addition} (some : a.filters ≠ []) : a.others = [] := by
  cases a with
  | option o =>
    cases o with
    | filter chain => rfl
    | _ => exact absurd rfl some
  | filter joiner predicate => rfl

end Addition

namespace PlanChange

def addition? : PlanChange → Option Addition
  | add a => some a
  | cap _ => none

end PlanChange

namespace QueryOptions

def add (options : QueryOptions) : Addition → QueryOptions
  | .option o => options.push o
  | .filter joiner predicate => options.pushFilter ⟨joiner, predicate⟩

def addAll (options : QueryOptions) (additions : List Addition) : QueryOptions :=
  additions.foldl add options

/-! ### Filters alone -/

def addFilters (fs : List Filter) (os : List QueryOption) : List QueryOption :=
  fs.foldl (fun os f => addFilter f os) os

variable {f : Filter} {fs gs : List Filter} {o : QueryOption} {os front back : List QueryOption}

theorem addFilter_cons (plain : o.isFilter = false) :
    addFilter f (o :: os) = o :: addFilter f os := by
  cases o with
  | filter chain => cases plain
  | _ => rfl

theorem addFilter_append (plain : ∀ o ∈ front, o.isFilter = false) :
    addFilter f (front ++ os) = front ++ addFilter f os := by
  induction front with
  | nil => rfl
  | cons o front ih =>
    have ⟨first, rest⟩ := List.forall_mem_cons.mp plain
    rw [List.cons_append, addFilter_cons first, ih rest, List.cons_append]

theorem addFilters_merged (plain : ∀ o ∈ front, o.isFilter = false) :
    addFilters gs (front ++ .filter ⟨fs⟩ :: back) = front ++ .filter ⟨fs ++ gs⟩ :: back := by
  induction gs generalizing fs with
  | nil => rw [List.append_nil]; rfl
  | cons g gs ih =>
    have one : addFilter g (front ++ .filter ⟨fs⟩ :: back) = front ++ .filter ⟨fs ++ [g]⟩ :: back :=
      addFilter_append plain
    rw [addFilters, List.foldl_cons, one, ← addFilters, ih, List.append_assoc, List.singleton_append]

theorem addFilters_of_plain (plain : ∀ o ∈ os, o.isFilter = false) :
    addFilters gs os = os ++ QueryOption.ofFilters gs := by
  cases gs with
  | nil => exact (List.append_nil os).symm
  | cons g gs =>
    have one : addFilter g os = os ++ [.filter ⟨[g]⟩] := by
      have behind : addFilter g (os ++ []) = os ++ addFilter g [] := addFilter_append plain
      rwa [List.append_nil] at behind
    rw [addFilters, List.foldl_cons, one, ← addFilters, addFilters_merged plain]
    rfl

theorem toList_foldl_pushFilter (options : QueryOptions) :
    (fs.foldl pushFilter options).toList = addFilters fs options.toList := by
  induction fs generalizing options with
  | nil => rfl
  | cons f fs ih => exact ih (options.pushFilter f)

/-! ### Additions -/

variable {a : Addition} {additions : List Addition}

theorem add_eq (options : QueryOptions) (a : Addition) :
    options.add a = ⟨addFilters a.filters options.toList ++ a.others⟩ := by
  cases a with
  | option o =>
    cases o with
    | filter chain =>
      rw [show (Addition.option (.filter chain)).others = [] from rfl, List.append_nil]
      exact congrArg mk (toList_foldl_pushFilter options)
    | _ => rfl
  | filter joiner predicate => exact congrArg mk (List.append_nil _).symm

theorem addAll_cons (options : QueryOptions) :
    options.addAll (a :: additions) = (options.add a).addAll additions := rfl

theorem addAll_merged (plain : ∀ o ∈ front, o.isFilter = false) :
    addAll ⟨front ++ .filter ⟨fs⟩ :: back⟩ additions =
      ⟨front ++ .filter ⟨fs ++ additions.flatMap Addition.filters⟩ ::
        (back ++ additions.flatMap Addition.others)⟩ := by
  induction additions generalizing fs back with
  | nil => simp [addAll]
  | cons a additions ih =>
    rw [addAll_cons, add_eq, addFilters_merged plain, List.append_assoc, List.cons_append, ih]
    simp

theorem addAll_of_plain (plain : ∀ o ∈ os, o.isFilter = false) :
    addAll ⟨os⟩ additions =
      ⟨os ++ (additions.takeWhile Addition.addsNoFilter).flatMap Addition.others ++
        QueryOption.ofFilters (additions.flatMap Addition.filters) ++
        (additions.dropWhile Addition.addsNoFilter).flatMap Addition.others⟩ := by
  induction additions generalizing os with
  | nil => simp [addAll, QueryOption.ofFilters]
  | cons a additions ih =>
    rw [addAll_cons, add_eq, addFilters_of_plain plain]
    -- Options line up until the first filter comes; from then on the filters have their place.
    cases filters : a.filters with
    | nil =>
      have still : ∀ o ∈ os ++ a.others, o.isFilter = false := fun o mem =>
        (List.mem_append.mp mem).elim (plain o) Addition.isFilter_of_mem_others
      simp [QueryOption.ofFilters, ih still, Addition.addsNoFilter, filters]
    | cons f fs =>
      have none : a.others = [] := Addition.others_of_filters (by simp [filters])
      rw [none, List.append_nil, QueryOption.ofFilters, addAll_merged plain]
      simp [QueryOption.ofFilters, Addition.addsNoFilter, filters, none]

theorem empty_addAll (additions : List Addition) :
    empty.addAll additions =
      ⟨(additions.takeWhile Addition.addsNoFilter).flatMap Addition.others ++
        QueryOption.ofFilters (additions.flatMap Addition.filters) ++
        (additions.dropWhile Addition.addsNoFilter).flatMap Addition.others⟩ := by
  have none : ∀ o ∈ ([] : List QueryOption), o.isFilter = false := by simp
  exact addAll_of_plain none

/-! ### Filters among other options -/

theorem filters_assembled (plain : ∀ o ∈ os, o.isFilter = false)
    (behind : ∀ o ∈ back, o.isFilter = false) :
    (os ++ QueryOption.ofFilters fs ++ back).filter QueryOption.isFilter = QueryOption.ofFilters fs := by
  have none : ∀ {ps : List QueryOption}, (∀ o ∈ ps, o.isFilter = false) →
      ps.filter QueryOption.isFilter = [] := fun plain =>
    List.filter_eq_nil_iff.mpr fun o mem => by simp [plain o mem]
  have all : (QueryOption.ofFilters fs).filter QueryOption.isFilter = QueryOption.ofFilters fs :=
    List.filter_eq_self.mpr fun _ => QueryOption.isFilter_of_mem_ofFilters
  rw [List.filter_append, List.filter_append, none plain, none behind, all, List.nil_append,
    List.append_nil]

theorem others_assembled (plain : ∀ o ∈ os, o.isFilter = false)
    (behind : ∀ o ∈ back, o.isFilter = false) :
    (os ++ QueryOption.ofFilters fs ++ back).filter (fun o => !o.isFilter) = os ++ back := by
  have all : ∀ {ps : List QueryOption}, (∀ o ∈ ps, o.isFilter = false) →
      ps.filter (fun o => !o.isFilter) = ps := fun plain =>
    List.filter_eq_self.mpr fun o mem => by simp [plain o mem]
  have none : (QueryOption.ofFilters fs).filter (fun o => !o.isFilter) = [] :=
    List.filter_eq_nil_iff.mpr fun o mem => by simp [QueryOption.isFilter_of_mem_ofFilters mem]
  rw [List.filter_append, List.filter_append, all plain, all behind, none, List.append_nil]

theorem isFilter_of_mem_flatMap_others (additions : List Addition) :
    ∀ o ∈ additions.flatMap Addition.others, o.isFilter = false := by
  intro o mem
  obtain ⟨a, -, mem⟩ := List.mem_flatMap.mp mem
  exact Addition.isFilter_of_mem_others mem

/-- The options that come of additions to none: the others in their order, and at most one filter
option, behind the others that were added before the first filter. -/
structure Merged (additions : List Addition) (os : List QueryOption) : Prop where
  others : os.filter (fun o => !o.isFilter) = additions.flatMap Addition.others
  filters : os.filter QueryOption.isFilter = QueryOption.ofFilters (additions.flatMap Addition.filters)
  place : os = (additions.takeWhile Addition.addsNoFilter).flatMap Addition.others ++
    QueryOption.ofFilters (additions.flatMap Addition.filters) ++
    (additions.dropWhile Addition.addsNoFilter).flatMap Addition.others

theorem merged_addAll (additions : List Addition) : Merged additions (empty.addAll additions).toList := by
  have place := congrArg toList (empty_addAll additions)
  refine ⟨?_, ?_, place⟩
  · rw [place, others_assembled (isFilter_of_mem_flatMap_others _) (isFilter_of_mem_flatMap_others _),
      ← List.flatMap_append, List.takeWhile_append_dropWhile]
  · rw [place, filters_assembled (isFilter_of_mem_flatMap_others _) (isFilter_of_mem_flatMap_others _)]

theorem push_filter (options : QueryOptions) (chain : FilterChain) :
    options.push (.filter chain) =
      options.addAll (chain.filters.map fun f => .filter f.joiner f.predicate) := by
  rw [addAll, List.foldl_map]
  rfl

end QueryOptions

namespace QueryPlan

def change (p : QueryPlan) : PlanChange → QueryPlan
  | .add (.option o) => p.withOption o
  | .add (.filter joiner predicate) => p.filter joiner predicate
  | .cap n => p.capped n

theorem options_foldl_change (p : QueryPlan) (changes : List PlanChange) :
    (changes.foldl change p).options = p.options.addAll (changes.filterMap PlanChange.addition?) := by
  induction changes generalizing p with
  | nil => rfl
  | cons c changes ih =>
    rw [List.foldl_cons, ih]
    cases c with
    | add a => cases a <;> rfl
    | cap n => rfl

end QueryPlan

namespace QueryOptions

/-- Whatever is added to empty options, all filters end up in one option; so they do in the options of a
plan.  A chain is added as its filters are one by one, and of two groups of filters the texts are joined
by the word in front of the second group. -/
theorem filters_merge :
    (∀ additions, Merged additions (empty.addAll additions).toList) ∧
    (∀ options chain, push options (.filter chain) =
      options.addAll (chain.filters.map fun f => .filter f.joiner f.predicate)) ∧
    (∀ (first second : List Addition) (g : Filter) (gs : List Filter),
      first.flatMap Addition.filters ≠ [] → second.flatMap Addition.filters = g :: gs →
      FilterChain.text ⟨(first ++ second).flatMap Addition.filters⟩ =
        FilterChain.text ⟨first.flatMap Addition.filters⟩ ++ g.joiner.text ++
          FilterChain.text ⟨second.flatMap Addition.filters⟩) ∧
    ∀ (href : String) (changes : List PlanChange),
      (changes.foldl QueryPlan.change (.ofHref href)).options =
        empty.addAll (changes.filterMap PlanChange.addition?) := by
  refine ⟨merged_addAll, push_filter, fun first second g gs some rest => ?_, fun href changes =>
    QueryPlan.options_foldl_change (.ofHref href) changes⟩
  rw [List.flatMap_append, rest]
  exact FilterChain.text_append some g gs

example (p q : Predicate) :
    (empty.addAll [.option (.top 1), .filter .and p, .option (.skip 2), .filter .or q]).toList =
      [.top 1, .filter ⟨[⟨.and, p⟩, ⟨.or, q⟩]⟩, .skip 2] := rfl

end QueryOptions
end AtomData
