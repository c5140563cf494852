import AtomData.Schema.EntityType
import Mathlib.Data.String.Basic

/-!
# Names of properties

The names of a list of properties stand in ascending order, each once.  `pairwise_names` and `mem_names`
say so, and `EntityType.mem_propertyNames` which of them come from the base.
-/

namespace AtomData

namespace PropertyList

theorem mem_insertName {name other : String} {names : List String} :
    other ∈ insertName name names ↔ other = name ∨ other ∈ names := by
  induction names with
  | nil => simp [insertName]
  | cons first names ih =>
    rw [insertName]
    split
    · rename_i same
      simp [same]
    · split
      · simp
      · rw [List.mem_cons, ih, List.mem_cons]
        exact or_left_comm

theorem pairwise_insertName (name : String) {names : List String} (ascending : names.Pairwise (· < ·)) :
    (insertName name names).Pairwise (· < ·) := by
  induction names with
  | nil => simp [insertName]
  | cons first names ih =>
    have ⟨below, rest⟩ := List.pairwise_cons.mp ascending
    rw [insertName]
    split
    · exact ascending
    · rename_i different
      split
      · rename_i lt
        refine List.pairwise_cons.mpr ⟨?_, ascending⟩
        intro other member
        rcases List.mem_cons.mp member with rfl | later
        · exact lt
        · exact lt_trans lt (below other later)
      · rename_i notLt
        refine List.pairwise_cons.mpr ⟨?_, ih rest⟩
        intro other member
        rcases mem_insertName.mp member with rfl | later
        · exact lt_of_le_of_ne (le_of_not_gt notLt) (Ne.symm different)
        · exact below other later

theorem pairwise_names (ps : PropertyList) : (names ps).Pairwise (· < ·) := by
  induction ps with
  | nil => exact .nil
  | cons p ps ih => exact pairwise_insertName p.name ih

theorem mem_names {ps : PropertyList} {name : String} : name ∈ names ps ↔ ∃ p ∈ ps, p.name = name := by
  induction ps with
  | nil => simp [names]
  | cons p ps ih =>
    rw [names, List.foldr_cons, ← names, mem_insertName, ih]
    simp [eq_comm]

end PropertyList

theorem EntityType.mem_propertyNames {t : EntityType} {name : String} :
    name ∈ t.propertyNames ↔ name ∈ t.basePropertyNames ∨ name ∈ t.corePropertyNames := by
  cases t with
  | root d => simp [propertyNames, basePropertyNames, corePropertyNames, coreProperties, properties, base?, decl]
  | derived d base =>
    simp [propertyNames, basePropertyNames, corePropertyNames, coreProperties, properties, base?, decl,
      PropertyList.mem_names, or_and_right, exists_or]

end AtomData
