/-!
# Tables

Values by name, in the order in which the names came.  Setting a name that is already there keeps
its place, so no name ever occurs twice.
-/

namespace AtomData

def entryNames {α : Type} (entries : List (String × α)) : List String := entries.map Prod.fst

structure Table (α : Type) where
  entries : List (String × α)
  nodup_names : (entryNames entries).Nodup

namespace Table

variable {α : Type}

/-- Puts the value at the entry of the name, or into a new entry at the end. -/
def put (name : String) (a : α) : List (String × α) → List (String × α)
  | [] => [(name, a)]
  | entry :: entries =>
    if entry.1 = name then (name, a) :: entries else entry :: put name a entries

theorem mem_entryNames_put {name other : String} {a : α} {entries : List (String × α)} :
    other ∈ entryNames (put name a entries) ↔ other = name ∨ other ∈ entryNames entries := by
  induction entries with
  | nil => simp [put, entryNames]
  | cons entry entries ih =>
    simp only [entryNames] at ih
    by_cases h : entry.1 = name
    · simp [put, entryNames, h]
    · simp only [put, if_neg h, entryNames, List.map_cons, List.mem_cons, ih]
      exact or_left_comm

theorem nodup_entryNames_put (name : String) (a : α) {entries : List (String × α)}
    (h : (entryNames entries).Nodup) : (entryNames (put name a entries)).Nodup := by
  induction entries with
  | nil => simp [put, entryNames]
  | cons entry entries ih =>
    simp only [entryNames, List.map_cons, List.nodup_cons] at h
    by_cases e : entry.1 = name
    · rw [put, if_pos e, entryNames, List.map_cons, List.nodup_cons, ← e]
      exact h
    · have rest := ih h.2
      have fresh : entry.1 ∉ entryNames (put name a entries) := by
        rw [mem_entryNames_put]
        exact fun m => m.elim e h.1
      simpa [put, entryNames, e] using And.intro fresh rest

def empty : Table α := ⟨[], List.nodup_nil⟩

def set (t : Table α) (name : String) (a : α) : Table α :=
  ⟨put name a t.entries, nodup_entryNames_put name a t.nodup_names⟩

/-- The table of a list; the last value of a name counts. -/
def ofList (entries : List (String × α)) : Table α :=
  entries.foldl (fun t entry => t.set entry.1 entry.2) empty

def get? (t : Table α) (name : String) : Option α :=
  (t.entries.find? fun entry => entry.1 = name).map Prod.snd

def contains (t : Table α) (name : String) : Bool := (t.get? name).isSome

def names (t : Table α) : List String := entryNames t.entries

def size (t : Table α) : Nat := t.entries.length

def erase (t : Table α) (name : String) : Table α :=
  ⟨t.entries.filter (fun entry => entry.1 ≠ name),
    (List.filter_sublist.map Prod.fst).nodup t.nodup_names⟩

theorem get?_empty (name : String) : (empty : Table α).get? name = none := rfl

theorem get?_set (t : Table α) (name other : String) (a : α) :
    (t.set name a).get? other = if other = name then some a else t.get? other := by
  simp only [get?, set]
  induction t.entries with
  | nil => by_cases h : other = name <;> simp [put, h, eq_comm]
  | cons entry entries ih =>
    by_cases e : entry.1 = name <;> by_cases h : other = name <;>
      by_cases k : entry.1 = other <;> simp_all [put]

theorem get?_erase (t : Table α) (name other : String) :
    (t.erase name).get? other = if other = name then none else t.get? other := by
  simp only [get?, erase]
  induction t.entries with
  | nil => simp
  | cons entry entries ih =>
    by_cases e : entry.1 = name <;> by_cases h : other = name <;>
      by_cases k : entry.1 = other <;> simp_all

theorem eq_or_get?_of_set {t : Table α} {name other : String} {a b : α}
    (h : (t.set name a).get? other = some b) : b = a ∨ t.get? other = some b := by
  rw [get?_set] at h
  split at h
  · exact .inl (Option.some.inj h).symm
  · exact .inr h

theorem get?_of_erase {t : Table α} {name other : String} {b : α}
    (h : (t.erase name).get? other = some b) : t.get? other = some b := by
  rw [get?_erase] at h
  split at h
  · cases h
  · exact h

theorem mem_names_of_get? {t : Table α} {name : String} {a : α} (h : t.get? name = some a) :
    name ∈ t.names := by
  obtain ⟨entry, found, -⟩ := Option.map_eq_some_iff.mp h
  have named := List.find?_some found
  exact List.mem_map.mpr ⟨entry, List.mem_of_find?_eq_some found, of_decide_eq_true named⟩

theorem length_names (t : Table α) : t.names.length = t.size := List.length_map ..

end Table
end AtomData
