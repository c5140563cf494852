import AtomData.Schema.Metadata
import Mathlib.Data.List.Range
import Mathlib.Data.Fintype.Card

/-!
# Resolution in steps

Declarations resolved one step at a time, on a stack of open calls and two plain lists of marks.  No bound
is set to the depth of the stack, and places are bare numbers, so that a list may turn out too short for
one.  `Sound` says where a resolution may stand, and there is an equation for each kind of step.
-/

namespace AtomData.Metadata

/-! ## The steps -/

inductive Turn where
  | call (i : Nat)
  /-- The last call comes back with a type. -/
  | returned (t : EntityType)
  | failed (e : SchemaError)
  | done
  deriving DecidableEq, Repr

/-- A resolution under way.  The open calls stand with the innermost one in front; `built` records the
declarations of the types that were built, and `types` holds what the calls that no other call made came
back with. -/
structure Resolution where
  turn : Turn
  opened : List Nat
  resolved : List (Option EntityType)
  visiting : List Bool
  built : List Nat
  types : List EntityType
  deriving DecidableEq, Repr

/-- Writes to a place of a list, which must exist. -/
def put? {α : Type} (xs : List α) (i : Nat) (x : α) : Option (List α) :=
  if i < xs.length then some (xs.set i x) else none

namespace Resolution

def enter (s : Resolution) (i : Nat) : Option Resolution := do
  let visiting ← put? s.visiting i true
  return { s with visiting, opened := i :: s.opened }

/-- The innermost open call builds the type of its declaration and comes back with it. -/
def leave (decls : List EntityTypeDecl) (s : Resolution) (base : Option EntityType) : Option Resolution :=
  match s.opened with
  | [] => none
  | i :: opened => do
    let d ← decls[i]?
    let t := EntityType.ofDecl d base
    let visiting ← put? s.visiting i false
    let resolved ← put? s.resolved i (some t)
    return { s with visiting, resolved, opened, built := i :: s.built, turn := .returned t }

/-- The resolution after `enter`, if the place exists. -/
def entered (s : Resolution) (i : Nat) : Resolution :=
  { s with visiting := s.visiting.set i true, opened := i :: s.opened }

def left (s : Resolution) (i : Nat) (opened : List Nat) (t : EntityType) : Resolution :=
  { s with visiting := s.visiting.set i false, resolved := s.resolved.set i (some t), opened,
           built := i :: s.built, turn := .returned t }

def advance (decls : List EntityTypeDecl) (s : Resolution) : Resolution :=
  { s with turn := if s.types.length < decls.length then .call s.types.length else .done }

def start (decls : List EntityTypeDecl) : Resolution :=
  advance decls ⟨.done, [], List.replicate decls.length none, List.replicate decls.length false, [], []⟩

/-- One step; there is none where a list is read or written at a place that it does not have. -/
def step (decls : List EntityTypeDecl) (policy : BaseTypePolicy) (s : Resolution) : Option Resolution :=
  match s.turn with
  | .call i => do
    match ← s.resolved[i]? with
    | some t => return { s with turn := .returned t }
    | none =>
      if ← s.visiting[i]? then
        let d ← decls[i]?
        return { s with turn := .failed (.inheritanceCycle d.fullName) }
      else
        let s ← s.enter i
        let d ← decls[i]?
        match d.baseTypeName with
        | none => s.leave decls none
        | some reference =>
          match decls.findIdx? (·.isNamedBy reference), policy with
          | some j, _ => return { s with turn := .call j }
          | none, .lenient => s.leave decls none
          | none, .strict => return { s with turn := .failed (.unresolvedBaseType d.fullName reference) }
  | .returned t =>
    match s.opened with
    | [] => return advance decls { s with types := s.types ++ [t] }
    | _ :: _ => s.leave decls (some t)
  | .failed _ | .done => return s

def run (decls : List EntityTypeDecl) (policy : BaseTypePolicy) : Nat → Resolution → Option Resolution
  | 0, s => some s
  | k + 1, s => (step decls policy s).bind (run decls policy k)

/-- How many calls there are, the one that is being made included. -/
def depth (s : Resolution) : Nat :=
  match s.turn with
  | .call _ => s.opened.length + 1
  | _ => s.opened.length

def outcome? (decls : List EntityTypeDecl) (s : Resolution) : Option (Except SchemaError Metadata) :=
  match s.turn with
  | .failed e => some (.error e)
  | .done => some (.ok ⟨(decls.map EntityTypeDecl.namespaceName).eraseDups, s.types⟩)
  | _ => none

end Resolution

/-! ## The invariant -/

open Resolution (step run start advance)

section Invariant
variable {decls : List EntityTypeDecl} {policy : BaseTypePolicy} {s s' : Resolution} {i j : Nat}

/-- The place of the first declaration that the base reference of a declaration names. -/
def baseIndex? (decls : List EntityTypeDecl) (i : Nat) : Option Nat :=
  decls[i]?.bind fun d => d.baseTypeName.bind fun reference => decls.findIdx? (·.isNamedBy reference)

/-- Calls with the innermost one in front.  Each is on the base of the declaration that the next one is
on, and the last one is on `first`. -/
inductive Calls (decls : List EntityTypeDecl) (first : Nat) : List Nat → Prop
  | nil : Calls decls first []
  | outermost : Calls decls first [first]
  | above {i j : Nat} {calls : List Nat} (below : Calls decls first (i :: calls))
      (base : baseIndex? decls i = some j) : Calls decls first (j :: i :: calls)

/-- The type that a declaration makes of the resolved entry of its base. -/
inductive Builds (decls : List EntityTypeDecl) (policy : BaseTypePolicy)
    (resolved : List (Option EntityType)) (i : Nat) : EntityType → Prop
  | root {d : EntityTypeDecl} (declared : decls[i]? = some d) (noBase : baseIndex? decls i = none)
      (accepted : d.baseTypeName = none ∨ policy = .lenient) : Builds decls policy resolved i (.root d)
  | derived {d : EntityTypeDecl} {j : Nat} {base : EntityType} (declared : decls[i]? = some d)
      (step : baseIndex? decls i = some j) (above : resolved[j]? = some (some base)) :
      Builds decls policy resolved i (.derived d base)

/-- What the marks say of the open calls and of the types that were built. -/
structure Marked (decls : List EntityTypeDecl) (policy : BaseTypePolicy) (s : Resolution) : Prop where
  resolved_length : s.resolved.length = decls.length
  visiting_length : s.visiting.length = decls.length
  visiting_iff : ∀ i : Nat, s.visiting[i]? = some true ↔ i ∈ s.opened
  distinct : s.opened.Nodup
  exclusive : ∀ (i : Nat) (t : EntityType), s.visiting[i]? = some true → s.resolved[i]? ≠ some (some t)
  entries : ∀ (i : Nat) (t : EntityType), s.resolved[i]? = some (some t) → Builds decls policy s.resolved i t
  built_iff : ∀ i, i ∈ s.built ↔ ∃ t, s.resolved[i]? = some (some t)
  once : s.built.Nodup
  types : ∀ (k : Nat) (t : EntityType), s.types[k]? = some t → s.resolved[k]? = some (some t)

/-- Where the open calls have come from, and what they wait for. -/
def Stands (decls : List EntityTypeDecl) (s : Resolution) : Prop :=
  match s.turn with
  | .call i => i < decls.length ∧ Calls decls s.types.length (i :: s.opened)
  | .returned t => ∃ i, Calls decls s.types.length (i :: s.opened) ∧ s.resolved[i]? = some (some t)
  | .failed _ => Calls decls s.types.length s.opened
  | .done => s.opened = [] ∧ s.types.length = decls.length

structure Sound (decls : List EntityTypeDecl) (policy : BaseTypePolicy) (s : Resolution) : Prop
    extends Marked decls policy s where
  stands : Stands decls s

theorem Calls.tail {first : Nat} {calls : List Nat} (h : Calls decls first (i :: calls)) :
    Calls decls first calls := by
  cases h with
  | outermost => exact .nil
  | above below _ => exact below

theorem Builds.mono {t : EntityType} {resolved later : List (Option EntityType)}
    (h : Builds decls policy resolved i t)
    (kept : ∀ (j : Nat) (u : EntityType), resolved[j]? = some (some u) → later[j]? = some (some u)) :
    Builds decls policy later i t := by
  cases h with
  | root declared noBase accepted => exact .root declared noBase accepted
  | derived declared step above => exact .derived declared step (kept _ _ above)

theorem lt_of_baseIndex? (step : baseIndex? decls i = some j) : j < decls.length := by
  obtain ⟨d, -, named⟩ := Option.bind_eq_some_iff.mp step
  obtain ⟨reference, -, found⟩ := Option.bind_eq_some_iff.mp named
  exact (List.findIdx?_eq_some_iff_getElem.mp found).1

/-! ### The marks -/

theorem Marked.inside_resolved (h : Marked decls policy s) (lt : i < decls.length) :
    i < s.resolved.length := by
  rw [h.resolved_length]
  exact lt

theorem Marked.inside_visiting (h : Marked decls policy s) (lt : i < decls.length) :
    i < s.visiting.length := by
  rw [h.visiting_length]
  exact lt

theorem Marked.lt_of_mem (h : Marked decls policy s) (member : i ∈ s.opened) : i < decls.length := by
  have visited := (h.visiting_iff i).mpr member
  obtain ⟨inside, -⟩ := List.getElem?_eq_some_iff.mp visited
  rw [← h.visiting_length]
  exact inside

theorem Marked.opened_length_le (h : Marked decls policy s) : s.opened.length ≤ decls.length := by
  have within : s.opened ⊆ List.range decls.length := fun i member => List.mem_range.mpr (h.lt_of_mem member)
  have few := (List.subperm_of_subset h.distinct within).length_le
  rwa [List.length_range] at few

theorem Marked.reads (h : Marked decls policy s) (lt : i < decls.length) :
    ∃ d entry visited, decls[i]? = some d ∧ s.resolved[i]? = some entry ∧ s.visiting[i]? = some visited :=
  ⟨_, _, _, List.getElem?_eq_getElem lt, List.getElem?_eq_getElem (h.inside_resolved lt),
    List.getElem?_eq_getElem (h.inside_visiting lt)⟩

theorem enter_eq (inside : i < s.visiting.length) : s.enter i = some (s.entered i) := by
  simp [Resolution.enter, Resolution.entered, put?, inside]

theorem leave_eq {opened : List Nat} {d : EntityTypeDecl} (base : Option EntityType)
    (innermost : s.opened = i :: opened) (declared : decls[i]? = some d)
    (inVisiting : i < s.visiting.length) (inResolved : i < s.resolved.length) :
    s.leave decls base = some (s.left i opened (.ofDecl d base)) := by
  simp [Resolution.leave, Resolution.left, put?, innermost, declared, inVisiting, inResolved]

theorem Marked.entered (h : Marked decls policy s) (unresolved : s.resolved[i]? = some none)
    (fresh : s.visiting[i]? = some false) : Marked decls policy (s.entered i) := by
  obtain ⟨inside, -⟩ := List.getElem?_eq_some_iff.mp fresh
  have closed : i ∉ s.opened := by
    intro member
    rw [(h.visiting_iff i).mpr member] at fresh
    cases fresh
  have marked (k : Nat) : (s.visiting.set i true)[k]? = some true ↔ k = i ∨ s.visiting[k]? = some true := by
    by_cases same : i = k
    · subst same
      simp [inside]
    · simp [List.getElem?_set_ne same, Ne.symm same]
  exact {
    resolved_length := h.resolved_length
    visiting_length := by rw [Resolution.entered, List.length_set]; exact h.visiting_length
    visiting_iff := by
      intro k
      rw [Resolution.entered, marked, h.visiting_iff, List.mem_cons]
    distinct := List.nodup_cons.mpr ⟨closed, h.distinct⟩
    exclusive := by
      intro k t visited resolved
      rcases (marked k).mp visited with rfl | before
      · cases unresolved.symm.trans resolved
      · exact h.exclusive k t before resolved
    entries := h.entries
    built_iff := h.built_iff
    once := h.once
    types := h.types }

theorem Marked.left {opened : List Nat} {t : EntityType} (h : Marked decls policy s)
    (innermost : s.opened = i :: opened) (builds : Builds decls policy s.resolved i t) :
    Marked decls policy (s.left i opened t) := by
  have member : i ∈ s.opened := innermost ▸ List.mem_cons_self
  have visited := (h.visiting_iff i).mpr member
  have inside : i < s.resolved.length := h.inside_resolved (h.lt_of_mem member)
  have unresolved (u : EntityType) : s.resolved[i]? ≠ some (some u) := h.exclusive i u visited
  have distinct : i ∉ opened ∧ opened.Nodup := List.nodup_cons.mp (innermost ▸ h.distinct)
  have marked (k : Nat) : (s.visiting.set i false)[k]? = some true ↔ k ≠ i ∧ s.visiting[k]? = some true := by
    by_cases same : i = k
    · subst same
      simp [List.getElem?_set]
    · simp [List.getElem?_set_ne same, Ne.symm same]
  have entry (k : Nat) (u : EntityType) : (s.resolved.set i (some t))[k]? = some (some u) ↔
      k = i ∧ u = t ∨ s.resolved[k]? = some (some u) := by
    by_cases same : i = k
    · subst same
      rw [List.getElem?_set_self inside]
      simp only [unresolved, or_false, true_and, Option.some.injEq]
      exact eq_comm
    · simp [List.getElem?_set_ne same, Ne.symm same]
  have kept (k : Nat) (u : EntityType) (before : s.resolved[k]? = some (some u)) :
      (s.resolved.set i (some t))[k]? = some (some u) := (entry k u).mpr (Or.inr before)
  exact {
    resolved_length := by rw [Resolution.left, List.length_set]; exact h.resolved_length
    visiting_length := by rw [Resolution.left, List.length_set]; exact h.visiting_length
    visiting_iff := by
      intro k
      show (s.visiting.set i false)[k]? = some true ↔ k ∈ opened
      rw [marked, h.visiting_iff, innermost, List.mem_cons]
      constructor
      · rintro ⟨different, same | rest⟩
        · exact absurd same different
        · exact rest
      · -- The call that closes is the only open one on its declaration.
        intro rest
        refine ⟨?_, Or.inr rest⟩
        rintro rfl
        exact distinct.1 rest
    distinct := distinct.2
    exclusive := by
      intro k u visiting resolved
      obtain ⟨different, before⟩ := (marked k).mp visiting
      rcases (entry k u).mp resolved with ⟨same, -⟩ | earlier
      · exact different same
      · exact h.exclusive k u before earlier
    entries := by
      intro k u resolved
      rcases (entry k u).mp resolved with ⟨rfl, rfl⟩ | earlier
      · exact builds.mono kept
      · exact (h.entries k u earlier).mono kept
    built_iff := by
      intro k
      show k ∈ i :: s.built ↔ ∃ u, (s.resolved.set i (some t))[k]? = some (some u)
      simp only [entry, List.mem_cons, h.built_iff]
      constructor
      · rintro (rfl | ⟨u, earlier⟩)
        · exact ⟨t, Or.inl ⟨rfl, rfl⟩⟩
        · exact ⟨u, Or.inr earlier⟩
      · rintro ⟨u, ⟨same, -⟩ | earlier⟩
        · exact Or.inl same
        · exact Or.inr ⟨u, earlier⟩
    once := by
      refine List.nodup_cons.mpr ⟨?_, h.once⟩
      rw [h.built_iff]
      rintro ⟨u, earlier⟩
      exact unresolved u earlier
    types := fun k u listed => kept k u (h.types k u listed) }

/-! ### One step -/

section Step
variable {t : EntityType} {d : EntityTypeDecl}

theorem step_resolved (turn : s.turn = .call i) (resolved : s.resolved[i]? = some (some t)) :
    step decls policy s = some { s with turn := .returned t } := by
  simp [step, turn, resolved]

theorem step_visiting (turn : s.turn = .call i) (unresolved : s.resolved[i]? = some none)
    (visiting : s.visiting[i]? = some true) (declared : decls[i]? = some d) :
    step decls policy s = some { s with turn := .failed (.inheritanceCycle d.fullName) } := by
  simp [step, turn, unresolved, visiting, declared]

theorem step_untouched (turn : s.turn = .call i) (unresolved : s.resolved[i]? = some none)
    (fresh : s.visiting[i]? = some false) (declared : decls[i]? = some d) :
    step decls policy s =
      match d.baseTypeName with
      | none => (s.entered i).leave decls none
      | some reference =>
        match decls.findIdx? (·.isNamedBy reference), policy with
        | some j, _ => some { s.entered i with turn := .call j }
        | none, .lenient => (s.entered i).leave decls none
        | none, .strict =>
          some { s.entered i with turn := .failed (.unresolvedBaseType d.fullName reference) } := by
  obtain ⟨inside, -⟩ := List.getElem?_eq_some_iff.mp fresh
  simp [step, turn, unresolved, fresh, enter_eq inside, declared]

theorem baseIndex?_eq (declared : decls[i]? = some d) :
    baseIndex? decls i = d.baseTypeName.bind fun reference => decls.findIdx? (·.isNamedBy reference) := by
  rw [baseIndex?, declared, Option.bind_some]

theorem step_above (turn : s.turn = .call i) (unresolved : s.resolved[i]? = some none)
    (fresh : s.visiting[i]? = some false) (declared : decls[i]? = some d)
    (base : baseIndex? decls i = some j) :
    step decls policy s = some { s.entered i with turn := .call j } := by
  rw [baseIndex?_eq declared] at base
  obtain ⟨reference, named, found⟩ := Option.bind_eq_some_iff.mp base
  rw [step_untouched turn unresolved fresh declared]
  simp only [named, found]

/-- A call on a declaration that needs no base type is closed within the step. -/
theorem step_root (marked : Marked decls policy s) (turn : s.turn = .call i)
    (unresolved : s.resolved[i]? = some none) (fresh : s.visiting[i]? = some false)
    (declared : decls[i]? = some d) (noBase : baseIndex? decls i = none)
    (accepted : d.baseTypeName = none ∨ policy = .lenient) :
    step decls policy s = some ((s.entered i).left i s.opened (.root d)) := by
  have entered := marked.entered unresolved fresh
  have lt : i < decls.length := entered.lt_of_mem List.mem_cons_self
  have closes : (s.entered i).leave decls none = some ((s.entered i).left i s.opened (.root d)) :=
    leave_eq none rfl declared (entered.inside_visiting lt) (entered.inside_resolved lt)
  rw [baseIndex?_eq declared] at noBase
  rw [step_untouched turn unresolved fresh declared, ← closes]
  cases named : d.baseTypeName with
  | none => rfl
  | some reference =>
    rw [named, Option.bind_some] at noBase
    rcases accepted with noReference | rfl
    · rw [named] at noReference
      cases noReference
    · simp only [noBase]

theorem step_dangling {reference : String} (turn : s.turn = .call i) (unresolved : s.resolved[i]? = some none)
    (fresh : s.visiting[i]? = some false) (declared : decls[i]? = some d)
    (named : d.baseTypeName = some reference) (noBase : baseIndex? decls i = none) :
    step decls .strict s =
      some { s.entered i with turn := .failed (.unresolvedBaseType d.fullName reference) } := by
  rw [baseIndex?_eq declared, named, Option.bind_some] at noBase
  rw [step_untouched turn unresolved fresh declared]
  simp only [named, noBase]

theorem step_next (turn : s.turn = .returned t) (closed : s.opened = []) :
    step decls policy s = some (advance decls { s with types := s.types ++ [t] }) := by
  simp [step, turn, closed]

theorem step_derived {opened : List Nat} (marked : Marked decls policy s) (turn : s.turn = .returned t)
    (innermost : s.opened = i :: opened) (declared : decls[i]? = some d) :
    step decls policy s = some (s.left i opened (.derived d t)) := by
  have lt : i < decls.length := marked.lt_of_mem (innermost ▸ List.mem_cons_self)
  have closes := leave_eq (some t) innermost declared (marked.inside_visiting lt)
    (marked.inside_resolved lt)
  simp only [step, turn, innermost]
  exact closes

end Step

end Invariant

end AtomData.Metadata
