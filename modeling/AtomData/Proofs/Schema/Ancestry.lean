import AtomData.Schema.Metadata

/-!
# Chains of ancestors

Where the base references of a list of declarations lead, said without resolving anything.  The
chain of a declaration either comes to an end that the policy accepts, or it has a fault;
`Grounded.not_fault` and `Fault.unique` show that it cannot have both, nor two faults.
-/

namespace AtomData.Metadata

variable {decls : List EntityTypeDecl} {policy : BaseTypePolicy} {i : Fin decls.length}

/-- The first declaration that the base reference of a declaration names. -/
def base? (decls : List EntityTypeDecl) (i : Fin decls.length) : Option (Fin decls.length) :=
  (decls.get i).baseTypeName.bind fun reference => decls.findFinIdx? (·.isNamedBy reference)

/-- The declaration that `k` base references lead to from `i`. -/
def ancestor? (decls : List EntityTypeDecl) (i : Fin decls.length) : Nat → Option (Fin decls.length)
  | 0 => some i
  | k + 1 => (ancestor? decls i k).bind (base? decls)

/-- A chain may end where there is no base reference; a lenient policy also lets it end at a
reference that names nothing. -/
def EndsAt (decls : List EntityTypeDecl) (policy : BaseTypePolicy) (i : Fin decls.length) : Prop :=
  (decls.get i).baseTypeName = none ∨ policy = .lenient ∧ base? decls i = none

/-- The chain of ancestors of `i` comes to an end. -/
def Grounded (decls : List EntityTypeDecl) (policy : BaseTypePolicy) (i : Fin decls.length) : Prop :=
  ∃ k j, ancestor? decls i k = some j ∧ EndsAt decls policy j

/-- What is wrong with the chain of ancestors of `i`.  A cycle is named after the first declaration
that the chain reaches for the second time. -/
inductive Fault (decls : List EntityTypeDecl) (policy : BaseTypePolicy) (i : Fin decls.length) :
    SchemaError → Prop
  | unresolved {k : Nat} {j : Fin decls.length} {reference : String} (strict : policy = .strict)
      (reached : ancestor? decls i k = some j) (named : (decls.get j).baseTypeName = some reference)
      (dangling : base? decls j = none) :
      Fault decls policy i (.unresolvedBaseType (decls.get j).fullName reference)
  | cycle {k l : Nat} {j : Fin decls.length} (before : k < l) (once : ancestor? decls i k = some j)
      (again : ancestor? decls i l = some j)
      (first : ∀ a b, a < b → b < l → ancestor? decls i a ≠ ancestor? decls i b) :
      Fault decls policy i (.inheritanceCycle (decls.get j).fullName)

theorem EndsAt.base?_eq_none (h : EndsAt decls policy i) : base? decls i = none := by
  rcases h with noReference | ⟨-, dangling⟩
  · rw [base?, noReference, Option.bind_none]
  · exact dangling

theorem EndsAt.lenient (h : EndsAt decls policy i) : EndsAt decls .lenient i :=
  Or.inr ⟨rfl, h.base?_eq_none⟩

theorem Grounded.lenient (h : Grounded decls policy i) : Grounded decls .lenient i := by
  obtain ⟨k, j, reached, ends⟩ := h
  exact ⟨k, j, reached, ends.lenient⟩

/-! ### Walking up -/

theorem ancestor?_add (k l : Nat) :
    ancestor? decls i (k + l) = (ancestor? decls i k).bind fun j => ancestor? decls j l := by
  induction l with
  | zero => simp [ancestor?]
  | succ l ih =>
    rw [← Nat.add_assoc, ancestor?, ih, Option.bind_assoc]
    rfl

theorem ancestor?_succ (k : Nat) :
    ancestor? decls i (k + 1) = (base? decls i).bind fun j => ancestor? decls j k := by
  rw [Nat.add_comm, ancestor?_add]
  rfl

theorem ancestor?_eq_none_of_le {k l : Nat} (le : k ≤ l) (h : ancestor? decls i k = none) :
    ancestor? decls i l = none := by
  obtain ⟨d, rfl⟩ := Nat.exists_eq_add_of_le le
  rw [ancestor?_add, h, Option.bind_none]

theorem ancestor?_add_eq {k l : Nat} (same : ancestor? decls i k = ancestor? decls i l) (d : Nat) :
    ancestor? decls i (k + d) = ancestor? decls i (l + d) := by
  rw [ancestor?_add, ancestor?_add, same]

theorem ancestor?_ne_none_of_revisit {k l : Nat} {j : Fin decls.length} (before : k < l)
    (once : ancestor? decls i k = some j) (again : ancestor? decls i l = some j) (m : Nat) :
    ancestor? decls i m ≠ none := by
  induction m using Nat.strongRecOn with
  | ind m ih =>
    intro stops
    by_cases le : m ≤ l
    · rw [ancestor?_eq_none_of_le le stops] at again
      cases again
    · -- From the second visit on, the chain repeats what followed the first.
      obtain ⟨d, rfl⟩ := Nat.exists_eq_add_of_le (Nat.le_of_not_le le)
      have earlier := ancestor?_add_eq (once.trans again.symm) d
      exact ih (k + d) (by omega) (earlier.trans stops)

theorem ancestor?_eq_none_after {k m : Nat} {j : Fin decls.length}
    (reached : ancestor? decls i k = some j) (stops : base? decls j = none) (lt : k < m) :
    ancestor? decls i m = none := by
  apply ancestor?_eq_none_of_le lt
  rw [ancestor?, reached, Option.bind_some, stops]

theorem end_unique {k l : Nat} {a b : Fin decls.length} (atA : ancestor? decls i k = some a)
    (endA : base? decls a = none) (atB : ancestor? decls i l = some b) (endB : base? decls b = none) :
    a = b := by
  have notBefore : ¬k < l := fun lt => by
    rw [ancestor?_eq_none_after atA endA lt] at atB
    cases atB
  have notAfter : ¬l < k := fun lt => by
    rw [ancestor?_eq_none_after atB endB lt] at atA
    cases atA
  obtain rfl : k = l := by omega
  exact Option.some.inj (atA.symm.trans atB)

/-! ### Ends and faults exclude each other -/

theorem Grounded.not_fault {e : SchemaError} (grounded : Grounded decls policy i) :
    ¬Fault decls policy i e := by
  obtain ⟨k, j, reached, ends⟩ := grounded
  intro fault
  cases fault with
  | unresolved strict other named dangling =>
    obtain rfl := end_unique reached ends.base?_eq_none other dangling
    rcases ends with noReference | ⟨lenient, -⟩
    · rw [noReference] at named
      cases named
    · rw [strict] at lenient
      cases lenient
  | cycle before once again _ =>
    exact ancestor?_ne_none_of_revisit before once again (k + 1)
      (ancestor?_eq_none_after reached ends.base?_eq_none (Nat.lt_succ_self k))

theorem Fault.unique {e e' : SchemaError} (h : Fault decls policy i e) (h' : Fault decls policy i e') :
    e = e' := by
  cases h with
  | unresolved _ reached named dangling =>
    cases h' with
    | unresolved _ reached' named' dangling' =>
      obtain rfl := end_unique reached dangling reached' dangling'
      rw [Option.some.inj (named.symm.trans named')]
    | cycle before once again _ =>
      exact absurd (ancestor?_eq_none_after reached dangling (Nat.lt_succ_self _))
        (ancestor?_ne_none_of_revisit before once again _)
  | cycle before once again first =>
    cases h' with
    | unresolved _ reached _ dangling =>
      exact absurd (ancestor?_eq_none_after reached dangling (Nat.lt_succ_self _))
        (ancestor?_ne_none_of_revisit before once again _)
    | @cycle k' l' j' before' once' again' first' =>
      rename_i k l j
      have notBefore : ¬l < l' := fun lt => first' k l before lt (once.trans again.symm)
      have notAfter : ¬l' < l := fun lt => first k' l' before' lt (once'.trans again'.symm)
      obtain rfl : l = l' := by omega
      rw [Option.some.inj (again.symm.trans again')]

theorem Fault.of_lenient {e : SchemaError} (h : Fault decls .lenient i e) :
    ∃ name, e = .inheritanceCycle name := by
  cases h with
  | unresolved strict => cases strict
  | cycle => exact ⟨_, rfl⟩

theorem Fault.of_strict {e : SchemaError} (h : Fault decls .strict i e)
    (tolerated : Grounded decls .lenient i) : ∃ name reference, e = .unresolvedBaseType name reference := by
  cases h with
  | unresolved => exact ⟨_, _, rfl⟩
  | cycle before once again first => exact absurd (Fault.cycle before once again first) tolerated.not_fault

end AtomData.Metadata
