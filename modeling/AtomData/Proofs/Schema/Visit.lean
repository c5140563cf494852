import AtomData.Proofs.Basic
import AtomData.Proofs.Schema.Ancestry
import Mathlib.Data.Fintype.Card

/-!
# Resolving declarations

What `visit` finds out about a declaration is decided by the chain of its ancestors.  `visit_spec`
carries the invariant: the marks that say `visiting` belong to the calls that are still open, and
those are the chain from the first of them; every other mark tells the type that the chain gives.
-/

namespace AtomData.Metadata

variable {decls : List EntityTypeDecl} {policy : BaseTypePolicy} {i j : Fin decls.length}

/-- The type that the chain of ancestors gives a declaration. -/
inductive Resolves (decls : List EntityTypeDecl) (policy : BaseTypePolicy) :
    Fin decls.length → EntityType → Prop
  | root {i : Fin decls.length} (ends : EndsAt decls policy i) : Resolves decls policy i (.root (decls.get i))
  | derived {i j : Fin decls.length} {base : EntityType} (step : base? decls i = some j)
      (above : Resolves decls policy j base) : Resolves decls policy i (.derived (decls.get i) base)

theorem Resolves.decl_eq {t : EntityType} (h : Resolves decls policy i t) : t.decl = decls.get i := by
  cases h <;> rfl

theorem Resolves.unique {t u : EntityType} (h : Resolves decls policy i t)
    (h' : Resolves decls policy i u) : t = u := by
  induction h generalizing u with
  | root ends =>
    cases h' with
    | root => rfl
    | derived step => cases ends.base?_eq_none.symm.trans step
  | derived step _ ih =>
    cases h' with
    | root ends => cases ends.base?_eq_none.symm.trans step
    | derived step' above' =>
      obtain rfl := Option.some.inj (step.symm.trans step')
      rw [ih above']

theorem Resolves.grounded {t : EntityType} (h : Resolves decls policy i t) : Grounded decls policy i := by
  induction h with
  | root ends => exact ⟨0, _, rfl, ends⟩
  | derived step _ ih =>
    obtain ⟨k, j, reached, ends⟩ := ih
    exact ⟨k + 1, j, by rw [ancestor?_succ, step, Option.bind_some, reached], ends⟩

theorem Resolves.lenient {t : EntityType} (h : Resolves decls policy i t) : Resolves decls .lenient i t := by
  induction h with
  | root ends => exact .root ends.lenient
  | derived step _ ih => exact .derived step ih

/-! ### One call -/

/-- What a declaration offers to the call on it. -/
theorem ends_or_steps_or_dangles (decls : List EntityTypeDecl) (policy : BaseTypePolicy)
    (i : Fin decls.length) :
    EndsAt decls policy i ∨ (∃ j, base? decls i = some j) ∨
      policy = .strict ∧ ∃ reference, (decls.get i).baseTypeName = some reference ∧ base? decls i = none := by
  cases found : base? decls i with
  | some j => exact Or.inr (Or.inl ⟨j, rfl⟩)
  | none =>
    cases named : (decls.get i).baseTypeName with
    | none => exact Or.inl (Or.inl named)
    | some reference =>
      cases policy with
      | lenient => exact Or.inl (Or.inr ⟨rfl, found⟩)
      | strict => exact Or.inr (Or.inr ⟨rfl, reference, rfl, rfl⟩)

def Marks.put {n : Nat} (marks : Marks n) (i : Fin n) (mark : Mark) : Marks n := marks.set i.val mark i.isLt

theorem Marks.get_put {n : Nat} (marks : Marks n) (i j : Fin n) (mark : Mark) :
    (marks.put i mark).get j = if i = j then mark else marks.get j := by
  show (marks.set i.val mark i.isLt)[j.val] = if i = j then mark else marks[j.val]
  rw [Vector.getElem_set]
  simp only [Fin.ext_iff]

section Call
variable {marks : Marks decls.length} {depth : Nat}

theorem visit_resolved {t : EntityType} (marked : marks.get i = .resolved t) :
    visit decls policy (depth + 1) marks i = .ok (t, marks) := by
  have marked : marks[i] = .resolved t := marked
  rw [visit, marked]

theorem visit_visiting (marked : marks.get i = .visiting) :
    visit decls policy (depth + 1) marks i = .error (.inheritanceCycle (decls.get i).fullName) := by
  have marked : marks[i] = .visiting := marked
  rw [visit, marked]
  rfl

theorem visit_end (untouched : marks.get i = .untouched) (ends : EndsAt decls policy i) :
    visit decls policy (depth + 1) marks i =
      .ok (.root (decls.get i), (marks.put i .visiting).put i (.resolved (.root (decls.get i)))) := by
  have untouched : marks[i] = .untouched := untouched
  rw [visit, untouched]
  rcases ends with noReference | ⟨rfl, dangling⟩
  · have noReference : decls[i].baseTypeName = none := noReference
    simp only [noReference]
    rfl
  · cases named : decls[i].baseTypeName with
    | none => rfl
    | some reference =>
      have named : (decls.get i).baseTypeName = some reference := named
      rw [base?, named, Option.bind_some] at dangling
      simp only [dangling]
      rfl

theorem visit_dangling {reference : String} (untouched : marks.get i = .untouched)
    (named : (decls.get i).baseTypeName = some reference) (dangling : base? decls i = none) :
    visit decls .strict (depth + 1) marks i =
      .error (.unresolvedBaseType (decls.get i).fullName reference) := by
  rw [base?, named, Option.bind_some] at dangling
  have named : decls[i].baseTypeName = some reference := named
  have untouched : marks[i] = .untouched := untouched
  rw [visit, untouched]
  simp only [named, dangling]
  rfl

theorem visit_step (untouched : marks.get i = .untouched) (step : base? decls i = some j) :
    visit decls policy (depth + 1) marks i =
      match visit decls policy depth (marks.put i .visiting) j with
      | .ok (base, marks) =>
        .ok (.derived (decls.get i) base, marks.put i (.resolved (.derived (decls.get i) base)))
      | .error e => .error e := by
  obtain ⟨reference, named, found⟩ := Option.bind_eq_some_iff.mp step
  have named : decls[i].baseTypeName = some reference := named
  have untouched : marks[i] = .untouched := untouched
  rw [visit, untouched]
  simp only [named, found]
  rfl

end Call

/-! ### The invariant -/

/-- The marks while the calls on `opened` are still open. -/
structure Consistent (decls : List EntityTypeDecl) (policy : BaseTypePolicy)
    (opened : List (Fin decls.length)) (marks : Marks decls.length) : Prop where
  visiting_iff : ∀ i : Fin decls.length, marks.get i = .visiting ↔ i ∈ opened
  resolves : ∀ (i : Fin decls.length) (t : EntityType), marks.get i = .resolved t → Resolves decls policy i t

theorem get_untouched (i : Fin decls.length) :
    (Vector.replicate decls.length Mark.untouched).get i = .untouched := Vector.getElem_replicate i.isLt

theorem consistent_untouched : Consistent decls policy [] (Vector.replicate _ .untouched) where
  visiting_iff i := by
    rw [get_untouched]
    simp
  resolves i t marked := by cases (get_untouched i).symm.trans marked

theorem Consistent.opening {opened : List (Fin decls.length)} {marks : Marks decls.length}
    (h : Consistent decls policy opened marks) (i : Fin decls.length) :
    Consistent decls policy (opened ++ [i]) (marks.put i .visiting) where
  visiting_iff j := by
    rw [Marks.get_put, List.mem_append, List.mem_singleton, ← h.visiting_iff j]
    by_cases same : i = j
    · simp [same]
    · simp [same, Ne.symm same]
  resolves j t marked := by
    rw [Marks.get_put] at marked
    split at marked
    · cases marked
    · exact h.resolves j t marked

theorem Consistent.closing {opened : List (Fin decls.length)} {marks : Marks decls.length}
    {t : EntityType} (h : Consistent decls policy (opened ++ [i]) marks) (closed : i ∉ opened)
    (found : Resolves decls policy i t) : Consistent decls policy opened (marks.put i (.resolved t)) where
  visiting_iff j := by
    rw [Marks.get_put]
    split
    · rename_i same
      subst same
      simp [closed]
    · rename_i different
      rw [h.visiting_iff j, List.mem_append, List.mem_singleton]
      simp [Ne.symm different]
  resolves j u marked := by
    rw [Marks.get_put] at marked
    split at marked
    · rename_i same
      cases marked
      exact same ▸ found
    · exact h.resolves j u marked

/-- The list is the beginning of the chain of ancestors of `start`. -/
def Trail (decls : List EntityTypeDecl) (start : Fin decls.length) (path : List (Fin decls.length)) : Prop :=
  ∀ k < path.length, ancestor? decls start k = path[k]?

theorem trail_singleton (start : Fin decls.length) : Trail decls start [start] := by
  intro k lt
  obtain rfl : k = 0 := by simpa using lt
  rfl

section Trail
variable {start : Fin decls.length} {opened : List (Fin decls.length)}

theorem Trail.reached (trail : Trail decls start (opened ++ [i])) :
    ancestor? decls start opened.length = some i := by
  rw [trail opened.length (by simp)]
  simp

theorem Trail.extend (trail : Trail decls start (opened ++ [i])) (step : base? decls i = some j) :
    Trail decls start (opened ++ [i] ++ [j]) := by
  intro k lt
  by_cases old : k < (opened ++ [i]).length
  · rw [trail k old, List.getElem?_append_left old]
  · obtain rfl : k = opened.length + 1 := by simp at lt old; omega
    rw [ancestor?, trail.reached, Option.bind_some, step]
    simp

theorem Trail.fault (trail : Trail decls start (opened ++ [i])) (distinct : opened.Nodup)
    (revisited : i ∈ opened) : Fault decls policy start (.inheritanceCycle (decls.get i).fullName) := by
  obtain ⟨k, lt, rfl⟩ := List.mem_iff_getElem.mp revisited
  have along : ∀ m (h : m < opened.length), ancestor? decls start m = some opened[m] := by
    intro m h
    rw [trail m (by simp; omega), List.getElem?_append_left h, List.getElem?_eq_getElem h]
  refine .cycle lt (along k lt) trail.reached ?_
  intro a b before within same
  rw [along a (by omega), along b within, Option.some.injEq, distinct.getElem_inj_iff] at same
  omega

end Trail

/-- A call comes back with the type that the chain of ancestors gives, or with the fault of the chain
of the outermost open call.  The depth does not run out, because the open calls are on declarations
that are all different. -/
theorem visit_spec {start : Fin decls.length} {opened : List (Fin decls.length)}
    {marks : Marks decls.length} {depth : Nat} (trail : Trail decls start (opened ++ [i]))
    (distinct : opened.Nodup) (consistent : Consistent decls policy opened marks)
    (enough : depth + opened.length = decls.length + 1) :
    match visit decls policy depth marks i with
    | .ok (t, marks) => Resolves decls policy i t ∧ Consistent decls policy opened marks
    | .error e => Fault decls policy start e := by
  induction depth generalizing opened marks i with
  | zero =>
    have few := distinct.length_le_card
    rw [Fintype.card_fin] at few
    omega
  | succ depth ih =>
    cases marked : marks.get i with
    | resolved t =>
      rw [visit_resolved marked]
      exact ⟨consistent.resolves i t marked, consistent⟩
    | visiting =>
      rw [visit_visiting marked]
      exact trail.fault distinct ((consistent.visiting_iff i).mp marked)
    | untouched =>
      have closed : i ∉ opened := fun member => by
        rw [(consistent.visiting_iff i).mpr member] at marked
        cases marked
      rcases ends_or_steps_or_dangles decls policy i with ends | ⟨j, step⟩ | ⟨rfl, reference, named, dangling⟩
      · rw [visit_end marked ends]
        exact ⟨.root ends, (consistent.opening i).closing closed (.root ends)⟩
      · have distinct' : (opened ++ [i]).Nodup := by
          rw [← List.concat_eq_append]
          exact distinct.concat closed
        have above := ih (trail.extend step) distinct' (consistent.opening i)
          (by rw [List.length_append, List.length_singleton]; omega)
        rw [visit_step marked step]
        cases call : visit decls policy depth (marks.put i .visiting) j with
        | error e => simpa [call] using above
        | ok result =>
          obtain ⟨base, after⟩ := result
          simp only [call] at above
          have found := Resolves.derived step above.1
          exact ⟨found, above.2.closing closed found⟩
      · rw [visit_dangling marked named dangling]
        exact .unresolved rfl trail.reached named dangling

/-! ### All declarations -/

theorem visitAll_spec {marks : Marks decls.length} (consistent : Consistent decls policy [] marks)
    (is : List (Fin decls.length)) :
    match visitAll decls policy is marks with
    | .ok ts => List.Forall₂ (Resolves decls policy) is ts
    | .error e => ∃ before i after, is = before ++ i :: after ∧
        (∀ j ∈ before, Grounded decls policy j) ∧ Fault decls policy i e := by
  induction is generalizing marks with
  | nil => exact .nil
  | cons i is ih =>
    have one := visit_spec (trail_singleton i) List.nodup_nil consistent rfl
    rw [visitAll]
    cases call : visit decls policy (decls.length + 1) marks i with
    | error e =>
      simp only [call] at one
      exact ⟨[], i, is, rfl, by simp, one⟩
    | ok result =>
      obtain ⟨t, after⟩ := result
      simp only [call] at one
      have rest := ih one.2
      simp only [bind, Except.bind]
      cases calls : visitAll decls policy is after with
      | ok ts =>
        simp only [calls] at rest
        exact .cons one.1 rest
      | error e =>
        simp only [calls] at rest
        obtain ⟨before, k, later, rfl, grounded, fault⟩ := rest
        refine ⟨i :: before, k, later, rfl, ?_, fault⟩
        rw [List.forall_mem_cons]
        exact ⟨one.1.grounded, grounded⟩

theorem resolve_spec (decls : List EntityTypeDecl) (policy : BaseTypePolicy) :
    match resolve decls policy with
    | .ok m => m.namespaces = (decls.map EntityTypeDecl.namespaceName).eraseDups ∧
        List.Forall₂ (Resolves decls policy) (List.finRange decls.length) m.entityTypes
    | .error e => ∃ i, (∀ j < i, Grounded decls policy j) ∧ Fault decls policy i e := by
  have start : Consistent decls policy [] (Vector.replicate _ .untouched) := consistent_untouched
  have all := visitAll_spec start (List.finRange _)
  rw [resolve]
  simp only [bind, Except.bind]
  cases calls : visitAll decls policy (List.finRange decls.length) (Vector.replicate _ .untouched) with
  | ok ts =>
    simp only [calls] at all
    exact ⟨rfl, all⟩
  | error e =>
    simp only [calls] at all
    obtain ⟨before, i, after, split, grounded, fault⟩ := all
    exact ⟨i, fun j lt => grounded j (mem_of_finRange_eq split lt), fault⟩

theorem resolves_getElem {ts : List EntityType}
    (h : List.Forall₂ (Resolves decls policy) (List.finRange decls.length) ts) :
    ∃ same : ts.length = decls.length, ∀ i : Fin decls.length, Resolves decls policy i ts[i] := by
  have same : ts.length = decls.length := by rw [← h.length_eq, List.length_finRange]
  refine ⟨same, fun i => ?_⟩
  have at_i := (List.forall₂_iff_get.mp h).2 i (by simp) (by omega)
  simpa using at_i

end AtomData.Metadata
