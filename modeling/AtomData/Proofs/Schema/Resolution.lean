import AtomData.Proofs.Schema.Soundness
import AtomData.Proofs.Schema.Visit

/-!
# What the steps of a resolution come to

The steps have no bound on their depth, and yet they end: from a call they lead to where `visit` comes
back, since the open calls are on different declarations.  `resolution_sound` puts this together with what
every run keeps.
-/

namespace AtomData.Metadata

open Resolution (step run start advance)

section Outcome
variable {decls : List EntityTypeDecl} {policy : BaseTypePolicy} {s s' : Resolution}

def Reaches (decls : List EntityTypeDecl) (policy : BaseTypePolicy) (s s' : Resolution) : Prop :=
  ∃ k, run decls policy k s = some s'

theorem reaches_step (next : step decls policy s = some s') : Reaches decls policy s s' := by
  refine ⟨1, ?_⟩
  rw [run, next]
  rfl

theorem Reaches.trans {s'' : Resolution} (h : Reaches decls policy s s') (h' : Reaches decls policy s' s'') :
    Reaches decls policy s s'' := by
  obtain ⟨k, ran⟩ := h
  obtain ⟨l, ran'⟩ := h'
  refine ⟨k + l, ?_⟩
  induction k generalizing s with
  | zero =>
    obtain rfl := Option.some.inj ran
    rw [Nat.zero_add]
    exact ran'
  | succ k ih =>
    obtain ⟨next, stepped, rest⟩ := Option.bind_eq_some_iff.mp ran
    rw [Nat.succ_add, run, stepped, Option.bind_some]
    exact ih rest

theorem Sound.of_reaches (h : Sound decls policy s) (reaches : Reaches decls policy s s') :
    Sound decls policy s' := by
  obtain ⟨k, ran⟩ := reaches
  obtain ⟨last, ran', sound⟩ := h.exists_run k
  obtain rfl := Option.some.inj (ran'.symm.trans ran)
  exact sound

/-! ### Two lists for one row of marks -/

def Mark.type? : Mark → Option EntityType
  | .resolved t => some t
  | _ => none

def Mark.isVisiting : Mark → Bool
  | .visiting => true
  | _ => false

section Marks
variable {n : Nat} {marks : Marks n} {i : Fin n}

/-- The two lists of a resolution say what a row of marks does. -/
def Shows (marks : Marks n) (s : Resolution) : Prop :=
  s.resolved = marks.toList.map Mark.type? ∧ s.visiting = marks.toList.map Mark.isVisiting

theorem Shows.reads (h : Shows marks s) (i : Fin n) :
    s.resolved[i.val]? = some (marks.get i).type? ∧ s.visiting[i.val]? = some (marks.get i).isVisiting := by
  obtain ⟨types, visiting⟩ := h
  have read : marks.toList[i.val]? = some (marks.get i) := by
    rw [Vector.getElem?_toList]
    exact Vector.getElem?_eq_getElem i.isLt
  rw [types, visiting, List.getElem?_map, List.getElem?_map, read]
  exact ⟨rfl, rfl⟩

theorem Shows.entered (h : Shows marks s) (untouched : marks.get i = .untouched) :
    Shows (marks.put i .visiting) (s.entered i) := by
  obtain ⟨entry, -⟩ := h.reads i
  obtain ⟨types, visiting⟩ := h
  constructor
  · show s.resolved = _
    rw [untouched] at entry
    obtain ⟨inside, empty⟩ := List.getElem?_eq_some_iff.mp entry
    have unchanged : s.resolved[i.val] = Mark.visiting.type? := empty
    rw [Marks.put, Vector.toList_set, List.map_set, ← types, ← unchanged, List.set_getElem_self]
  · show s.visiting.set i true = _
    rw [Marks.put, Vector.toList_set, List.map_set, ← visiting]
    rfl

theorem Shows.left (h : Shows marks s) (opened : List Nat) (t : EntityType) :
    Shows (marks.put i (.resolved t)) (s.left i opened t) := by
  obtain ⟨types, visiting⟩ := h
  constructor
  · show s.resolved.set i (some t) = _
    rw [Marks.put, Vector.toList_set, List.map_set, ← types]
    rfl
  · show s.visiting.set i false = _
    rw [Marks.put, Vector.toList_set, List.map_set, ← visiting]
    rfl

end Marks

variable {marks : Marks decls.length} {i : Fin decls.length}

theorem baseIndex?_val (i : Fin decls.length) : baseIndex? decls i = (base? decls i).map (·.val) := by
  rw [baseIndex?_eq (List.getElem?_eq_getElem i.isLt), base?, Option.map_bind]
  congr
  funext reference
  exact List.findIdx?_eq_map_findFinIdx?_val

/-! ### Calls -/

structure Returns (s s' : Resolution) (t : EntityType) (marks : Marks decls.length) : Prop where
  turn : s'.turn = .returned t
  opened : s'.opened = s.opened
  types : s'.types = s.types
  shows : Shows marks s'

theorem visit_reaches {depth : Nat} (sound : Sound decls policy s) (turn : s.turn = .call i)
    (same : Shows marks s) (enough : depth + s.opened.length = decls.length + 1) :
    match visit decls policy depth marks i with
    | .ok (t, marks) => ∃ s', Reaches decls policy s s' ∧ Returns s s' t marks
    | .error e => ∃ s', Reaches decls policy s s' ∧ s'.turn = .failed e := by
  -- On the depth that `visit` has left: with none left there would be more open calls than declarations.
  induction depth generalizing s marks i with
  | zero =>
    have few := sound.opened_length_le
    omega
  | succ depth ih =>
    obtain ⟨entry, mark⟩ := same.reads i
    have declared : decls[i.val]? = some (decls.get i) := List.getElem?_eq_getElem i.isLt
    cases marked : marks.get i with
    | resolved t =>
      rw [marked] at entry
      rw [visit_resolved marked]
      exact ⟨_, reaches_step (step_resolved turn entry), rfl, rfl, rfl, same⟩
    | visiting =>
      rw [marked] at entry mark
      rw [visit_visiting marked]
      exact ⟨_, reaches_step (step_visiting turn entry mark declared), rfl⟩
    | untouched =>
      rw [marked] at entry mark
      have entered := same.entered marked
      have base := baseIndex?_val i
      rcases ends_or_steps_or_dangles decls policy i with ends | ⟨j, up⟩ | ⟨rfl, reference, named, dangling⟩
      · rw [visit_end marked ends]
        rw [ends.base?_eq_none] at base
        have closes := step_root sound.toMarked turn entry mark declared base (ends.imp_right And.left)
        exact ⟨_, reaches_step closes, rfl, rfl, rfl, entered.left _ _⟩
      · rw [up] at base
        have calls : step decls policy s = some { s.entered i with turn := .call j } :=
          step_above turn entry mark declared base
        have above := ih (sound.of_step calls) rfl entered (by
          show depth + (s.opened.length + 1) = decls.length + 1
          omega)
        rw [visit_step marked up]
        cases call : visit decls policy depth (marks.put i .visiting) j with
        | error e =>
          simp only [call] at above
          obtain ⟨last, reaches, failed⟩ := above
          exact ⟨last, (reaches_step calls).trans reaches, failed⟩
        | ok result =>
          obtain ⟨t, after⟩ := result
          simp only [call] at above
          obtain ⟨back, reaches, returns⟩ := above
          have reached := (reaches_step calls).trans reaches
          have closes := step_derived (sound.of_reaches reached).toMarked returns.turn returns.opened declared
          exact ⟨_, reached.trans (reaches_step closes), rfl, rfl, returns.types, returns.shows.left _ _⟩
      · rw [visit_dangling marked named dangling]
        rw [dangling] at base
        exact ⟨_, reaches_step (step_dangling turn entry mark declared named base), rfl⟩

theorem visitAll_reaches (is : List (Fin decls.length)) (sound : Sound decls policy (advance decls s))
    (closed : s.opened = []) (same : Shows marks s)
    (ahead : is.map (·.val) = List.range' s.types.length is.length)
    (all : s.types.length + is.length = decls.length) :
    match visitAll decls policy is marks with
    | .ok ts => ∃ s', Reaches decls policy (advance decls s) s' ∧ s'.turn = .done ∧ s'.types = s.types ++ ts
    | .error e => ∃ s', Reaches decls policy (advance decls s) s' ∧ s'.turn = .failed e := by
  induction is generalizing s marks with
  | nil =>
    have last : ¬s.types.length < decls.length := by
      rw [← all]
      exact Nat.lt_irrefl _
    refine ⟨advance decls s, ⟨0, rfl⟩, if_neg last, ?_⟩
    exact (List.append_nil _).symm
  | cons i is ih =>
    rw [List.length_cons, List.range'_succ, List.map_cons, List.cons.injEq] at ahead
    obtain ⟨at_i, behind⟩ := ahead
    have turn : (advance decls s).turn = .call i := by
      rw [at_i]
      exact if_pos (at_i ▸ i.isLt)
    have one := visit_reaches sound turn same (by
      show decls.length + 1 + s.opened.length = decls.length + 1
      rw [closed]
      rfl)
    rw [visitAll]
    cases call : visit decls policy (decls.length + 1) marks i with
    | error e =>
      simp only [call] at one
      exact one
    | ok result =>
      obtain ⟨t, after⟩ := result
      simp only [call] at one
      obtain ⟨back, reaches, returns⟩ := one
      have next : step decls policy back = _ := step_next returns.turn (returns.opened.trans closed)
      have reached := reaches.trans (reaches_step next)
      have types : (back.types ++ [t]).length = s.types.length + 1 := by
        rw [List.length_append, returns.types]
        rfl
      have rest := ih (sound.of_reaches reached) (returns.opened.trans closed) returns.shows
        (by rw [types]; exact behind) (by rw [types]; rw [List.length_cons] at all; omega)
      simp only [bind, Except.bind]
      cases calls : visitAll decls policy is after with
      | error e =>
        simp only [calls] at rest
        obtain ⟨last, reaches', failed⟩ := rest
        exact ⟨last, reached.trans reaches', failed⟩
      | ok ts =>
        simp only [calls] at rest
        obtain ⟨last, reaches', done, listed⟩ := rest
        refine ⟨last, reached.trans reaches', done, ?_⟩
        rw [listed, returns.types, List.append_assoc]
        rfl

/-- The steps from the start come to an end, with what `resolve` gives. -/
theorem reaches_outcome (decls : List EntityTypeDecl) (policy : BaseTypePolicy) :
    ∃ s, Reaches decls policy (start decls) s ∧ s.outcome? decls = some (resolve decls policy) := by
  have untouched : Shows (Vector.replicate decls.length Mark.untouched) (start decls) := by
    constructor <;> simp [start, advance, Mark.type?, Mark.isVisiting]
  have all := visitAll_reaches (List.finRange decls.length) (start_sound decls policy) rfl untouched
    (by simp [List.range_eq_range']) (by simp)
  rw [resolve]
  simp only [bind, Except.bind]
  cases calls : visitAll decls policy (List.finRange decls.length) (Vector.replicate _ .untouched) with
  | error e =>
    simp only [calls] at all
    obtain ⟨last, reaches, failed⟩ := all
    exact ⟨last, reaches, by rw [Resolution.outcome?, failed]⟩
  | ok ts =>
    simp only [calls] at all
    obtain ⟨last, reaches, done, listed⟩ := all
    refine ⟨last, reaches, ?_⟩
    rw [Resolution.outcome?, done, listed]
    rfl

end Outcome

/-- After any number of steps no place was missed and the marks are sound: those that say `visiting` are
of the open calls, and every resolved entry was built, just once, from its declaration and the resolved
entry of its base.  The calls are never more than one above the number of declarations, and a resolution
that is done has left no mark.  The steps do come to an end, with what `resolve` gives. -/
theorem resolution_sound (decls : List EntityTypeDecl) (policy : BaseTypePolicy) :
    (∀ k, ∃ s, run decls policy k (start decls) = some s ∧ Sound decls policy s ∧
      s.depth ≤ decls.length + 1 ∧
      (s.turn = .done → s.visiting = List.replicate decls.length false ∧ s.resolved = s.types.map some ∧
        s.types.length = decls.length)) ∧
    ∃ k s, run decls policy k (start decls) = some s ∧ s.outcome? decls = some (resolve decls policy) := by
  constructor
  · intro k
    obtain ⟨s, ran, sound⟩ := (start_sound decls policy).exists_run k
    exact ⟨s, ran, sound, sound.depth_le, sound.of_done⟩
  · obtain ⟨s, ⟨k, ran⟩, ends⟩ := reaches_outcome decls policy
    exact ⟨k, s, ran, ends⟩

/-- A dog and a wolf are each other's base: the third call meets the mark of the first. -/
example :
    let decls : List EntityTypeDecl := [⟨"Kennel", "Dog", some "Wolf", []⟩, ⟨"Kennel", "Wolf", some "Dog", []⟩]
    (run decls .lenient 3 (start decls)).map (fun s => (s.opened, s.turn)) =
      some ([1, 0], .failed (.inheritanceCycle "Kennel.Dog")) := by
  decide +kernel

end AtomData.Metadata
