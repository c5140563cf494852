import AtomData.Proofs.Schema.Steps

/-!
# Every step of a resolution

A resolution that is sound has a next step, and is sound after it (`Sound.exists_step`).  Therefore so it
is after any number of steps (`Sound.exists_run`): no place is read that does not exist, the open calls
never outnumber the declarations, and in the end every declaration has its type.
-/

namespace AtomData.Metadata

open Resolution (step run start advance)

variable {decls : List EntityTypeDecl} {policy : BaseTypePolicy} {s s' : Resolution} {i : Nat}

/-! ### Every step -/

theorem Marked.turning (h : Marked decls policy s) (turn : Turn) :
    Marked decls policy { s with turn := turn } := { h with }

theorem Sound.of_failed {e : SchemaError} (h : Marked decls policy s)
    (calls : Calls decls s.types.length s.opened) : Sound decls policy { s with turn := .failed e } :=
  ⟨h.turning _, calls⟩

theorem Sound.step_call (h : Sound decls policy s) (turn : s.turn = .call i) :
    ∃ s', step decls policy s = some s' ∧ Sound decls policy s' := by
  obtain ⟨marked, stands⟩ := h
  simp only [Stands, turn] at stands
  obtain ⟨lt, calls⟩ := stands
  obtain ⟨d, entry, visited, declared, entryRead, visitedRead⟩ := marked.reads lt
  cases entry with
  | some t =>
    refine ⟨_, step_resolved turn entryRead, marked.turning _, ?_⟩
    exact ⟨i, calls, entryRead⟩
  | none =>
    cases visited with
    | true => exact ⟨_, step_visiting turn entryRead visitedRead declared, .of_failed marked calls.tail⟩
    | false =>
      have entered := marked.entered entryRead visitedRead
      cases base : baseIndex? decls i with
      | some j =>
        refine ⟨_, step_above turn entryRead visitedRead declared base, entered.turning _, ?_⟩
        exact ⟨lt_of_baseIndex? base, calls.above base⟩
      | none =>
        by_cases accepted : d.baseTypeName = none ∨ policy = .lenient
        · refine ⟨_, step_root marked turn entryRead visitedRead declared base accepted,
            entered.left rfl (.root declared base accepted), ?_⟩
          refine ⟨i, calls, ?_⟩
          exact List.getElem?_set_self (marked.inside_resolved lt)
        · rw [not_or] at accepted
          obtain ⟨reference, named⟩ := Option.ne_none_iff_exists'.mp accepted.1
          cases policy with
          | lenient => exact absurd rfl accepted.2
          | strict =>
            refine ⟨_, step_dangling turn entryRead visitedRead declared named base, ?_⟩
            exact .of_failed entered calls

theorem Marked.types_length_le (h : Marked decls policy s) : s.types.length ≤ decls.length := by
  by_contra more
  have lt : decls.length < s.types.length := Nat.lt_of_not_le more
  have resolved := h.types _ _ (List.getElem?_eq_getElem lt)
  obtain ⟨inside, -⟩ := List.getElem?_eq_some_iff.mp resolved
  rw [h.resolved_length] at inside
  exact Nat.lt_irrefl _ inside

theorem Sound.of_advance (h : Marked decls policy s) (closed : s.opened = []) :
    Sound decls policy (advance decls s) := by
  refine ⟨h.turning _, ?_⟩
  have few := h.types_length_le
  unfold advance Stands
  by_cases more : s.types.length < decls.length
  · rw [if_pos more]
    refine ⟨more, ?_⟩
    show Calls decls s.types.length (s.types.length :: s.opened)
    rw [closed]
    exact .outermost
  · rw [if_neg more]
    exact ⟨closed, Nat.le_antisymm few (Nat.le_of_not_lt more)⟩

theorem Sound.step_returned {t : EntityType} (h : Sound decls policy s) (turn : s.turn = .returned t) :
    ∃ s', step decls policy s = some s' ∧ Sound decls policy s' := by
  obtain ⟨marked, stands⟩ := h
  simp only [Stands, turn] at stands
  obtain ⟨j, calls, resolved⟩ := stands
  cases opened : s.opened with
  | nil =>
    rw [opened] at calls
    cases calls with
    | outermost =>
      refine ⟨_, step_next turn opened, Sound.of_advance ?_ opened⟩
      refine { marked with types := ?_ }
      intro k u listed
      rw [List.getElem?_append] at listed
      split at listed
      · exact marked.types k u listed
      · obtain ⟨rfl, rfl⟩ : k = s.types.length ∧ u = t := by
          rw [List.getElem?_singleton] at listed
          split at listed
          · exact ⟨by omega, (Option.some.inj listed).symm⟩
          · cases listed
        exact resolved
  | cons i rest =>
    rw [opened] at calls
    cases calls with
    | above below base =>
      have lt := marked.lt_of_mem (opened ▸ List.mem_cons_self : i ∈ s.opened)
      obtain ⟨d, -, -, declared, -, -⟩ := marked.reads lt
      refine ⟨_, step_derived marked turn opened declared,
        marked.left opened (.derived declared base resolved), ?_⟩
      refine ⟨i, below, ?_⟩
      exact List.getElem?_set_self (marked.inside_resolved lt)

theorem Sound.exists_step (h : Sound decls policy s) :
    ∃ s', step decls policy s = some s' ∧ Sound decls policy s' := by
  cases turn : s.turn with
  | call i => exact h.step_call turn
  | returned t => exact h.step_returned turn
  | failed e => exact ⟨s, by rw [step, turn]; rfl, h⟩
  | done => exact ⟨s, by rw [step, turn]; rfl, h⟩

theorem start_sound (decls : List EntityTypeDecl) (policy : BaseTypePolicy) :
    Sound decls policy (start decls) := by
  refine Sound.of_advance ?_ rfl
  exact {
    resolved_length := List.length_replicate
    visiting_length := List.length_replicate
    visiting_iff := by simp [List.getElem?_replicate]
    distinct := List.nodup_nil
    exclusive := by simp [List.getElem?_replicate]
    entries := by simp [List.getElem?_replicate]
    built_iff := by simp [List.getElem?_replicate]
    once := List.nodup_nil
    types := by simp }

theorem Sound.of_step (h : Sound decls policy s) (next : step decls policy s = some s') :
    Sound decls policy s' := by
  obtain ⟨after, stepped, sound⟩ := h.exists_step
  obtain rfl := Option.some.inj (stepped.symm.trans next)
  exact sound

/-! ### Every run -/

theorem Sound.exists_run (h : Sound decls policy s) (k : Nat) :
    ∃ s', run decls policy k s = some s' ∧ Sound decls policy s' := by
  induction k generalizing s with
  | zero => exact ⟨s, rfl, h⟩
  | succ k ih =>
    obtain ⟨next, stepped, sound⟩ := h.exists_step
    obtain ⟨last, ran, sound'⟩ := ih sound
    refine ⟨last, ?_, sound'⟩
    rw [run, stepped, Option.bind_some, ran]

theorem Sound.depth_le (h : Sound decls policy s) : s.depth ≤ decls.length + 1 := by
  have few := h.opened_length_le
  unfold Resolution.depth
  split <;> omega

theorem Sound.of_done (h : Sound decls policy s) (turn : s.turn = .done) :
    s.visiting = List.replicate decls.length false ∧ s.resolved = s.types.map some ∧
    s.types.length = decls.length := by
  have stands := h.stands
  simp only [Stands, turn] at stands
  obtain ⟨closed, all⟩ := stands
  refine ⟨?_, ?_, all⟩
  · rw [List.eq_replicate_iff]
    refine ⟨h.visiting_length, ?_⟩
    intro mark member
    obtain ⟨i, lt, rfl⟩ := List.mem_iff_getElem.mp member
    by_contra visiting
    rw [Bool.not_eq_false] at visiting
    have opened := (h.visiting_iff i).mp (by rw [List.getElem?_eq_getElem lt, visiting])
    rw [closed] at opened
    cases opened
  · apply List.ext_getElem (by rw [List.length_map, all, h.resolved_length])
    intro i inside listed
    rw [List.length_map] at listed
    have resolved := h.types i _ (List.getElem?_eq_getElem listed)
    rw [List.getElem_map]
    exact Option.some.inj ((List.getElem?_eq_getElem inside).symm.trans resolved)

end AtomData.Metadata
