import AtomData.Proofs.Interleaving
import AtomData.Proofs.Service.Likeness

/-!
# Independent calls

Calls on different objects of a session do not disturb each other, though they share the metadata and the
replies.  `calls_commute` says so of two calls in either order, and of whole runs that differ in how the
calls on different objects are interleaved.
-/

namespace AtomData

open Interleaving (Apart Reorders Swaps)

inductive Slot where
  | query (name : String)
  | iteration (name : String)
  deriving DecidableEq

namespace Action

def slot? : Action → Option Slot
  | .openQuery name _ | .demand name _ | .received name | .take name => some (.query name)
  | .openPages name _ | .nextPage name => some (.iteration name)
  | _ => none

/-- The action is a call of a client: it neither changes the replies nor looks at the record. -/
def IsCall : Action → Prop
  | .setReply .. | .requests | .requestCount _ | .describe => False
  | _ => True

end Action

namespace Session

/-- The sessions keep the same in a slot. -/
def SameAt (s t : Session) : Slot → Prop
  | .query name => s.queries.get? name = t.queries.get? name
  | .iteration name => s.iterations.get? name = t.iterations.get? name

/-- The sessions are in the same state, but for the order of their requests. -/
structure Agrees (s t : Session) : Prop where
  alike : s.service.Alike t.service
  loaded : s.service.loaded = t.service.loaded
  requests : s.requests.Perm t.requests
  held : ∀ slot, s.SameAt t slot

variable {s t u : Session} {a b : Action} {slot : Slot}

theorem SameAt.refl (s : Session) (slot : Slot) : s.SameAt s slot := by
  cases slot <;> exact rfl

theorem SameAt.symm (h : s.SameAt t slot) : t.SameAt s slot := by
  cases slot <;> exact Eq.symm h

theorem SameAt.trans (h : s.SameAt t slot) (later : t.SameAt u slot) : s.SameAt u slot := by
  cases slot <;> exact Eq.trans h later

theorem Agrees.refl (s : Session) : s.Agrees s := ⟨.refl s.service, rfl, .refl _, SameAt.refl s⟩

theorem Agrees.trans (h : s.Agrees t) (later : t.Agrees u) : s.Agrees u where
  alike := h.alike.trans later.alike
  loaded := h.loaded.trans later.loaded
  requests := h.requests.trans later.requests
  held slot := (h.held slot).trans (later.held slot)

/-! ### One call -/

theorem fixed_of_isCall (call : a.IsCall) : ∀ url reply, a ≠ .setReply url reply := by
  rintro url reply rfl
  exact call

theorem alike_next (s : Session) (call : a.IsCall) : s.service.Alike (s.next a).service := by
  rw [service_next (fixed_of_isCall call)]
  exact (s.orderly_errands a).alike

section Access

variable {name : String} {q : Query}

theorem next_access_of_some (a : Access) (found : s.queries.get? name = some q) :
    s.next (a.action name) =
      { s with
        service := (q.execute s.service).2.2
        queries := a.keep name (q.execute s.service).2.1 s.queries } := by
  rw [next, Access.step_action, found]
  rfl

theorem next_access_of_none (a : Access) (missing : s.queries.get? name = none) :
    s.next (a.action name) = s := by
  rw [next, Access.step_action, missing]
  rfl

theorem get?_keep_of_ne (a : Access) (q : Query) (queries : Table Query) {other : String}
    (ne : other ≠ name) : (a.keep name q queries).get? other = queries.get? other := by
  cases a with
  | demand d => exact (Table.get?_set ..).trans (if_neg ne)
  | take => exact (Table.get?_erase ..).trans (if_neg ne)

theorem get?_keep_self (a : Access) (q : Query) (queries queries' : Table Query) :
    (a.keep name q queries).get? name = (a.keep name q queries').get? name := by
  cases a with
  | demand d => simp [Access.keep, Table.get?_set]
  | take => simp [Access.keep, Table.get?_erase]

theorem next_access_sameAt (s : Session) (a : Access) (apart : some (.query name) ≠ some slot) :
    (s.next (a.action name)).SameAt s slot := by
  cases found : s.queries.get? name with
  | none =>
    rw [next_access_of_none a found]
    exact SameAt.refl s slot
  | some q =>
    rw [next_access_of_some a found]
    cases slot with
    | iteration other => exact rfl
    | query other => exact get?_keep_of_ne a _ _ fun same => apart (by rw [same])

end Access

theorem next_received (s : Session) (name : String) : s.next (.received name) = s := by
  cases found : s.queries.get? name <;> simp only [next, step, found] <;> rfl

theorem next_sameAt (s : Session) (a : Action) (apart : a.slot? ≠ some slot) : (s.next a).SameAt s slot := by
  cases a with
  | setReply | requests | requestCount | describe | ask => exact SameAt.refl s slot
  | openQuery name plan =>
    cases slot with
    | iteration other => exact rfl
    | query other => exact (Table.get?_set ..).trans (if_neg fun same => apart (by rw [same]; rfl))
  | openPages name plan =>
    cases slot with
    | query other => exact rfl
    | iteration other => exact (Table.get?_set ..).trans (if_neg fun same => apart (by rw [same]; rfl))
  | nextPage name =>
    cases found : s.iterations.get? name with
    | none =>
      rw [next, step_nextPage_of_none found]
      exact SameAt.refl s slot
    | some p =>
      rw [next, step_nextPage found]
      cases slot with
      | query other => exact rfl
      | iteration other => exact (Table.get?_set ..).trans (if_neg fun same => apart (by rw [same]; rfl))
  | received name =>
    rw [next_received]
    exact SameAt.refl s slot
  | demand name d => exact next_access_sameAt s (.demand d) apart
  | take name => exact next_access_sameAt s .take apart

structure ActsAlike (s t : Session) (a : Action) : Prop where
  outcome : s.outcome? a = t.outcome? a
  kept : ∀ slot, a.slot? = some slot → (s.next a).SameAt (t.next a) slot
  errands : besideLoads (s.errands a) = besideLoads (t.errands a)
  needs : s.Needs a ↔ t.Needs a

theorem actsAlike_access (a : Access) {name : String} (alike : s.service.Alike t.service)
    (same : s.queries.get? name = t.queries.get? name) : s.ActsAlike t (a.action name) := by
  have slot : (a.action name).slot? = some (.query name) := by cases a <;> rfl
  have errands (s : Session) : s.errands (a.action name) = s.queryErrands name := by cases a <;> rfl
  have needs (s : Session) : s.Needs (a.action name) = ∃ q, s.queries.get? name = some q ∧ q.Asks := by
    cases a <;> rfl
  have kept : (s.next (a.action name)).SameAt (t.next (a.action name)) (.query name) ∧
      s.outcome? (a.action name) = t.outcome? (a.action name) ∧
      besideLoads (s.queryErrands name) = besideLoads (t.queryErrands name) := by
    cases found : s.queries.get? name with
    | none =>
      have missing := same.symm.trans found
      rw [next_access_of_none a found, next_access_of_none a missing, outcome?, outcome?,
        Access.step_action, Access.step_action, queryErrands, queryErrands, found, missing]
      exact ⟨same, rfl, rfl⟩
    | some q =>
      have found' := same.symm.trans found
      obtain ⟨outcome, query, errands⟩ := q.execute_congr alike
      rw [next_access_of_some a found, next_access_of_some a found', outcome?, outcome?,
        Access.step_action, Access.step_action, queryErrands, queryErrands, found, found']
      refine ⟨?_, ?_, errands⟩
      · rw [query]
        exact get?_keep_self a _ _ _
      · simp only [Option.map_some, Access.run, Query.ask, outcome, query]
  exact {
    outcome := kept.2.1
    kept := by
      rintro _ here
      obtain rfl := Option.some.inj (slot.symm.trans here)
      exact kept.1
    errands := by rw [errands, errands, kept.2.2]
    needs := by rw [needs, needs, same] }

theorem actsAlike_nextPage {name : String} (alike : s.service.Alike t.service)
    (same : s.iterations.get? name = t.iterations.get? name) : s.ActsAlike t (.nextPage name) := by
  have needs : s.Needs (.nextPage name) ↔ t.Needs (.nextPage name) := by simp only [Needs, same]
  cases found : s.iterations.get? name with
  | none =>
    have missing := same.symm.trans found
    refine ⟨?_, ?_, ?_, needs⟩
    · rw [outcome?, outcome?, step_nextPage_of_none found, step_nextPage_of_none missing]
    · rintro _ ⟨⟩
      rw [next, next, step_nextPage_of_none found, step_nextPage_of_none missing]
      exact same
    · simp only [errands, found, missing]
  | some p =>
    have found' := same.symm.trans found
    obtain ⟨outcome, pages, errands⟩ := p.next_congr alike
    refine ⟨?_, ?_, ?_, needs⟩
    · rw [outcome?, outcome?, step_nextPage found, step_nextPage found', Option.map_some, Option.map_some,
        outcome]
    · rintro _ ⟨⟩
      rw [next, next, step_nextPage found, step_nextPage found', pages]
      simp [SameAt, Table.get?_set]
    · simp only [Session.errands, found, found', errands]

theorem actsAlike (call : a.IsCall) (alike : s.service.Alike t.service)
    (same : ∀ slot, a.slot? = some slot → s.SameAt t slot) : s.ActsAlike t a := by
  cases a with
  | setReply | requests | requestCount | describe => exact call.elim
  | ask l =>
    exact {
      outcome := by rw [outcome?_ask, outcome?_ask, l.answer_congr alike]
      kept := fun slot none => by cases none
      errands := l.besideLoads_congr alike
      needs := l.needs_congr alike }
  | openQuery name plan =>
    refine ⟨rfl, ?_, rfl, Iff.rfl⟩
    rintro _ ⟨⟩
    simp [SameAt, next, step, Table.get?_set]
  | openPages name plan =>
    refine ⟨rfl, ?_, rfl, Iff.rfl⟩
    rintro _ ⟨⟩
    simp [SameAt, next, step, Table.get?_set]
  | nextPage name => exact actsAlike_nextPage alike (same _ rfl)
  | received name =>
    have same : s.queries.get? name = t.queries.get? name := same _ rfl
    refine ⟨?_, ?_, rfl, Iff.rfl⟩
    · simp only [outcome?, step, same]
      cases t.queries.get? name <;> rfl
    · rintro _ ⟨⟩
      rw [next_received, next_received]
      exact same
  | demand name d => exact actsAlike_access (.demand d) alike (same _ rfl)
  | take name => exact actsAlike_access .take alike (same _ rfl)

/-! ### Two calls -/

theorem loads_of_needs (needed : s.Needs a) : loads (s.errands a) = s.service.metadataErrands :=
  (s.orderly_errands a).loads_of_needs needed

theorem loads_of_idle (idle : ¬s.Needs a) : loads (s.errands a) = [] :=
  (s.orderly_errands a).loads_of_idle idle

theorem actsAlike_next (s : Session) (call : a.IsCall) (other : b.IsCall)
    (apart : Apart a.slot? b.slot?) : (s.next a).ActsAlike s b :=
  actsAlike other (s.alike_next call).symm fun slot there => s.next_sameAt a fun here => apart slot here there

theorem loaded_next_of_needs_alike (s : Session) (call : a.IsCall) (needed : (s.next a).Needs b) :
    ((s.next a).next b).service.loaded = s.service.metadataAnswer.result? := by
  rw [loaded_next_of_needs needed, (s.alike_next call).metadata]

/-- Two calls leave the same metadata in either order: those that one of them loaded, or that were there. -/
theorem loaded_next_next (s : Session) (call : a.IsCall) (other : b.IsCall)
    (apart : Apart a.slot? b.slot?) :
    ((s.next a).next b).service.loaded = ((s.next b).next a).service.loaded := by
  have needs_b := (s.actsAlike_next call other apart).needs
  have needs_a := (s.actsAlike_next other call apart.symm).needs
  by_cases first : s.Needs a <;> by_cases second : s.Needs b
  · rw [s.loaded_next_of_needs_alike call (needs_b.mpr second),
      s.loaded_next_of_needs_alike other (needs_a.mpr first)]
  · rw [(loaded_next_of_idle (mt needs_b.mp second)).1, loaded_next_of_needs first,
      s.loaded_next_of_needs_alike other (needs_a.mpr first)]
  · rw [(loaded_next_of_idle (mt needs_a.mp first)).1, loaded_next_of_needs second,
      s.loaded_next_of_needs_alike call (needs_b.mpr second)]
  · rw [(loaded_next_of_idle (mt needs_b.mp second)).1, (loaded_next_of_idle first).1,
      (loaded_next_of_idle (mt needs_a.mp first)).1, (loaded_next_of_idle second).1]

theorem loads_next_next (s : Session) (call : a.IsCall) (other : b.IsCall)
    (apart : Apart a.slot? b.slot?) :
    loads (s.errands a) ++ loads ((s.next a).errands b) =
      loads (s.errands b) ++ loads ((s.next b).errands a) := by
  have needs_b := (s.actsAlike_next call other apart).needs
  have needs_a := (s.actsAlike_next other call apart.symm).needs
  have alike := (s.alike_next call).symm.trans (s.alike_next other)
  by_cases first : s.Needs a <;> by_cases second : s.Needs b
  · have loaded : (s.next a).service.loaded = (s.next b).service.loaded := by
      rw [loaded_next_of_needs first, loaded_next_of_needs second]
    rw [loads_of_needs first, loads_of_needs second, loads_of_needs (needs_b.mpr second),
      loads_of_needs (needs_a.mpr first), alike.metadataErrands loaded]
  · have kept := (s.alike_next other).symm.metadataErrands (loaded_next_of_idle second).1
    rw [loads_of_needs first, loads_of_idle second, loads_of_idle (mt needs_b.mp second),
      loads_of_needs (needs_a.mpr first), kept, List.append_nil, List.nil_append]
  · have kept := (s.alike_next call).symm.metadataErrands (loaded_next_of_idle first).1
    rw [loads_of_idle first, loads_of_needs second, loads_of_needs (needs_b.mpr second),
      loads_of_idle (mt needs_a.mp first), kept, List.append_nil, List.nil_append]
  · rw [loads_of_idle first, loads_of_idle second, loads_of_idle (mt needs_b.mp second),
      loads_of_idle (mt needs_a.mp first)]

theorem errands_next_next (s : Session) (call : a.IsCall) (other : b.IsCall)
    (apart : Apart a.slot? b.slot?) :
    (s.errands a ++ (s.next a).errands b).Perm (s.errands b ++ (s.next b).errands a) := by
  apply perm_of_loads_eq
  · rw [loads_append, loads_append]
    exact s.loads_next_next call other apart
  · rw [besideLoads_append, besideLoads_append, (s.actsAlike_next call other apart).errands,
      (s.actsAlike_next other call apart.symm).errands]
    exact List.perm_append_comm

theorem next_next_sameAt (s : Session) (call : a.IsCall) (other : b.IsCall)
    (apart : Apart a.slot? b.slot?) (slot : Slot) :
    ((s.next a).next b).SameAt ((s.next b).next a) slot := by
  by_cases there : b.slot? = some slot
  · have elsewhere := (s.next b).next_sameAt a fun here => apart slot here there
    exact ((s.actsAlike_next call other apart).kept slot there).trans elsewhere.symm
  · refine ((s.next a).next_sameAt b there).trans ?_
    by_cases here : a.slot? = some slot
    · exact ((s.actsAlike_next other call apart.symm).kept slot here).symm
    · have unchanged := ((s.next b).next_sameAt a here).trans (s.next_sameAt b there)
      exact (s.next_sameAt a here).trans unchanged.symm

theorem agrees_next_next (s : Session) (call : a.IsCall) (other : b.IsCall)
    (apart : Apart a.slot? b.slot?) : ((s.next a).next b).Agrees ((s.next b).next a) where
  alike := by
    have first := (s.alike_next call).trans ((s.next a).alike_next other)
    exact first.symm.trans ((s.alike_next other).trans ((s.next b).alike_next call))
  loaded := s.loaded_next_next call other apart
  requests := by
    have first := ((s.ran_next a).trans ((s.next a).ran_next b)).requests
    have second := ((s.ran_next b).trans ((s.next b).ran_next a)).requests
    rw [requests, requests, first, second]
    exact ((s.errands_next_next call other apart).map _).append_left _
  held := s.next_next_sameAt call other apart

/-! ### Many calls -/

theorem Agrees.actsAlike (h : s.Agrees t) (call : a.IsCall) : s.ActsAlike t a :=
  Session.actsAlike call h.alike fun slot _ => h.held slot

theorem Agrees.next (h : s.Agrees t) (call : a.IsCall) : (s.next a).Agrees (t.next a) where
  alike := (s.alike_next call).symm.trans (h.alike.trans (t.alike_next call))
  loaded := by
    have needs := (h.actsAlike call).needs
    by_cases needed : s.Needs a
    · rw [loaded_next_of_needs needed, loaded_next_of_needs (needs.mp needed), h.alike.metadata]
    · rw [(loaded_next_of_idle needed).1, (loaded_next_of_idle (mt needs.mpr needed)).1, h.loaded]
  requests := by
    have acts := h.actsAlike call
    have loaded : loads (s.errands a) = loads (t.errands a) := by
      by_cases needed : s.Needs a
      · rw [loads_of_needs needed, loads_of_needs (acts.needs.mp needed), h.alike.metadataErrands h.loaded]
      · rw [loads_of_idle needed, loads_of_idle (mt acts.needs.mpr needed)]
    have errands : (s.errands a).Perm (t.errands a) :=
      perm_of_loads_eq loaded (by rw [acts.errands])
    have first := (s.ran_next a).requests
    have second := (t.ran_next a).requests
    rw [← h.alike.urlFor] at second
    rw [Session.requests, Session.requests, first, second]
    exact h.requests.append (errands.map _)
  held slot := by
    by_cases here : a.slot? = some slot
    · exact (h.actsAlike call).kept slot here
    · exact (s.next_sameAt a here).trans ((h.held slot).trans (t.next_sameAt a here).symm)

def trace (s : Session) : List Action → List (Action × Option (Outcome Answer))
  | [] => []
  | a :: later => (a, s.outcome? a) :: (s.next a).trace later

theorem Agrees.trace {run : List Action} (h : s.Agrees t) (calls : ∀ a ∈ run, a.IsCall) :
    s.trace run = t.trace run ∧ (s.after run).Agrees (t.after run) := by
  induction run generalizing s t with
  | nil => exact ⟨rfl, h⟩
  | cons a run ih =>
    rw [List.forall_mem_cons] at calls
    obtain ⟨rest, agrees⟩ := ih (h.next calls.1) calls.2
    refine ⟨?_, agrees⟩
    rw [Session.trace, Session.trace, (h.actsAlike calls.1).outcome, rest]

theorem trace_of_swaps {run run' : List Action} (swaps : Swaps Action.slot? run run')
    (calls : ∀ a ∈ run, a.IsCall) (s : Session) :
    Reorders (fun call => call.1.slot?) (s.trace run) (s.trace run') ∧
      (s.after run).Agrees (s.after run') := by
  induction swaps generalizing s with
  | refl run => exact ⟨.refl _, .refl _⟩
  | @swap a b apart run =>
    simp only [List.forall_mem_cons] at calls
    obtain ⟨call, other, calls⟩ := calls
    have agrees := s.agrees_next_next call other apart
    obtain ⟨rest, after⟩ := agrees.trace calls
    refine ⟨?_, after⟩
    rw [trace, trace, trace, trace, (s.actsAlike_next call other apart).outcome,
      (s.actsAlike_next other call apart.symm).outcome, rest]
    refine .swap ?_ _
    exact apart
  | cons a _ ih =>
    rw [List.forall_mem_cons] at calls
    obtain ⟨rest, after⟩ := ih calls.2 (s.next a)
    exact ⟨rest.cons _, after⟩
  | trans first _ ih ih' =>
    obtain ⟨reorders, agrees⟩ := ih calls s
    obtain ⟨later, agrees'⟩ := ih' (fun a mem => calls a (first.perm.mem_iff.mpr mem)) s
    exact ⟨reorders.trans later, agrees.trans agrees'⟩

/-- Two calls on different objects come to the same and leave the same behind in either order.  So in a
whole run no outcome hangs on how the calls on different objects are interleaved. -/
theorem calls_commute (s : Session) :
    (∀ a b : Action, a.IsCall → b.IsCall → Apart a.slot? b.slot? →
      (s.next b).outcome? a = s.outcome? a ∧ (s.next a).outcome? b = s.outcome? b ∧
        ((s.next a).next b).Agrees ((s.next b).next a)) ∧
    ∀ run run' : List Action, (∀ a ∈ run, a.IsCall) → Reorders Action.slot? run run' →
      Reorders (fun call => call.1.slot?) (s.trace run) (s.trace run') ∧
        (s.after run).Agrees (s.after run') := by
  constructor
  · intro a b call other apart
    exact ⟨(s.actsAlike_next other call apart.symm).outcome, (s.actsAlike_next call other apart).outcome,
      s.agrees_next_next call other apart⟩
  · intro run run' calls reorders
    exact trace_of_swaps (Interleaving.reorders_iff_swaps.mp reorders) calls s

section Kennel

private def sharedKennel : Session where
  service := {
    root := "http://kennel"
    policy := .strict
    coercions := .empty
    transport := {
      replies := .ofList [
        ("http://kennel/", .answer ⟨200, "<service><collection href='Dogs'/></service>"⟩),
        ("http://kennel/$metadata", .answer ⟨200, "<Schema Namespace='K'><EntityType Name='Dog'/></Schema>"⟩),
        ("http://kennel/Dogs", .answer ⟨200, "<feed><entry><category term='Dog'/></entry></feed>"⟩)]
      requests := [] } }
  queries := .ofList [("pack", (QueryPlan.ofHref "Dogs").query)]
  iterations := .ofList [("dogs", (QueryPlan.ofHref "Dogs").pages)]

private def dogsFirst : List Action := [.nextPage "dogs", .ask .collectionNames, .demand "pack" .count]

private def dogsLast : List Action := [.ask .collectionNames, .demand "pack" .count, .nextPage "dogs"]

/-- Whichever of the two feeds comes first loads the metadata, and all comes to the same. -/
theorem calls_commute_kennel :
    (∀ a ∈ dogsFirst, a.IsCall) ∧ Reorders Action.slot? dogsFirst dogsLast ∧
    (sharedKennel.after dogsFirst).requests =
      ["http://kennel/$metadata", "http://kennel/Dogs", "http://kennel/", "http://kennel/Dogs"] ∧
    (sharedKennel.after dogsLast).requests =
      ["http://kennel/", "http://kennel/$metadata", "http://kennel/Dogs", "http://kennel/Dogs"] ∧
    (sharedKennel.after dogsFirst).Agrees (sharedKennel.after dogsLast) := by
  have calls : ∀ a ∈ dogsFirst, a.IsCall := by simp [dogsFirst, Action.IsCall]
  have apart : ∀ a ∈ [Action.ask .collectionNames, .demand "pack" .count],
      Apart (Action.slot? (.nextPage "dogs")) a.slot? := by simp [Apart, Action.slot?]
  have reorders : Reorders Action.slot? dogsFirst dogsLast :=
    Interleaving.reorders_iff_swaps.mpr (Interleaving.swaps_behind _ apart [])
  exact ⟨calls, reorders, by decide +kernel, by decide +kernel,
    ((calls_commute sharedKennel).2 _ _ calls reorders).2⟩

end Kennel

end Session

end AtomData
