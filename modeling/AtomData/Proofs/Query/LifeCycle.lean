import AtomData.Proofs.Query.Execution
import AtomData.Session
import Mathlib.Logic.Relation

/-!
# The life of a query

A query is asked for things again and again, each time on the service as it then stands: its replies
may have changed, and an access may never come back.  `life_cycle` says what any access after any
others finds, answers, sends and leaves behind.
-/

namespace AtomData

open Feed (Receives)

inductive QueryState.Moves : QueryState → QueryState → Prop
  | start : Moves .built .executing
  | finish : Moves .executing .done
  | fail (message : String) : Moves .executing (.failed message)

/-- The ways to ask something of a query.  Taking its entities gives the query up; what is said of
later accesses holds all the same. -/
inductive Access where
  | demand (d : Demand)
  | take

namespace Outcome

variable {α β γ : Type} {f : α → β} {o : Outcome α}

theorem map_map (g : β → γ) (f : α → β) (o : Outcome α) : (o.map f).map g = o.map fun a => g (f a) := by
  cases o <;> rfl

theorem map_eq_ok_iff {b : β} : o.map f = .ok b ↔ ∃ a, o = .ok a ∧ f a = b := by
  cases o <;> simp [map]

theorem map_eq_error_iff {e : Error} : o.map f = .error e ↔ o = .error e := by
  cases o <;> simp [map]

theorem map_eq_pending_iff : o.map f = .pending ↔ o = .pending := by
  cases o <;> simp [map]

end Outcome

namespace Access

def view : Access → List Entity → Answer
  | demand d => d.view
  | take => .entities

def run (a : Access) (q : Query) (s : Service) : Outcome Answer × Query × Service := q.ask a.view s

def action (name : String) : Access → Action
  | demand d => .demand name d
  | take => .take name

def keep (name : String) (q : Query) : Access → Table Query → Table Query
  | demand _, queries => queries.set name q
  | take, queries => queries.erase name

theorem step_action (a : Access) (name : String) (s : Session) :
    s.step (a.action name) = (s.queries.get? name).map fun q =>
      ((a.run q s.service).1,
        { s with
          service := (a.run q s.service).2.2
          queries := a.keep name (a.run q s.service).2.1 s.queries }) := by
  cases found : s.queries.get? name with
  | none => cases a <;> simp only [action, Session.step, found] <;> rfl
  | some q =>
    cases a with
    | demand d =>
      simp only [action, Session.step, found]
      rfl
    | take =>
      simp only [action, Session.step, found, Query.all]
      show some (Outcome.map _ (Outcome.map _ _), _) = some (Outcome.map _ _, _)
      rw [Outcome.map_map]
      rfl

/-! ### One access -/

variable {q : Query}

theorem run_of_done (a : Access) (s : Service) (done : q.state = .done) :
    a.run q s = (.ok (a.view q.entities), q, s) := by
  simp only [run, Query.ask, Query.execute, done, Outcome.map]

theorem run_of_failed {message : String} (a : Access) (s : Service) (failed : q.state = .failed message) :
    a.run q s = (.error (.failedEarlier message), q, s) := by
  simp only [run, Query.ask, Query.execute, failed, Outcome.map]

theorem run_of_executing (a : Access) (s : Service) (abandoned : q.state = .executing) :
    a.run q s = (.error (.failedEarlier Query.interrupted),
      { q with state := .failed Query.interrupted }, s) := by
  simp only [run, Query.ask, Query.execute, abandoned, Outcome.map]

theorem run_of_built (a : Access) (path : String) (cap : Option Nat) (s : Service) :
    ∃ pages o s', Receives s.pageAnswer (some path) pages ∧ (∀ most ∈ cap, pages.length ≤ most) ∧
      a.run { path, maxPages := cap } s =
        (o.map fun () => a.view (pages.flatMap Page.entities),
          Query.holding { path, maxPages := cap } pages (Query.stateAfter o), s') := by
  rcases Query.execute_spec s path cap with
    ⟨pages, o, fetches, result⟩ | ⟨pages, s', received, within, -, result⟩
  · refine ⟨pages, o, s.afterFeed path (attempts pages.length o), fetches.receives,
      fun _ => fetches.length_le, ?_⟩
    rw [run, Query.ask, result]
    rfl
  · refine ⟨pages, .pending, s', received, within, ?_⟩
    rw [run, Query.ask, result]
    rfl

end Access

/-! ### Many accesses -/

namespace Query

def after (q : Query) : List (Access × Service) → Query
  | [] => q
  | (a, s) :: later => after (a.run q s).2.1 later

theorem after_of_done {q : Query} (done : q.state = .done) (later : List (Access × Service)) :
    q.after later = q := by
  induction later with
  | nil => rfl
  | cons access later ih => rw [after, Access.run_of_done _ _ done, ih]

theorem after_of_failed {q : Query} {message : String} (failed : q.state = .failed message)
    (later : List (Access × Service)) : q.after later = q := by
  induction later with
  | nil => rfl
  | cons access later ih => rw [after, Access.run_of_failed _ _ failed, ih]

def repeated : Outcome Unit → Outcome Unit
  | .ok () => .ok ()
  | .error e => .error (.failedEarlier e.message)
  | .pending => .error (.failedEarlier interrupted)

def lastState : Outcome Unit → QueryState
  | .pending => .failed interrupted
  | o => stateAfter o

def stateLater (o : Outcome Unit) : List (Access × Service) → QueryState
  | [] => stateAfter o
  | _ :: _ => lastState o

theorem run_stateLater (path : String) (cap : Option Nat) (pages : List Page) (o : Outcome Unit)
    (later : List (Access × Service)) (a : Access) (s : Service) :
    a.run (holding { path, maxPages := cap } pages (stateLater o later)) s =
      ((repeated o).map fun () => a.view (pages.flatMap Page.entities),
        holding { path, maxPages := cap } pages (lastState o), s) := by
  cases o with
  | ok => cases later <;> exact Access.run_of_done _ _ rfl
  | error e => cases later <;> exact Access.run_of_failed _ _ rfl
  | pending =>
    cases later with
    | nil => exact Access.run_of_executing _ _ rfl
    | cons access later => exact Access.run_of_failed _ _ rfl

theorem after_lastState (path : String) (cap : Option Nat) (pages : List Page) (o : Outcome Unit)
    (later : List (Access × Service)) :
    after (holding { path, maxPages := cap } pages (lastState o)) later =
      holding { path, maxPages := cap } pages (lastState o) := by
  cases o with
  | ok => exact after_of_done rfl later
  | error e => exact after_of_failed rfl later
  | pending => exact after_of_failed rfl later

theorem after_cons (path : String) (cap : Option Nat) (a : Access) (s : Service)
    (later : List (Access × Service)) :
    ∃ pages o, Receives s.pageAnswer (some path) pages ∧ (∀ most ∈ cap, pages.length ≤ most) ∧
      (a.run { path, maxPages := cap } s).1 = (o.map fun () => a.view (pages.flatMap Page.entities)) ∧
      after { path, maxPages := cap } ((a, s) :: later) =
        holding { path, maxPages := cap } pages (stateLater o later) := by
  obtain ⟨pages, o, s', received, within, result⟩ := a.run_of_built path cap s
  refine ⟨pages, o, received, within, by rw [result], ?_⟩
  rw [after, result]
  cases later with
  | nil => rfl
  | cons access later =>
    show after (access.1.run (holding _ pages (stateLater o [])) access.2).2.1 later = _
    rw [run_stateLater]
    exact after_lastState path cap pages o later

theorem moves_stateAfter (o : Outcome Unit) :
    Relation.ReflTransGen QueryState.Moves .built (stateAfter o) := by
  have started := Relation.ReflTransGen.single QueryState.Moves.start
  cases o with
  | ok => exact started.tail .finish
  | error e => exact started.tail (.fail e.message)
  | pending => exact started

theorem moves_stateLater (o : Outcome Unit) (later : List (Access × Service)) :
    Relation.ReflTransGen QueryState.Moves (stateLater o later) (lastState o) := by
  cases later with
  | cons => exact .refl
  | nil =>
    cases o with
    | ok => exact .refl
    | error => exact .refl
    | pending => exact .single (.fail interrupted)

theorem stateLater_ne_built (o : Outcome Unit) (later : List (Access × Service)) :
    stateLater o later ≠ .built := by
  cases later <;> cases o <;> exact QueryState.noConfusion

theorem eq_ok_of_stateLater {o : Outcome Unit} {later : List (Access × Service)}
    (done : stateLater o later = .done) : o = .ok () := by
  cases o with
  | ok => rfl
  | error => cases later <;> cases done
  | pending => cases later <;> cases done

theorem lastState_of_final {o : Outcome Unit} {later : List (Access × Service)}
    (final : stateLater o later = .done ∨ ∃ message, stateLater o later = .failed message) :
    lastState o = stateLater o later := by
  cases later with
  | cons => rfl
  | nil =>
    cases o with
    | ok => rfl
    | error => rfl
    | pending => rcases final with done | ⟨message, failed⟩ <;> contradiction

/-- What an access finds after some accesses to a new query, and what it then comes to: `q` and `q'`
are the query before and after it, `o` is what it brings back, and `s` and `s'` are the service before
and after it. -/
structure LifeCycle (path : String) (cap : Option Nat) (earlier : List (Access × Service)) (a : Access)
    (s : Service) (q : Query) (o : Outcome Answer) (q' : Query) (s' : Service) : Prop where
  moves : Relation.ReflTransGen QueryState.Moves q.state q'.state
  final : q.state = .done ∨ (∃ message, q.state = .failed message) → q' = q
  /-- Only the first access sends requests or receives anything. -/
  later : earlier ≠ [] → s' = s ∧ q' = { q with state := q'.state }
  built : q.state = .built ↔ earlier = []
  /-- The query holds the first pages of the feed that the first access found. -/
  pages : ∃ pages, (∀ first ∈ earlier.head?, Receives first.2.pageAnswer (some path) pages) ∧
    (q.state = .built → pages = []) ∧ (∀ most ∈ cap, pages.length ≤ most) ∧
    q = holding { path, maxPages := cap } pages q.state
  answers : q.state = .done → o = .ok (a.view q.entities)
  answered : ∀ answer, o = .ok answer → q'.state = .done ∧ answer = a.view q'.entities
  /-- Once the first access failed, every later one says how it did. -/
  refused : ∀ first t rest e, earlier = (first, t) :: rest →
    (first.run { path, maxPages := cap } t).1 = .error e → o = .error (.failedEarlier e.message)
  /-- The access after one that was abandoned fails, and so do all others. -/
  interrupted : ∀ first t rest, earlier = (first, t) :: rest →
    (first.run { path, maxPages := cap } t).1 = .pending →
      o = .error (.failedEarlier interrupted) ∧ q'.state = .failed interrupted

theorem lifeCycle_first (path : String) (cap : Option Nat) (a : Access) (s : Service) :
    LifeCycle path cap [] a s { path, maxPages := cap }
      (a.run { path, maxPages := cap } s).1 (a.run { path, maxPages := cap } s).2.1
      (a.run { path, maxPages := cap } s).2.2 := by
  obtain ⟨pages, o, s', received, within, result⟩ := a.run_of_built path cap s
  rw [result]
  exact {
    moves := moves_stateAfter o
    final := by rintro (done | ⟨message, failed⟩) <;> contradiction
    later := fun some => absurd rfl some
    built := ⟨fun _ => rfl, fun _ => rfl⟩
    pages := ⟨[], by simp, fun _ => rfl, by simp, rfl⟩
    answers := by intro done; contradiction
    answered := by
      intro answer back
      obtain ⟨⟨⟩, rfl, rfl⟩ := Outcome.map_eq_ok_iff.mp back
      exact ⟨rfl, rfl⟩
    refused := by intro first t rest e split; cases split
    interrupted := by intro first t rest split; cases split }

theorem lifeCycle_later (path : String) (cap : Option Nat) (first : Access) (t : Service)
    (rest : List (Access × Service)) (a : Access) (s : Service) {q : Query}
    (found : after { path, maxPages := cap } ((first, t) :: rest) = q) :
    LifeCycle path cap ((first, t) :: rest) a s q (a.run q s).1 (a.run q s).2.1 (a.run q s).2.2 := by
  obtain ⟨pages, o, received, within, outcome, kept⟩ := after_cons path cap first t rest
  obtain rfl := found.symm.trans kept
  have started := stateLater_ne_built o rest
  rw [run_stateLater]
  exact {
    moves := moves_stateLater o rest
    final := fun final => by rw [lastState_of_final final]
    later := fun _ => ⟨rfl, rfl⟩
    built := ⟨fun built => absurd built started, by intro none; cases none⟩
    pages := ⟨pages, by rintro _ ⟨⟩; exact received, fun built => absurd built started, within, rfl⟩
    answers := by
      intro done
      rw [eq_ok_of_stateLater done]
      rfl
    answered := by
      intro answer back
      obtain ⟨⟨⟩, ended, rfl⟩ := Outcome.map_eq_ok_iff.mp back
      cases o with
      | ok => exact ⟨rfl, rfl⟩
      | error => cases ended
      | pending => cases ended
    refused := by
      rintro _ _ _ e ⟨⟩ failed
      rw [outcome, Outcome.map_eq_error_iff] at failed
      rw [failed]
      rfl
    interrupted := by
      rintro _ _ _ ⟨⟩ abandoned
      rw [outcome, Outcome.map_eq_pending_iff] at abandoned
      rw [abandoned]
      exact ⟨rfl, rfl⟩ }

/-- Every access to a query, after any others, on services that may have changed in between and
whether or not these came back, keeps to the life cycle. -/
theorem life_cycle (path : String) (cap : Option Nat) (earlier : List (Access × Service)) (a : Access)
    (s : Service) :
    LifeCycle path cap earlier a s (after { path, maxPages := cap } earlier)
      (a.run (after { path, maxPages := cap } earlier) s).1
      (a.run (after { path, maxPages := cap } earlier) s).2.1
      (a.run (after { path, maxPages := cap } earlier) s).2.2 := by
  cases earlier with
  | nil => exact lifeCycle_first path cap a s
  | cons access rest => exact lifeCycle_later path cap access.1 access.2 rest a s rfl

end Query
end AtomData
