import AtomData.Proofs.Session.History
import AtomData.Proofs.Url

/-!
# Where requests go

Every path that a session requests was asked for by its caller, or it is the next link of a page that came
before.  `traced_history` follows the paths through a run, and `requests_below_root` concludes that no
text of a filter, an option or a key takes a request away from the root of the service.
-/

namespace AtomData

namespace Action

def plan? : Action → Option QueryPlan
  | .openQuery _ plan | .openPages _ plan | .ask (.entities plan) => some plan
  | .ask (.firstEntity plan) => some plan.limited
  | _ => none

def hrefs : Action → List String
  | .openQuery _ plan | .openPages _ plan | .ask (.entities plan) | .ask (.firstEntity plan) => [plan.href]
  | .ask (.entity href _) => [href]
  | _ => []

theorem href_mem_of_plan? {a : Action} {plan : QueryPlan} (started : a.plan? = some plan) :
    plan.href ∈ a.hrefs := by
  unfold plan? at started
  split at started
  · cases started
    exact List.mem_cons_self
  · cases started
    exact List.mem_cons_self
  · cases started
    exact List.mem_cons_self
  · rename_i plan'
    cases started
    have same : plan'.limited.href = plan'.href := by
      unfold QueryPlan.limited
      split <;> rfl
    exact same ▸ List.mem_cons_self
  · cases started

end Action

def Errand.hrefs : Errand → List String
  | collections (.ok cs) => cs.map CollectionInfo.href
  | _ => []

namespace Session

/-- The path is one that the actions of a run ask for, given what has been fetched before. -/
inductive Asked (run : List Action) (fetched : List Errand) : String → Prop
  | collections : Asked run fetched "/"
  | metadata : Asked run fetched Service.metadataPath
  | query {a : Action} {plan : QueryPlan} (taken : a ∈ run) (started : a.plan? = some plan) :
      Asked run fetched plan.path
  | entity {href path : String} {key : EntityKey} (taken : .ask (.entity href key) ∈ run)
      (written : key.path? href = .ok path) : Asked run fetched path
  | entityOf {name path : String} {key : EntityKey} {cs : List CollectionInfo} {c : CollectionInfo}
      (taken : .ask (.entityOf name key) ∈ run) (read : .collections (.ok cs) ∈ fetched)
      (offered : cs.find? (fun c => c.name = name) = some c) (written : key.path? c.href = .ok path) :
      Asked run fetched path

/-- The path is the next link of a page that has been fetched. -/
def Linked (fetched : List Errand) (path : String) : Prop :=
  ∃ before page, .page before (.ok page) ∈ fetched ∧ page.nextLink = some path

def Origin (run : List Action) (fetched : List Errand) (path : String) : Prop :=
  Asked run fetched path ∨ Linked fetched path

variable {run : List Action} {fetched more es later : List Errand} {path : String}

theorem Asked.mono (h : Asked run fetched path) (sub : fetched ⊆ more) : Asked run more path := by
  cases h with
  | collections => exact .collections
  | metadata => exact .metadata
  | query taken started => exact .query taken started
  | entity taken written => exact .entity taken written
  | entityOf taken read offered written => exact .entityOf taken (sub read) offered written

theorem Origin.mono (h : Origin run fetched path) (sub : fetched ⊆ more) : Origin run more path :=
  h.imp (·.mono sub) fun ⟨before, page, mem, link⟩ => ⟨before, page, sub mem, link⟩

theorem Origin.append (h : Origin run fetched path) (more : List Errand) :
    Origin run (fetched ++ more) path := h.mono (List.subset_append_left _ _)

/-! ### Errands with origins -/

inductive Traced (run : List Action) : (fetched es : List Errand) → Prop
  | nil {fetched : List Errand} : Traced run fetched []
  | cons {fetched es : List Errand} {e : Errand} (first : Origin run fetched e.path)
      (rest : Traced run (fetched ++ [e]) es) : Traced run fetched (e :: es)

theorem Traced.append (h : Traced run fetched es) (rest : Traced run (fetched ++ es) later) :
    Traced run fetched (es ++ later) := by
  induction h with
  | nil => simpa using rest
  | cons first _ ih => exact .cons first (ih (by simpa using rest))

theorem Traced.origin {before : List Errand} {e : Errand} (h : Traced run fetched es)
    (split : es = before ++ e :: later) : Origin run (fetched ++ before) e.path := by
  induction h generalizing before with
  | nil => simp at split
  | cons first _ ih =>
    cases before with
    | nil =>
      cases split
      simpa using first
    | cons d before =>
      cases split
      simpa using ih rfl

theorem traced_singleton {e : Errand} (first : Origin run fetched e.path) : Traced run fetched [e] :=
  .cons first .nil

theorem traced_metadataErrands (s : Service) : Traced run fetched s.metadataErrands := by
  unfold Service.metadataErrands
  split
  · exact .nil
  · exact traced_singleton (.inl .metadata)

theorem traced_withMetadata {s : Service} {e : Errand} (origin : Origin run fetched e.path) :
    Traced run fetched (s.withMetadata e) := by
  refine (traced_metadataErrands s).append ?_
  split
  · exact traced_singleton (origin.append _)
  · exact .nil

theorem traced_getErrands {s : Service} {href : String} {key : EntityKey}
    (asked : ∀ path, key.path? href = .ok path → Asked run fetched path) :
    Traced run fetched (s.getErrands href key) := by
  unfold Service.getErrands
  cases written : key.path? href with
  | error e => exact .nil
  | ok path => exact traced_withMetadata (.inl (asked path written))

/-! ### Pages -/

theorem traced_pageErrands {p : FeedPages} (origin : ∀ path, p.nextPath = some path → Origin run fetched path)
    (s : Service) :
    Traced run fetched (p.errands s) ∧
      ∀ path, (p.next s).2.1.nextPath = some path → Origin run (fetched ++ p.errands s) path := by
  rcases p.next_cases s with ⟨-, none, -, last, -⟩ | ⟨path, more, asks, same, came, link, -⟩
  · rw [none, last]
    exact ⟨.nil, nofun⟩
  · rw [link]
    refine ⟨same ▸ traced_withMetadata (origin path more), fun next linked => ?_⟩
    obtain ⟨page, page_eq, linked⟩ := Option.bind_eq_some_iff.mp linked
    rw [Outcome.result?_eq_some_iff] at page_eq
    have had : ∃ m, s.metadataAnswer = .ok m :=
      Outcome.Follows.result (Outcome.follows_andThen _ _) page_eq
    obtain ⟨m, had⟩ := had
    refine .inr ⟨path, page, List.mem_append_right _ ?_, linked⟩
    rw [same, Service.withMetadata, had, page_eq]
    exact List.mem_append_right _ List.mem_cons_self

theorem traced_collectErrands (steps : Nat) {p : FeedPages}
    (origin : ∀ path, p.nextPath = some path → Origin run fetched path) (s : Service) :
    Traced run fetched (Query.collectErrands steps p s) := by
  induction steps generalizing p s fetched with
  | zero => exact .nil
  | succ steps ih =>
    -- What has been fetched grows with the loop: the next page is accounted for by the last one.
    obtain ⟨first, next⟩ := traced_pageErrands origin s
    rw [Query.collectErrands]
    refine first.append ?_
    rcases one : p.next s with ⟨(_ | page) | _ | _, p', s'⟩
    · exact .nil
    · rw [one] at next
      exact ih next s'
    · exact .nil
    · exact .nil

theorem traced_queryErrands {q : Query} (origin : Origin run fetched q.path) (s : Service) :
    Traced run fetched (q.errands s) := by
  unfold Query.errands
  split
  · refine traced_collectErrands _ (fun path started => ?_) s
    cases started
    exact origin
  · exact .nil

/-! ### Actions -/

theorem traced_lookup {l : Lookup} (taken : .ask l ∈ run) (s : Service) :
    Traced run fetched (l.errands s) := by
  have collections : Origin run fetched (Errand.collections s.collectionsAnswer).path := .inl .collections
  cases l with
  | metadata | entityTypes | entityType => exact traced_metadataErrands s
  | collections | collectionNames | collection => exact traced_singleton collections
  | entity href key => exact traced_getErrands fun path written => .entity taken written
  | entityOf name key =>
    refine .cons collections ?_
    cases found : s.offered? name with
    | none => exact .nil
    | some c =>
      obtain ⟨cs, came, found⟩ := Option.bind_eq_some_iff.mp found
      rw [Outcome.result?_eq_some_iff] at came
      refine traced_getErrands fun path written => .entityOf taken ?_ found written
      rw [came]
      exact List.mem_append_right _ List.mem_cons_self
  | entities plan =>
    have origin : Origin run fetched plan.query.path := .inl (.query taken rfl)
    exact traced_queryErrands origin s
  | firstEntity plan =>
    have asked : Asked run fetched plan.limited.path := .query taken rfl
    have origin : Origin run fetched (plan.limited.capped 1).query.path := .inl asked
    exact traced_queryErrands origin s

structure Grounded (run : List Action) (fetched : List Errand) (s : Session) : Prop where
  iterations : ∀ name p, s.iterations.get? name = some p →
    ∀ path, p.nextPath = some path → Origin run fetched path
  queries : ∀ name q, s.queries.get? name = some q → Origin run fetched q.path

theorem grounded_fresh (run : List Action) (service : Service) : Grounded run [] { service } where
  iterations _ _ found := nomatch found
  queries _ _ found := nomatch found

theorem Grounded.append {s : Session} (h : Grounded run fetched s) (more : List Errand) :
    Grounded run (fetched ++ more) s where
  iterations name p found path next := (h.iterations name p found path next).append more
  queries name q found := (h.queries name q found).append more

theorem Grounded.traced {s : Session} {a : Action} (h : Grounded run fetched s) (taken : a ∈ run) :
    Traced run fetched (s.errands a) := by
  have query (name : String) : Traced run fetched (s.queryErrands name) := by
    unfold queryErrands
    cases found : s.queries.get? name with
    | none => exact .nil
    | some q => exact traced_queryErrands (h.queries name q found) s.service
  cases a with
  | ask l => exact traced_lookup taken s.service
  | nextPage name =>
    rw [errands]
    cases found : s.iterations.get? name with
    | none => exact .nil
    | some p => exact (traced_pageErrands (h.iterations name p found) s.service).1
  | demand name => exact query name
  | take name => exact query name
  | setReply | requests | requestCount | describe | openQuery | openPages | received => exact .nil

theorem grounded_set_query {s : Session} {name : String} {q : Query} (h : Grounded run fetched s)
    (origin : Origin run fetched q.path) (service : Service) :
    Grounded run fetched { s with service, queries := s.queries.set name q } where
  iterations := h.iterations
  queries other found kept := by
    rcases Table.eq_or_get?_of_set kept with rfl | kept
    · exact origin
    · exact h.queries other found kept

theorem grounded_set_iteration {s : Session} {name : String} {p : FeedPages} (h : Grounded run fetched s)
    (origin : ∀ path, p.nextPath = some path → Origin run fetched path) (service : Service) :
    Grounded run fetched { s with service, iterations := s.iterations.set name p } where
  iterations other found kept := by
    rcases Table.eq_or_get?_of_set kept with rfl | kept
    · exact origin
    · exact h.iterations other found kept
  queries := h.queries

theorem grounded_erase_query {s : Session} {name : String} (h : Grounded run fetched s) (service : Service) :
    Grounded run fetched { s with service, queries := s.queries.erase name } where
  iterations := h.iterations
  queries other found kept := by
    exact h.queries other found (Table.get?_of_erase kept)

theorem Grounded.next_access {s : Session} (h : Grounded run fetched s) (a : Access) (name : String) :
    Grounded run fetched (s.next (a.action name)) := by
  rw [Session.next, Access.step_action]
  cases found : s.queries.get? name with
  | none => exact h
  | some q =>
    have origin : Origin run fetched (q.execute s.service).2.1.path :=
      (q.execute_ran s.service).path.symm ▸ h.queries name q found
    cases a with
    | demand d => exact grounded_set_query h origin _
    | take => exact grounded_erase_query h _

theorem Grounded.next {s : Session} {a : Action} (h : Grounded run fetched s) (taken : a ∈ run) :
    Grounded run (fetched ++ s.errands a) (s.next a) := by
  have later := h.append (s.errands a)
  cases a with
  | demand name d => exact later.next_access (.demand d) name
  | take name => exact later.next_access .take name
  | nextPage name =>
    cases found : s.iterations.get? name with
    | none =>
      rw [Session.next, step_nextPage_of_none found]
      exact later
    | some p =>
      have link := (traced_pageErrands (h.iterations name p found) s.service).2
      rw [Session.next, step_nextPage found]
      refine grounded_set_iteration later ?_ _
      rw [errands, found]
      exact link
  | openQuery name plan => exact grounded_set_query later (.inl (.query taken rfl)) _
  | openPages name plan =>
    refine grounded_set_iteration later (fun path started => ?_) _
    cases started
    exact .inl (.query taken rfl)
  | received name =>
    have same : s.next (.received name) = s := by
      simp only [Session.next, step]
      cases s.queries.get? name <;> rfl
    rw [same]
    exact later
  | ask l => exact { iterations := later.iterations, queries := later.queries }
  | setReply => exact { iterations := later.iterations, queries := later.queries }
  | requests | requestCount | describe => exact later

/-! ### Runs -/

theorem Grounded.traced_history {s : Session} (h : Grounded run fetched s) {later : List Action}
    (taken : ∀ a ∈ later, a ∈ run) : Traced run fetched (s.history later) := by
  induction later generalizing s fetched with
  | nil => exact .nil
  | cons a later ih =>
    rw [List.forall_mem_cons] at taken
    exact (h.traced taken.1).append (ih (h.next taken.1) taken.2)

theorem Asked.relative (h : Asked run fetched path)
    (given : ∀ a ∈ run, ∀ href ∈ a.hrefs, ':' ∉ href.toList)
    (read : ∀ e ∈ fetched, ∀ href ∈ e.hrefs, ':' ∉ href.toList) : Url.isAbsolute path = false := by
  cases h with
  | collections => exact Url.not_isAbsolute_of_no_colon (by decide)
  | metadata => exact Url.not_isAbsolute_of_no_colon (by decide)
  | query taken started => exact QueryOptions.path_relative (given _ taken _ (Action.href_mem_of_plan? started)) _
  | entity taken written =>
    exact EntityKey.path?_relative (given _ taken _ List.mem_cons_self) written
  | entityOf taken came offered written =>
    have listed := List.mem_map_of_mem (f := CollectionInfo.href) (List.mem_of_find?_eq_some offered)
    exact EntityKey.path?_relative (read _ came _ listed) written

/-- In any session with a service, as long as no address of a collection that the caller gives or that the
service tells holds a colon: just the paths of the errands are requested, and each of them is joined to the
root of the service because it was asked for, or is the next link of a page that came before. -/
theorem requests_below_root (service : Service) (run : List Action)
    (given : ∀ a ∈ run, ∀ href ∈ a.hrefs, ':' ∉ href.toList)
    (read : ∀ e ∈ history { service } run, ∀ href ∈ e.hrefs, ':' ∉ href.toList) :
    (after { service } run).requests =
      service.transport.requests ++ (history { service } run).map (fun e => service.urlFor e.path) ∧
    ∀ before e later, history { service } run = before ++ e :: later →
      (Asked run before e.path ∧ service.urlFor e.path = Url.combine service.root e.path) ∨
        Linked before e.path := by
  refine ⟨(ran_after { service } run).requests, fun before e later split => ?_⟩
  have traced := (grounded_fresh run service).traced_history fun a taken => taken
  rcases traced.origin split with asked | linked
  · have relative := asked.relative given fun e mem => read e (split ▸ List.mem_append_left _ mem)
    exact .inl ⟨asked, Service.urlFor_of_relative relative service⟩
  · exact .inr linked

section Kennel

private def sprawlingService : Service where
  root := "http://kennel"
  policy := .strict
  coercions := .empty
  transport := {
    replies := .ofList [
      ("http://kennel/", .answer ⟨200, "<service><collection href='Dogs'/></service>"⟩),
      ("http://kennel/$metadata", .answer ⟨200, "<Schema Namespace='K'><EntityType Name='Dog'/></Schema>"⟩),
      ("http://kennel/Dogs?$orderby=http://far/x",
        .answer ⟨200, "<feed><entry><category term='Dog'/></entry><link rel='next' href='pack:away'/></feed>"⟩),
      ("pack:away", .answer ⟨200, "<feed/>"⟩)]
    requests := [] }

private def strayRun : List Action :=
  [.ask (.entities ((QueryPlan.ofHref "Dogs").orderBy ["http://far/x"])),
    .ask (.entityOf "Dogs" (.single (.string "http://far/y")))]

/-- One request goes away from the root, to a next link. -/
theorem requests_below_root_kennel :
    (∀ a ∈ strayRun, ∀ href ∈ a.hrefs, ':' ∉ href.toList) ∧
    ((∀ e ∈ history { service := sprawlingService } strayRun, ∀ href ∈ e.hrefs, ':' ∉ href.toList) ∧
      (after { service := sprawlingService } strayRun).requests =
        ["http://kennel/$metadata", "http://kennel/Dogs?$orderby=http://far/x", "pack:away",
          "http://kennel/", "http://kennel/Dogs('http%3A%2F%2Ffar%2Fy')"]) ∧
    ∀ before e later, history { service := sprawlingService } strayRun = before ++ e :: later →
      (Asked strayRun before e.path ∧
        sprawlingService.urlFor e.path = Url.combine sprawlingService.root e.path) ∨
        Linked before e.path := by
  have given : ∀ a ∈ strayRun, ∀ href ∈ a.hrefs, ':' ∉ href.toList := by decide
  suffices seen : _ ∧ _ from ⟨given, seen, (requests_below_root sprawlingService strayRun given seen.1).2⟩
  decide +kernel

end Kennel

end Session
end AtomData
