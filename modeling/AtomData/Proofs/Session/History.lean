import AtomData.Proofs.Query.Errands
import AtomData.Proofs.Query.LifeCycle

/-!
# The history of a session

What the actions of a session fetch, one errand after another.  `ran_after` says that after any run the
service has sent just the requests of these errands and remembers the metadata that they brought, and
`orderly_errands` that an action which needs metadata runs its errands in their order.
-/

namespace AtomData

namespace Service

structure Ran (s : Service) (es : List Errand) (s' : Service) : Prop where
  root : s'.root = s.root
  requests : s'.transport.requests = s.transport.requests ++ es.map fun e => s.urlFor e.path
  loaded : s'.loaded = es.foldl Errand.remember s.loaded

theorem ran_carry (s : Service) (es : List Errand) : s.Ran es (s.carry es) := ⟨rfl, rfl, rfl⟩

theorem ran_nil (s : Service) : s.Ran [] s := ⟨rfl, (List.append_nil _).symm, rfl⟩

theorem Ran.urlFor {s s' : Service} {es : List Errand} (h : s.Ran es s') : s'.urlFor = s.urlFor := by
  funext path
  rw [Service.urlFor, Service.urlFor, h.root]

theorem Ran.trans {s t u : Service} {es more : List Errand} (h : s.Ran es t) (later : t.Ran more u) :
    s.Ran (es ++ more) u where
  root := later.root.trans h.root
  requests := by rw [later.requests, h.requests, h.urlFor, List.map_append, List.append_assoc]
  loaded := by rw [later.loaded, h.loaded, List.foldl_append]

/-- The errands of a call that needs metadata or does not: only the list of collections comes ahead of
the metadata. -/
def Orderly (s : Service) (needs : Prop) (es : List Errand) : Prop :=
  ∃ ahead led, es = ahead ++ led ∧ (∀ e ∈ ahead, ∃ came, e = .collections came) ∧
    (needs → s.Led led) ∧ (¬needs → led = [])

theorem orderly_of_led {s : Service} {needs : Prop} {es : List Errand} (led : needs → s.Led es)
    (idle : ¬needs → es = []) : s.Orderly needs es :=
  ⟨[], es, rfl, by simp, led, idle⟩

theorem Orderly.after_collections {s : Service} {needs : Prop} {es : List Errand}
    (h : s.Orderly needs es) (came : Outcome (List CollectionInfo)) :
    s.Orderly needs (.collections came :: es) := by
  obtain ⟨ahead, led, rfl, first, rest⟩ := h
  exact ⟨.collections came :: ahead, led, rfl, List.forall_mem_cons.mpr ⟨⟨came, rfl⟩, first⟩, rest⟩

section

variable {s : Service} {needs : Prop} {es : List Errand}

theorem isLoad_of_collections (all : ∀ e ∈ es, ∃ came, e = .collections came) :
    ∀ e ∈ es, e.isLoad = false := by
  intro e mem
  obtain ⟨came, rfl⟩ := all e mem
  rfl

theorem Orderly.collections (h : s.Orderly needs es) (idle : ¬needs) :
    ∀ e ∈ es, ∃ came, e = .collections came := by
  obtain ⟨ahead, led, rfl, first, -, rest⟩ := h
  rw [rest idle, List.append_nil]
  exact first

theorem Orderly.loaded (h : s.Orderly needs es) (needed : needs) :
    (s.carry es).loaded = s.metadataAnswer.result? := by
  obtain ⟨ahead, led, rfl, first, rest, -⟩ := h
  rw [← (rest needed).loaded, carry_append]
  show led.foldl _ (ahead.foldl _ s.loaded) = _
  rw [foldl_remember (isLoad_of_collections first)]
  rfl

theorem Orderly.readWith (h : s.Orderly needs es) : ∀ e ∈ es, e.ReadWith s (s.carry es).loaded := by
  intro e mem
  by_cases needed : needs
  · rw [h.loaded needed]
    obtain ⟨ahead, led, rfl, first, rest, -⟩ := h
    rcases List.mem_append.mp mem with mem | mem
    · obtain ⟨came, rfl⟩ := first e mem
      trivial
    · exact (rest needed).readWith e mem
  · obtain ⟨came, rfl⟩ := h.collections needed e mem
    trivial

theorem Orderly.tries (h : s.Orderly needs es) (needed : needs) (forgotten : s.loaded = none) :
    ∃ ahead rest, es = ahead ++ .metadata s.metadataAnswer :: rest ∧
      (∀ e ∈ ahead, e.isLoad = false) ∧ (∀ e ∈ rest, e.isLoad = false) ∧
      (s.metadataAnswer.result? = none → rest = []) := by
  obtain ⟨ahead, led, rfl, first, rest, -⟩ := h
  obtain ⟨more, rfl, failed, read⟩ := rest needed
  have load : s.metadataErrands = [.metadata s.metadataAnswer] := by simp [metadataErrands, forgotten]
  refine ⟨ahead, more, ?_, isLoad_of_collections first, fun e mem => (read e mem).1, failed⟩
  rw [load]
  rfl

theorem Orderly.of_loaded {m : Metadata} (h : s.Orderly needs es) (remembered : s.loaded = some m) :
    ∀ e ∈ es, e.isLoad = false := by
  by_cases needed : needs
  · obtain ⟨ahead, led, rfl, first, rest, -⟩ := h
    rw [List.forall_mem_append]
    exact ⟨isLoad_of_collections first, fun e mem => ((rest needed).of_loaded remembered e mem).1⟩
  · exact isLoad_of_collections (h.collections needed)

end

def offered? (s : Service) (name : String) : Option CollectionInfo :=
  s.collectionsAnswer.result?.bind fun cs => cs.find? fun c => c.name = name

theorem orderly_getErrands (s : Service) (href : String) (key : EntityKey) :
    s.Orderly (∃ path, key.path? href = .ok path) (s.getErrands href key) := by
  unfold getErrands
  cases key.path? href with
  | error e => exact orderly_of_led (fun ⟨_, written⟩ => nomatch written) fun _ => rfl
  | ok path => exact orderly_of_led (fun _ => s.led_entity path) fun none => absurd ⟨path, rfl⟩ none

end Service

theorem Query.orderly_errands (q : Query) (s : Service) : s.Orderly q.Asks (q.errands s) :=
  Service.orderly_of_led (fun asks => led_query_errands asks s) fun idle => errands_of_idle idle s

theorem QueryPlan.orderly_errands (plan : QueryPlan) (s : Service) :
    s.Orderly (plan.maxPages ≠ some 0) (plan.query.errands s) := by
  have same : plan.query.Asks = (plan.maxPages ≠ some 0) :=
    propext ⟨fun asks => asks.2, fun some => ⟨rfl, some⟩⟩
  exact same ▸ plan.query.orderly_errands s

theorem Query.all_eq (q : Query) (s : Service) :
    q.all s = ((q.execute s).1.map fun () => (q.execute s).2.1.entities, s.carry (q.errands s)) := by
  rw [← (q.execute_ran s).service]
  rfl

theorem Service.getEntity_after_collections (s : Service) (came : Outcome (List CollectionInfo))
    (href : String) (key : EntityKey) :
    get? href key (s.carry [.collections came]) =
      (s.getAnswer href key, s.carry (.collections came :: s.getErrands href key)) := by
  rw [getEntity_eq]
  exact congrArg (s.getAnswer href key, ·) (carry_append s [.collections came] _).symm

namespace Lookup

/-! ### Lookups -/

def errands (s : Service) : Lookup → List Errand
  | metadata | entityTypes | entityType _ => s.metadataErrands
  | collections | collectionNames | collection _ => [.collections s.collectionsAnswer]
  | entity href key => s.getErrands href key
  | entityOf name key =>
    .collections s.collectionsAnswer ::
      match s.offered? name with
      | some c => s.getErrands c.href key
      | none => []
  | entities plan => plan.query.errands s
  | firstEntity plan => (plan.limited.capped 1).query.errands s

/-- The lookup comes to the point of asking for metadata. -/
def Needs (s : Service) : Lookup → Prop
  | metadata | entityTypes | entityType _ => True
  | collections | collectionNames | collection _ => False
  | entity href key => ∃ path, key.path? href = .ok path
  | entityOf name key => ∃ c, s.offered? name = some c ∧ ∃ path, key.path? c.href = .ok path
  | entities plan => plan.maxPages ≠ some 0
  | firstEntity _ => True

def answer (s : Service) : Lookup → Outcome Answer
  | metadata => s.metadataAnswer.map .metadata
  | entityTypes => s.metadataAnswer.map fun m => .texts (m.entityTypes.map EntityType.fullName)
  | entityType name => s.metadataAnswer.map fun m => .entityType (m.entityType? name)
  | collections => s.collectionsAnswer.map .collections
  | collectionNames => s.collectionsAnswer.map fun cs => .texts (cs.map CollectionInfo.name)
  | collection name => s.collectionsAnswer.map fun cs => .collection (cs.find? fun c => c.name = name)
  | entity href key => (s.getAnswer href key).map .entity
  | entityOf name key =>
    s.collectionsAnswer.andThen fun cs =>
      match cs.find? fun c => c.name = name with
      | some c => (s.getAnswer c.href key).map .entity
      | none => .ok .noCollection
  | entities plan =>
    (plan.query.execute s).1.map fun () => .entities (plan.query.execute s).2.1.entities
  | firstEntity plan =>
    ((plan.limited.capped 1).query.execute s).1.map fun () =>
      .entity ((plan.limited.capped 1).query.execute s).2.1.entities.head?

theorem orderly_errands (s : Service) (l : Lookup) : s.Orderly (l.Needs s) (l.errands s) := by
  have metadata : s.Orderly True s.metadataErrands :=
    Service.orderly_of_led (fun _ => s.led_metadataErrands) fun h => absurd trivial h
  have collections : s.Orderly False [.collections s.collectionsAnswer] :=
    (Service.orderly_of_led (fun h => h.elim) fun _ => rfl).after_collections _
  cases l with
  | metadata | entityTypes | entityType => exact metadata
  | collections | collectionNames | collection => exact collections
  | entity href key => exact s.orderly_getErrands href key
  | entityOf name key =>
    refine Service.Orderly.after_collections ?_ _
    simp only [Needs]
    cases s.offered? name with
    | none => exact Service.orderly_of_led (fun ⟨_, found, _⟩ => nomatch found) fun _ => rfl
    | some c => simpa using s.orderly_getErrands c.href key
  | entities plan => exact plan.orderly_errands s
  | firstEntity plan =>
    have orderly := (plan.limited.capped 1).orderly_errands s
    rwa [show ((plan.limited.capped 1).maxPages ≠ some 0) = True by simp [QueryPlan.capped]] at orderly

theorem call_eq (l : Lookup) (s : Service) : l.call s = (l.answer s, s.carry (l.errands s)) := by
  have metadata : Service.metadata s = (s.metadataAnswer, s.carry s.metadataErrands) := by
    rw [Service.metadata_eq, Service.carry_metadataErrands]
  have collections := s.collections_eq
  cases l with
  | metadata => exact Call.map_eq _ metadata
  | entityTypes => exact (Call.map_eq _ (Call.map_eq _ metadata)).trans (by rw [Outcome.map_map]; rfl)
  | entityType name => exact (Call.map_eq _ (Call.map_eq _ metadata)).trans (by rw [Outcome.map_map]; rfl)
  | collections => exact Call.map_eq _ collections
  | collectionNames =>
    exact (Call.map_eq _ (Call.map_eq _ collections)).trans (by rw [Outcome.map_map]; rfl)
  | collection name =>
    exact (Call.map_eq _ (Call.map_eq _ collections)).trans (by rw [Outcome.map_map]; rfl)
  | entity href key => exact Call.map_eq _ (s.getEntity_eq href key)
  | entityOf name key =>
    have found : Service.findCollection? name s = _ := Call.map_eq _ collections
    rw [call, Call.bind_eq found, answer, errands, Service.offered?]
    cases s.collectionsAnswer with
    | error e => rfl
    | pending => rfl
    | ok cs =>
      dsimp only [Outcome.map, Outcome.andThen, Outcome.result?, Option.bind_some]
      cases cs.find? fun c => c.name = name with
      | none => rfl
      | some c => exact Call.map_eq _ (s.getEntity_after_collections _ c.href key)
  | entities plan => exact (Call.map_eq _ (plan.query.all_eq s)).trans (by rw [Outcome.map_map]; rfl)
  | firstEntity plan =>
    have all := (plan.limited.capped 1).query.all_eq s
    exact (Call.map_eq _ (Call.map_eq _ all)).trans (by rw [Outcome.map_map, Outcome.map_map]; rfl)

end Lookup

namespace Session

/-! ### Actions -/

def queryErrands (s : Session) (name : String) : List Errand :=
  match s.queries.get? name with
  | some q => q.errands s.service
  | none => []

def errands (s : Session) : Action → List Errand
  | .ask lookup => lookup.errands s.service
  | .nextPage name =>
    match s.iterations.get? name with
    | some p => p.errands s.service
    | none => []
  | .demand name _ | .take name => s.queryErrands name
  | _ => []

def Needs (s : Session) : Action → Prop
  | .ask lookup => lookup.Needs s.service
  | .nextPage name => ∃ p, s.iterations.get? name = some p ∧ p.Asks
  | .demand name _ | .take name => ∃ q, s.queries.get? name = some q ∧ q.Asks
  | _ => False

def outcome? (s : Session) (a : Action) : Option (Outcome Answer) := (s.step a).map Prod.fst

/-- The session after the action, which leaves it as it is if it has no outcome. -/
def next (s : Session) (a : Action) : Session := ((s.step a).map Prod.snd).getD s

theorem orderly_errands (s : Session) (a : Action) : s.service.Orderly (s.Needs a) (s.errands a) := by
  have idle : s.service.Orderly False [] := Service.orderly_of_led (fun h => h.elim) fun _ => rfl
  have query (name : String) :
      s.service.Orderly (∃ q, s.queries.get? name = some q ∧ q.Asks) (s.queryErrands name) := by
    unfold queryErrands
    cases s.queries.get? name with
    | none => simpa using idle
    | some q => simpa using q.orderly_errands s.service
  cases a with
  | setReply | requests | requestCount | describe | openQuery | openPages | received => exact idle
  | ask lookup => exact lookup.orderly_errands s.service
  | nextPage name =>
    simp only [Needs, errands]
    cases s.iterations.get? name with
    | none => simpa using idle
    | some p =>
      simpa using Service.orderly_of_led (fun asks : p.Asks => FeedPages.led_errands asks s.service)
        fun idle => FeedPages.errands_of_idle idle s.service
  | demand name => exact query name
  | take name => exact query name

theorem step_nextPage {s : Session} {name : String} {p : FeedPages}
    (found : s.iterations.get? name = some p) :
    s.step (.nextPage name) = some ((p.next s.service).1.map .page,
      { s with
        service := (p.next s.service).2.2
        iterations := s.iterations.set name (p.next s.service).2.1 }) := by
  simp only [step, found]
  rfl

theorem step_nextPage_of_none {s : Session} {name : String} (missing : s.iterations.get? name = none) :
    s.step (.nextPage name) = none := by
  simp only [step, missing]
  rfl

theorem service_next_access (s : Session) (a : Access) (name : String) :
    (s.next (a.action name)).service = s.service.carry (s.errands (a.action name)) := by
  have errands : s.errands (a.action name) = s.queryErrands name := by cases a <;> rfl
  rw [errands, next, Access.step_action]
  unfold queryErrands
  cases s.queries.get? name with
  | none => exact s.service.carry_nil.symm
  | some q => exact (q.execute_ran s.service).service

/-- An action that leaves the replies alone does nothing to the service but run its errands. -/
theorem service_next {s : Session} {a : Action} (fixed : ∀ url reply, a ≠ .setReply url reply) :
    (s.next a).service = s.service.carry (s.errands a) := by
  have idle := s.service.carry_nil.symm
  cases a with
  | setReply url reply => exact absurd rfl (fixed url reply)
  | requests | requestCount | describe | openQuery | openPages => exact idle
  | ask lookup => exact congrArg Prod.snd (lookup.call_eq s.service)
  | nextPage name =>
    cases found : s.iterations.get? name with
    | none =>
      rw [next, step_nextPage_of_none found, errands, found]
      exact idle
    | some p =>
      rw [next, step_nextPage found, errands, found]
      exact p.next_service s.service
  | demand name d => exact s.service_next_access (.demand d) name
  | received name =>
    have same : (s.next (.received name)).service = s.service := by
      simp only [next, step]
      cases s.queries.get? name <;> rfl
    rw [same]
    exact idle
  | take name => exact s.service_next_access .take name

theorem ran_next (s : Session) (a : Action) : s.service.Ran (s.errands a) (s.next a).service := by
  by_cases fixed : ∀ url reply, a ≠ .setReply url reply
  · rw [service_next fixed]
    exact s.service.ran_carry _
  · push Not at fixed
    obtain ⟨url, reply, rfl⟩ := fixed
    exact ⟨rfl, s.service.ran_nil.requests, rfl⟩

/-! ### Runs -/

def after (s : Session) (run : List Action) : Session := run.foldl next s

def history (s : Session) : List Action → List Errand
  | [] => []
  | a :: later => s.errands a ++ (s.next a).history later

theorem ran_after (s : Session) (run : List Action) :
    s.service.Ran (s.history run) (s.after run).service := by
  induction run generalizing s with
  | nil => exact s.service.ran_nil
  | cons a run ih => exact (s.ran_next a).trans (ih (s.next a))

end Session
end AtomData
