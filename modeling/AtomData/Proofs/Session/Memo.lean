import AtomData.Proofs.Session.History

/-!
# Remembered metadata

What a session remembers of the metadata, over any run, with replies that may change between its actions
and calls that may never come back.  `keepsMetadata` says how one action treats what is remembered, and
`loadsMetadataOnce` what this makes of a whole run.
-/

namespace AtomData

def Answer.allEntities : Answer → List Entity
  | entity e => e.toList
  | entities es => es
  | page p => p.elim [] Page.entities
  | _ => []

theorem Demand.allEntities_view_subset (d : Demand) (es : List Entity) : (d.view es).allEntities ⊆ es := by
  cases d with
  | run => exact List.nil_subset _
  | count => exact List.nil_subset _
  | isEmpty => exact List.nil_subset _
  | entityAt index =>
    intro e mem
    exact List.mem_of_getElem? (Option.mem_toList.mp mem)
  | first =>
    intro e mem
    exact List.mem_of_head? (Option.mem_toList.mp mem)
  | last =>
    intro e mem
    exact List.mem_of_getLast? (Option.mem_toList.mp mem)
  | all => exact List.Subset.refl es

theorem Access.allEntities_view_subset (a : Access) (es : List Entity) : (a.view es).allEntities ⊆ es := by
  cases a with
  | demand d => exact d.allEntities_view_subset es
  | take => exact List.Subset.refl es

namespace Lookup

def view? : Lookup → Option (Metadata → Answer)
  | metadata => some .metadata
  | entityTypes => some fun m => .texts (m.entityTypes.map EntityType.fullName)
  | entityType name => some fun m => .entityType (m.entityType? name)
  | _ => none

theorem answer_of_view {l : Lookup} {view : Metadata → Answer} (looks : l.view? = some view) (s : Service) :
    l.answer s = s.metadataAnswer.map view := by
  cases l <;> cases looks <;> rfl

end Lookup

namespace Service

theorem getAnswer_follows {s : Service} {href path : String} {key : EntityKey}
    (written : key.path? href = .ok path) : (s.getAnswer href key).Follows s.metadataAnswer := by
  simp only [getAnswer, written]
  exact Outcome.follows_andThen _ _

theorem entities_getErrands (s : Service) (href : String) (key : EntityKey) :
    (s.getErrands href key).flatMap Errand.entities =
      match s.getAnswer href key with
      | .ok e => e.toList
      | _ => [] := by
  unfold getErrands getAnswer
  cases key.path? href with
  | error e => rfl
  | ok path =>
    have failed (none : s.metadataAnswer.result? = none) :
        Errand.entities (.entity path (s.entityAnswer path)) = [] :=
      Errand.entities_entity_of_none (Outcome.result?_andThen_of_none none _)
    dsimp only
    rw [entities_withMetadata failed]
    rcases s.entityAnswer path with ⟨_ | e⟩ | _ | _ <;> rfl

end Service

/-! ### The outcome of an action -/

theorem Lookup.answer_follows {l : Lookup} {s : Service} (needed : l.Needs s) :
    (l.answer s).Follows s.metadataAnswer := by
  have same : s.metadataAnswer.Follows s.metadataAnswer := by
    cases s.metadataAnswer <;> trivial
  cases l with
  | metadata | entityTypes | entityType => exact same.map _
  | collections | collectionNames | collection => exact needed.elim
  | entity href key =>
    obtain ⟨path, written⟩ := needed
    exact (Service.getAnswer_follows written).map _
  | entityOf name key =>
    obtain ⟨c, offered, path, written⟩ := needed
    obtain ⟨cs, came, found⟩ := Option.bind_eq_some_iff.mp offered
    rw [Outcome.result?_eq_some_iff] at came
    simp only [answer, came, Outcome.andThen, found]
    exact (Service.getAnswer_follows written).map _
  | entities plan =>
    have asks : plan.query.Asks := ⟨rfl, needed⟩
    exact (Query.execute_follows asks s).map _
  | firstEntity plan =>
    have asks : (plan.limited.capped 1).query.Asks := ⟨rfl, by simp [QueryPlan.query, QueryPlan.capped]⟩
    exact (Query.execute_follows asks s).map _

theorem Lookup.allEntities_subset {l : Lookup} {s : Service} {answer : Answer}
    (came : l.answer s = .ok answer) : answer.allEntities ⊆ (l.errands s).flatMap Errand.entities := by
  have entity {href : String} {key : EntityKey} {answer : Answer}
      (came : (s.getAnswer href key).map .entity = .ok answer) :
      answer.allEntities = (s.getErrands href key).flatMap Errand.entities := by
    obtain ⟨e, got, rfl⟩ := Outcome.map_eq_ok_iff.mp came
    rw [Service.entities_getErrands, got]
    rfl
  have query {plan : QueryPlan} : (plan.query.execute s).2.1.entities =
      (plan.query.errands s).flatMap Errand.entities := (plan.query.execute_ran s).entities
  cases l with
  | entity href key =>
    rw [entity came]
    exact List.Subset.refl _
  | entityOf name key =>
    simp only [Lookup.answer] at came
    simp only [errands, Service.offered?]
    cases collections : s.collectionsAnswer with
    | error e => simp only [collections, Outcome.andThen] at came; cases came
    | pending => simp only [collections, Outcome.andThen] at came; cases came
    | ok cs =>
      simp only [collections, Outcome.andThen] at came
      simp only [Outcome.result?, Option.bind_some, List.flatMap_cons]
      cases found : cs.find? fun c => c.name = name with
      | none =>
        rw [found] at came
        cases came
        exact List.nil_subset _
      | some c =>
        rw [found] at came
        rw [entity came]
        exact List.Subset.refl _
  | entities plan =>
    obtain ⟨-, -, rfl⟩ := Outcome.map_eq_ok_iff.mp came
    rw [errands, ← query]
    exact List.Subset.refl _
  | firstEntity plan =>
    obtain ⟨-, -, rfl⟩ := Outcome.map_eq_ok_iff.mp came
    rw [errands, ← query]
    exact fun e mem => List.mem_of_head? (Option.mem_toList.mp mem)
  | metadata | entityTypes | entityType | collections | collectionNames | collection =>
    obtain ⟨-, -, rfl⟩ := Outcome.map_eq_ok_iff.mp came
    exact List.nil_subset _

namespace Session

theorem outcome?_ask (s : Session) (l : Lookup) : s.outcome? (.ask l) = some (l.answer s.service) :=
  congrArg (fun r : Outcome Answer × Service => some r.1) (l.call_eq s.service)

theorem outcome?_follows {s : Session} {a : Action} (needed : s.Needs a) :
    ∃ o, s.outcome? a = some o ∧ o.Follows s.service.metadataAnswer := by
  have query (access : Access) (name : String) (asks : ∃ q, s.queries.get? name = some q ∧ q.Asks) :
      ∃ o, s.outcome? (access.action name) = some o ∧ o.Follows s.service.metadataAnswer := by
    obtain ⟨q, found, asks⟩ := asks
    rw [outcome?, Access.step_action, found]
    exact ⟨_, rfl, (Query.execute_follows asks s.service).map _⟩
  cases a with
  | ask l => exact ⟨_, s.outcome?_ask l, Lookup.answer_follows needed⟩
  | nextPage name =>
    obtain ⟨p, found, asks⟩ := needed
    rw [outcome?, step_nextPage found]
    exact ⟨_, rfl, (FeedPages.next_follows asks s.service).map _⟩
  | demand name d => exact query (.demand d) name needed
  | take name => exact query .take name needed
  | setReply | requests | requestCount | describe | openQuery | openPages | received =>
    exact needed.elim

/-! ### Where entities come from -/

def Holds (s : Session) (e : Entity) : Prop := ∃ name q, s.queries.get? name = some q ∧ e ∈ q.entities

/-- The entity was held before the action or fetched by it. -/
def Known (s : Session) (a : Action) (e : Entity) : Prop :=
  s.Holds e ∨ e ∈ (s.errands a).flatMap Errand.entities

theorem known_of_set {s : Session} {a : Action} {name : String} {q : Query}
    (known : ∀ e ∈ q.entities, s.Known a e) {e : Entity}
    (held : ∃ other found, (s.queries.set name q).get? other = some found ∧ e ∈ found.entities) :
    s.Known a e := by
  obtain ⟨other, found, kept, mem⟩ := held
  rcases Table.eq_or_get?_of_set kept with rfl | kept
  · exact known e mem
  · exact .inl ⟨other, found, kept, mem⟩

theorem known_of_access (s : Session) (a : Access) (name : String) :
    (∀ answer, s.outcome? (a.action name) = some (.ok answer) →
      ∀ e ∈ answer.allEntities, s.Known (a.action name) e) ∧
    ∀ e, (s.next (a.action name)).Holds e → s.Known (a.action name) e := by
  have step := Access.step_action a name s
  cases found : s.queries.get? name with
  | none =>
    rw [found] at step
    rw [outcome?, next, step]
    refine ⟨fun _ back => ?_, fun e held => .inl held⟩
    cases back
  | some q =>
    have errands : s.errands (a.action name) = q.errands s.service := by
      cases a <;> simp only [Access.action, Session.errands, queryErrands, found]
    have known : ∀ e ∈ (q.execute s.service).2.1.entities, s.Known (a.action name) e := by
      intro e mem
      rw [(q.execute_ran s.service).entities, List.mem_append] at mem
      exact mem.imp (fun mem => ⟨name, q, found, mem⟩) fun mem => errands ▸ mem
    rw [found] at step
    rw [outcome?, next, step]
    constructor
    · intro answer back e mem
      obtain ⟨-, -, rfl⟩ := Outcome.map_eq_ok_iff.mp (Option.some.inj back)
      exact known e (a.allEntities_view_subset _ mem)
    · intro e held
      cases a with
      | demand d => exact known_of_set known held
      | take =>
        obtain ⟨other, found, kept, mem⟩ := held
        exact .inl ⟨other, found, Table.get?_of_erase kept, mem⟩

theorem known_step (s : Session) (a : Action) :
    (∀ answer, s.outcome? a = some (.ok answer) → ∀ e ∈ answer.allEntities, s.Known a e) ∧
    ∀ e, (s.next a).Holds e → s.Known a e := by
  cases a with
  | demand name d => exact s.known_of_access (.demand d) name
  | take name => exact s.known_of_access .take name
  | ask l =>
    refine ⟨fun answer back e mem => .inr ?_, fun e held => .inl held⟩
    rw [outcome?_ask] at back
    exact Lookup.allEntities_subset (Option.some.inj back) mem
  | nextPage name =>
    cases found : s.iterations.get? name with
    | none =>
      rw [outcome?, next, step_nextPage_of_none found]
      refine ⟨fun _ back => ?_, fun e held => .inl held⟩
      cases back
    | some p =>
      rw [outcome?, next, step_nextPage found]
      refine ⟨fun answer back e mem => .inr ?_, fun e held => .inl held⟩
      obtain ⟨page, came, rfl⟩ := Outcome.map_eq_ok_iff.mp (Option.some.inj back)
      rw [errands, found]
      dsimp only
      rw [FeedPages.entities_errands, came]
      cases page with
      | none => cases mem
      | some page => exact mem
  | received name =>
    cases found : s.queries.get? name with
    | none =>
      have none : s.step (.received name) = none := by simp only [step, found]; rfl
      rw [outcome?, next, none]
      refine ⟨fun _ back => ?_, fun e held => .inl held⟩
      cases back
    | some q =>
      have told : s.step (.received name) = s.tell (.entities q.entities) := by
        simp only [step, found]
        rfl
      rw [outcome?, next, told]
      refine ⟨fun answer back e mem => .inl ?_, fun e held => .inl held⟩
      cases back
      exact ⟨name, q, found, mem⟩
  | openQuery name plan =>
    refine ⟨fun answer back e mem => ?_, fun e held => known_of_set (fun _ none => ?_) held⟩
    · cases back
      cases mem
    · cases none
  | setReply | requests | requestCount | describe | openPages =>
    refine ⟨fun answer back e mem => ?_, fun e held => .inl held⟩
    cases back
    cases mem

/-! ### One action -/

structure KeepsMetadata (s : Session) (a : Action) : Prop where
  requests : (s.next a).requests = s.requests ++ (s.errands a).map fun e => s.service.urlFor e.path
  /-- Metadata that are remembered stay, and are not loaded again. -/
  kept : ∀ m, s.service.loaded = some m →
    (s.next a).service.loaded = some m ∧ ∀ e ∈ s.errands a, e.isLoad = false
  /-- An action that does not need metadata leaves them alone. -/
  idle : ¬s.Needs a → (s.next a).service.loaded = s.service.loaded ∧ ∀ e ∈ s.errands a, e.isLoad = false
  /-- One that needs them while none are remembered tries to load them once.  If that fails or never
  comes back, nothing is remembered, nothing else is requested, and the action ends just so. -/
  tries : s.service.loaded = none → s.Needs a → ∃ ahead rest o,
    s.errands a = ahead ++ .metadata s.service.metadataAnswer :: rest ∧
    (∀ e ∈ ahead, e.isLoad = false) ∧ (∀ e ∈ rest, e.isLoad = false) ∧
    (s.next a).service.loaded = s.service.metadataAnswer.result? ∧
    (s.service.metadataAnswer.result? = none → rest = []) ∧
    s.outcome? a = some o ∧ o.Follows s.service.metadataAnswer
  /-- Lookups answer from the metadata that are remembered then. -/
  lookups : ∀ l view m, a = .ask l → l.view? = some view → (s.next a).service.loaded = some m →
    s.outcome? a = some (.ok (view m))
  /-- Pages and entities are read with them. -/
  read : ∀ e ∈ s.errands a, e.ReadWith s.service (s.next a).service.loaded
  /-- No entity comes from anywhere else. -/
  known : ∀ answer, s.outcome? a = some (.ok answer) → ∀ e ∈ answer.allEntities, s.Known a e

theorem loaded_next (s : Session) (a : Action) :
    (s.next a).service.loaded = (s.service.carry (s.errands a)).loaded := (s.ran_next a).loaded

theorem loaded_next_of_needs {s : Session} {a : Action} (needed : s.Needs a) :
    (s.next a).service.loaded = s.service.metadataAnswer.result? := by
  rw [loaded_next, (s.orderly_errands a).loaded needed]

theorem loaded_next_of_idle {s : Session} {a : Action} (idle : ¬s.Needs a) :
    (s.next a).service.loaded = s.service.loaded ∧ ∀ e ∈ s.errands a, e.isLoad = false := by
  have others := Service.isLoad_of_collections ((s.orderly_errands a).collections idle)
  exact ⟨(s.loaded_next a).trans (Service.loaded_carry_of_others others s.service), others⟩

theorem loaded_next_of_loaded {s : Session} {m : Metadata} (remembered : s.service.loaded = some m)
    (a : Action) : (s.next a).service.loaded = some m := by
  by_cases needed : s.Needs a
  · rw [loaded_next_of_needs needed, Service.metadataAnswer_of_loaded remembered]
    rfl
  · exact (loaded_next_of_idle needed).1.trans remembered

theorem keepsMetadata (s : Session) (a : Action) : s.KeepsMetadata a where
  requests := (s.ran_next a).requests
  kept _ remembered := ⟨loaded_next_of_loaded remembered a, (s.orderly_errands a).of_loaded remembered⟩
  idle := loaded_next_of_idle
  tries forgotten needed := by
    obtain ⟨ahead, rest, errands, first, others, failed⟩ := (s.orderly_errands a).tries needed forgotten
    obtain ⟨o, came, follows⟩ := outcome?_follows needed
    exact ⟨ahead, rest, o, errands, first, others, loaded_next_of_needs needed, failed, came, follows⟩
  lookups := by
    rintro l view m rfl looks remembered
    have needed : s.Needs (.ask l) := by cases l <;> trivial
    rw [loaded_next_of_needs needed, Outcome.result?_eq_some_iff] at remembered
    rw [outcome?_ask, Lookup.answer_of_view looks, remembered]
    rfl
  read := by
    rw [loaded_next]
    exact (s.orderly_errands a).readWith
  known := (s.known_step a).1

theorem loaded_next_iff (s : Session) (a : Action) (m : Metadata) :
    (s.next a).service.loaded = some m ↔
      s.service.loaded = some m ∨ .metadata (.ok m) ∈ s.errands a := by
  have absent (others : ∀ e ∈ s.errands a, e.isLoad = false) : .metadata (.ok m) ∉ s.errands a :=
    fun mem => by cases others _ mem
  by_cases idle : s.Needs a
  · cases remembered : s.service.loaded with
    | some m' =>
      have others := ((s.keepsMetadata a).kept m' remembered).2
      rw [loaded_next_of_loaded remembered, iff_false_intro (absent others), or_false]
    | none =>
      obtain ⟨ahead, rest, -, errands, first, others, loaded, -⟩ := (s.keepsMetadata a).tries remembered idle
      have before : .metadata (.ok m) ∉ ahead := fun mem => by cases first _ mem
      have behind : .metadata (.ok m) ∉ rest := fun mem => by cases others _ mem
      rw [loaded, errands, Outcome.result?_eq_some_iff]
      simp [before, behind, eq_comm]
  · obtain ⟨same, others⟩ := loaded_next_of_idle idle
    rw [same, iff_false_intro (absent others), or_false]

/-! ### Many actions -/

structure LoadsMetadataOnce (s : Session) (run : List Action) : Prop where
  requests : (s.after run).requests = s.requests ++ (s.history run).map fun e => s.service.urlFor e.path
  /-- The metadata of a load that succeeded are remembered, and no others. -/
  loaded : ∀ m, (s.after run).service.loaded = some m ↔
    s.service.loaded = some m ∨ .metadata (.ok m) ∈ s.history run
  /-- After such a load there is no other attempt. -/
  once : (s.history run).Pairwise fun e later => ∀ m, e = .metadata (.ok m) → later.isLoad = false
  /-- All pages and entities of the run are read with these metadata. -/
  read : ∀ e ∈ s.history run, ∃ earlier, earlier <+: run ∧
    e.ReadWith (s.after earlier).service (s.after run).service.loaded
  /-- No entity that a query holds comes from anywhere else. -/
  held : ∀ e, (s.after run).Holds e → s.Holds e ∨ e ∈ (s.history run).flatMap Errand.entities

theorem loaded_after_of_loaded {s : Session} {m : Metadata} (remembered : s.service.loaded = some m)
    (run : List Action) :
    (s.after run).service.loaded = some m ∧ ∀ e ∈ s.history run, e.isLoad = false := by
  induction run generalizing s with
  | nil => exact ⟨remembered, by simp [history]⟩
  | cons a run ih =>
    obtain ⟨kept, others⟩ := (s.keepsMetadata a).kept m remembered
    obtain ⟨loaded, later⟩ := ih kept
    exact ⟨loaded, List.forall_mem_append.mpr ⟨others, later⟩⟩

theorem once_errands (s : Session) (a : Action) :
    (s.errands a).Pairwise fun e later => ∀ m, e = .metadata (.ok m) → later.isLoad = false := by
  have idle {es : List Errand} (others : ∀ e ∈ es, e.isLoad = false) :
      es.Pairwise fun e later => ∀ m, e = .metadata (.ok m) → later.isLoad = false :=
    List.pairwise_of_forall_mem_list fun _ _ later mem _ _ => others later mem
  have one := s.keepsMetadata a
  cases remembered : s.service.loaded with
  | some m => exact idle (one.kept m remembered).2
  | none =>
    by_cases needed : s.Needs a
    · obtain ⟨ahead, rest, -, errands, first, others, -⟩ := one.tries remembered needed
      rw [errands, List.pairwise_append, List.pairwise_cons]
      refine ⟨idle first, ⟨fun later mem _ _ => others later mem, idle others⟩, ?_⟩
      rintro e mem later - m rfl
      cases first _ mem
    · exact idle (one.idle needed).2

theorem loadsMetadataOnce (s : Session) (run : List Action) : s.LoadsMetadataOnce run := by
  induction run generalizing s with
  | nil =>
    exact {
      requests := (List.append_nil _).symm
      loaded := fun m => by simp [after, history]
      once := List.Pairwise.nil
      read := by simp [history]
      held := fun e held => .inl held }
  | cons a run ih =>
    -- The rest of the run starts from what the first action leaves remembered.
    have rest := ih (s.next a)
    have one := s.keepsMetadata a
    exact {
      requests := (s.ran_after (a :: run)).requests
      loaded := fun m => by
        show ((s.next a).after run).service.loaded = _ ↔ _
        rw [rest.loaded, loaded_next_iff, history, List.mem_append, or_assoc]
      once := by
        refine List.pairwise_append.mpr ⟨s.once_errands a, rest.once, ?_⟩
        rintro _ mem later memLater m rfl
        exact (loaded_after_of_loaded ((s.loaded_next_iff a m).mpr (.inr mem)) run).2 later memLater
      read := by
        intro e mem
        rcases List.mem_append.mp mem with mem | mem
        · refine ⟨[], List.nil_prefix, (one.read e mem).mono fun m remembered => ?_⟩
          exact (loaded_after_of_loaded remembered run).1
        · obtain ⟨earlier, first, read⟩ := rest.read e mem
          exact ⟨a :: earlier, List.cons_prefix_cons.mpr ⟨rfl, first⟩, read⟩
      held := by
        intro e held
        rw [history, List.flatMap_append, List.mem_append, ← or_assoc]
        exact (rest.held e held).imp_left ((s.known_step a).2 e) }

/-- On a session with any service, after any run, whatever the replies were in the meantime and whether or
not its calls came back: the metadata are loaded until that succeeds and never again, all pages and
entities are read with these, and the next action keeps to this. -/
theorem metadata_memo (s : Session) (run : List Action) (a : Action) :
    s.LoadsMetadataOnce run ∧ (s.after run).KeepsMetadata a :=
  ⟨s.loadsMetadataOnce run, (s.after run).keepsMetadata a⟩

end Session

end AtomData
