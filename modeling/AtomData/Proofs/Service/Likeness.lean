import AtomData.Proofs.Session.Memo

/-!
# Services that answer alike

A call changes a service, but not what the service answers: metadata that it loaded are those that the next
call would have loaded.  `Orderly.alike` says so, and `FeedPages.next_congr`, `Query.execute_congr` and
`Lookup.answer_congr` that calls on services that answer alike come to the same and send the same requests
beside those for metadata.
-/

namespace AtomData

namespace Service

/-- The services give the same answers.  One may remember metadata that the other would have to load. -/
structure Alike (s t : Service) : Prop where
  root : s.root = t.root
  policy : s.policy = t.policy
  coercions : s.coercions = t.coercions
  replies : s.transport.replies = t.transport.replies
  metadata : s.metadataAnswer = t.metadataAnswer

variable {s t u : Service}

theorem Alike.refl (s : Service) : s.Alike s := ⟨rfl, rfl, rfl, rfl, rfl⟩

theorem Alike.symm (h : s.Alike t) : t.Alike s :=
  ⟨h.root.symm, h.policy.symm, h.coercions.symm, h.replies.symm, h.metadata.symm⟩

theorem Alike.trans (h : s.Alike t) (later : t.Alike u) : s.Alike u where
  root := h.root.trans later.root
  policy := h.policy.trans later.policy
  coercions := h.coercions.trans later.coercions
  replies := h.replies.trans later.replies
  metadata := h.metadata.trans later.metadata

/-! ### What a call leaves of a service -/

theorem metadataAnswer_of_loaded_eq (root : s.root = t.root) (policy : s.policy = t.policy)
    (replies : s.transport.replies = t.transport.replies) (loaded : t.loaded = s.loaded) :
    s.metadataAnswer = t.metadataAnswer := by
  have documents : s.documentAt metadataPath = t.documentAt metadataPath := by
    simp only [documentAt, urlFor, Transport.reply?, root, replies]
  rw [metadataAnswer, metadataAnswer, loaded, documents, policy]

theorem metadataAnswer_of_remembered (root : s.root = t.root) (policy : s.policy = t.policy)
    (replies : s.transport.replies = t.transport.replies) (loaded : t.loaded = s.metadataAnswer.result?) :
    s.metadataAnswer = t.metadataAnswer := by
  cases had : s.metadataAnswer.result? with
  | some m =>
    rw [had] at loaded
    rw [metadataAnswer_of_loaded loaded, Outcome.result?_eq_some_iff.mp had]
  | none =>
    refine metadataAnswer_of_loaded_eq root policy replies ?_
    rw [loaded, had]
    cases remembered : s.loaded with
    | none => rfl
    | some m =>
      rw [metadataAnswer_of_loaded remembered] at had
      cases had

theorem Orderly.alike {needs : Prop} {es : List Errand} (h : s.Orderly needs es) : s.Alike (s.carry es) where
  root := rfl
  policy := rfl
  coercions := rfl
  replies := rfl
  metadata := by
    by_cases needed : needs
    · exact metadataAnswer_of_remembered rfl rfl rfl (h.loaded needed)
    · have others := isLoad_of_collections (h.collections needed)
      exact metadataAnswer_of_loaded_eq rfl rfl rfl (loaded_carry_of_others others s)

/-! ### Answers -/

theorem Alike.urlFor (h : s.Alike t) : s.urlFor = t.urlFor := by
  funext path
  rw [Service.urlFor, Service.urlFor, h.root]

theorem Alike.documentAt (h : s.Alike t) : s.documentAt = t.documentAt := by
  funext path
  simp only [Service.documentAt, Transport.reply?, h.urlFor, h.replies]

theorem Alike.collectionsAnswer (h : s.Alike t) : s.collectionsAnswer = t.collectionsAnswer := by
  rw [Service.collectionsAnswer, Service.collectionsAnswer, h.documentAt]

theorem Alike.offered? (h : s.Alike t) : s.offered? = t.offered? := by
  funext name
  rw [Service.offered?, Service.offered?, h.collectionsAnswer]

theorem Alike.pageAnswer (h : s.Alike t) : s.pageAnswer = t.pageAnswer := by
  funext path
  rw [Service.pageAnswer, Service.pageAnswer, h.metadata, h.documentAt, h.coercions]

theorem Alike.entityAnswer (h : s.Alike t) : s.entityAnswer = t.entityAnswer := by
  funext path
  have responses : s.responseAt = t.responseAt := by
    funext path
    simp only [responseAt, Transport.reply?, h.urlFor, h.replies]
  rw [Service.entityAnswer, Service.entityAnswer, h.metadata]
  simp only [entityAt, responses, h.coercions]

theorem Alike.getAnswer (h : s.Alike t) : s.getAnswer = t.getAnswer := by
  funext href key
  simp only [Service.getAnswer, h.entityAnswer]

end Service

/-! ### Loads and other errands -/

def loads (es : List Errand) : List Errand := es.filter Errand.isLoad

def besideLoads (es : List Errand) : List Errand := es.filter fun e => !e.isLoad

theorem loads_append (es more : List Errand) : loads (es ++ more) = loads es ++ loads more :=
  List.filter_append ..

theorem besideLoads_append (es more : List Errand) :
    besideLoads (es ++ more) = besideLoads es ++ besideLoads more := List.filter_append ..

theorem loads_of_others {es : List Errand} (others : ∀ e ∈ es, e.isLoad = false) : loads es = [] :=
  List.filter_eq_nil_iff.mpr fun e mem => Bool.eq_false_iff.mp (others e mem)

theorem perm_of_loads_eq {es more : List Errand} (same : loads es = loads more)
    (others : (besideLoads es).Perm (besideLoads more)) : es.Perm more := by
  have parts (es : List Errand) : (loads es ++ besideLoads es).Perm es := List.filter_append_perm _ es
  refine (parts es).symm.trans (List.Perm.trans ?_ (parts more))
  rw [same]
  exact others.append_left _

namespace Service

variable {s t : Service}

theorem loads_metadataErrands (s : Service) : loads s.metadataErrands = s.metadataErrands := by
  unfold metadataErrands
  split <;> rfl

theorem besideLoads_metadataErrands (s : Service) : besideLoads s.metadataErrands = [] := by
  unfold metadataErrands
  split <;> rfl

theorem Alike.metadataErrands (h : s.Alike t) (loaded : s.loaded = t.loaded) :
    s.metadataErrands = t.metadataErrands := by
  rw [Service.metadataErrands, Service.metadataErrands, loaded, h.metadata]

theorem Alike.besideLoads_withMetadata (h : s.Alike t) (e : Errand) :
    besideLoads (s.withMetadata e) = besideLoads (t.withMetadata e) := by
  rw [withMetadata, withMetadata, besideLoads_append, besideLoads_append, besideLoads_metadataErrands,
    besideLoads_metadataErrands, h.metadata]

theorem Alike.besideLoads_getErrands (h : s.Alike t) (href : String) (key : EntityKey) :
    besideLoads (s.getErrands href key) = besideLoads (t.getErrands href key) := by
  unfold getErrands
  cases key.path? href with
  | error e => rfl
  | ok path =>
    dsimp only
    rw [h.entityAnswer, h.besideLoads_withMetadata]

/-- A call loads metadata if it needs them and they are not remembered. -/
theorem Orderly.loads_of_needs {needs : Prop} {es : List Errand} (h : s.Orderly needs es) (needed : needs) :
    loads es = s.metadataErrands := by
  obtain ⟨ahead, led, rfl, first, rest, -⟩ := h
  obtain ⟨more, rfl, -, read⟩ := rest needed
  rw [loads_append, loads_append, loads_metadataErrands, loads_of_others (isLoad_of_collections first),
    loads_of_others fun e mem => (read e mem).1, List.nil_append, List.append_nil]

theorem Orderly.loads_of_idle {needs : Prop} {es : List Errand} (h : s.Orderly needs es) (idle : ¬needs) :
    loads es = [] :=
  loads_of_others (isLoad_of_collections (h.collections idle))

end Service

/-! ### Calls on services that answer alike -/

open Service (Alike)

variable {s t : Service}

namespace FeedPages

theorem alike_next (p : FeedPages) (s : Service) : s.Alike (p.next s).2.2 := by
  rw [next_service]
  exact (Service.orderly_of_led (fun asks : p.Asks => led_errands asks s) fun idle =>
    errands_of_idle idle s).alike

theorem next_congr (p : FeedPages) (h : s.Alike t) :
    (p.next s).1 = (p.next t).1 ∧ (p.next s).2.1 = (p.next t).2.1 ∧
      besideLoads (p.errands s) = besideLoads (p.errands t) := by
  by_cases full : p.atCap = true
  · rw [next_of_atCap full, next_of_atCap full, errands, errands, if_pos full, if_pos full]
    exact ⟨rfl, rfl, rfl⟩
  · have free := eq_false_of_ne_true full
    cases more : p.nextPath with
    | none =>
      rw [next_of_end free more, next_of_end free more]
      simp [errands, more]
    | some path =>
      have errands (s : Service) : p.errands s = s.withMetadata (.page path (s.pageAnswer path)) := by
        simp [errands, free, more]
      rw [next_of_path free more, next_of_path free more, fetchPage_eq, fetchPage_eq, errands, errands,
        h.pageAnswer, h.besideLoads_withMetadata]
      cases t.pageAnswer path <;> exact ⟨rfl, rfl, rfl⟩

end FeedPages

namespace Query

theorem collect_congr (steps : Nat) (p : FeedPages) (q : Query) (h : s.Alike t) :
    (collect steps p q s).1 = (collect steps p q t).1 ∧
      (collect steps p q s).2.1 = (collect steps p q t).2.1 ∧
      besideLoads (collectErrands steps p s) = besideLoads (collectErrands steps p t) := by
  induction steps generalizing p q s t with
  | zero => exact ⟨rfl, rfl, rfl⟩
  | succ steps ih =>
    obtain ⟨outcome, pages, errands⟩ := p.next_congr h
    have after := (p.alike_next s).symm.trans (h.trans (p.alike_next t))
    rw [collect, collect, collectErrands, collectErrands, besideLoads_append, besideLoads_append, errands]
    rcases next : p.next s with ⟨o, p', s'⟩
    rcases next' : p.next t with ⟨o', p'', t'⟩
    rw [next, next'] at outcome pages after
    obtain rfl : o = o' := outcome
    obtain rfl : p' = p'' := pages
    rcases o with (_ | page) | _ | _
    · exact ⟨rfl, rfl, rfl⟩
    · obtain ⟨outcome, query, errands⟩ := ih p' (q.receive page) after
      exact ⟨outcome, query, congrArg _ errands⟩
    · exact ⟨rfl, rfl, rfl⟩
    · exact ⟨rfl, rfl, rfl⟩

theorem execute_congr (q : Query) (h : s.Alike t) :
    (q.execute s).1 = (q.execute t).1 ∧ (q.execute s).2.1 = (q.execute t).2.1 ∧
      besideLoads (q.errands s) = besideLoads (q.errands t) := by
  by_cases built : q.state = .built
  · have steps : q.enoughSteps s = q.enoughSteps t := by rw [enoughSteps, enoughSteps, h.replies]
    rw [execute_of_built built, execute_of_built built, errands_of_built built, errands_of_built built, steps]
    exact collect_congr _ _ _ h
  · rw [errands_of_run built, errands_of_run built]
    cases state : q.state with
    | built => exact absurd state built
    | executing | done | failed => simp only [execute, state, and_self]

end Query

namespace Lookup

theorem answer_congr (l : Lookup) (h : s.Alike t) : l.answer s = l.answer t := by
  have query (plan : QueryPlan) := plan.query.execute_congr h
  cases l with
  | metadata | entityTypes | entityType => simp only [answer, h.metadata]
  | collections | collectionNames | collection => simp only [answer, h.collectionsAnswer]
  | entity | entityOf => simp only [answer, h.collectionsAnswer, h.getAnswer]
  | entities plan => simp only [answer, (query plan).1, (query plan).2.1]
  | firstEntity plan => simp only [answer, (query _).1, (query _).2.1]

theorem besideLoads_congr (l : Lookup) (h : s.Alike t) :
    besideLoads (l.errands s) = besideLoads (l.errands t) := by
  cases l with
  | metadata | entityTypes | entityType =>
    exact s.besideLoads_metadataErrands.trans t.besideLoads_metadataErrands.symm
  | collections | collectionNames | collection => simp only [errands, h.collectionsAnswer]
  | entity href key => exact h.besideLoads_getErrands href key
  | entityOf name key =>
    simp only [errands, h.collectionsAnswer, h.offered?]
    cases t.offered? name with
    | none => rfl
    | some c => exact congrArg (_ :: ·) (h.besideLoads_getErrands c.href key)
  | entities plan => exact (plan.query.execute_congr h).2.2
  | firstEntity plan => exact ((plan.limited.capped 1).query.execute_congr h).2.2

theorem needs_congr (l : Lookup) (h : s.Alike t) : l.Needs s ↔ l.Needs t := by
  cases l with
  | entityOf => simp only [Needs, h.offered?]
  | _ => exact Iff.rfl

end Lookup

end AtomData
