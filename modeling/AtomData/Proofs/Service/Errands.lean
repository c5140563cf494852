import AtomData.Proofs.Service.Requests

/-!
# Errands of a service

A call runs errands: for the metadata, for the list of collections, for a page, for an entity.  An errand
knows its path and what came of it, so a list of errands tells what a call requested and what the service
remembers after it.  `collections_eq`, `getEntity_eq` and `fetchPage_eq` say so of one call each.
-/

namespace AtomData

inductive Errand where
  | metadata (came : Outcome Metadata)
  | collections (came : Outcome (List CollectionInfo))
  | page (path : String) (came : Outcome Page)
  | entity (path : String) (came : Outcome (Option Entity))

namespace Errand

def path : Errand → String
  | metadata _ => Service.metadataPath
  | collections _ => "/"
  | page path _ => path
  | entity path _ => path

def isLoad : Errand → Bool
  | metadata _ => true
  | _ => false

def remember (before : Option Metadata) : Errand → Option Metadata
  | metadata came => came.result?
  | _ => before

def entities : Errand → List Entity
  | page _ (.ok p) => p.entities
  | entity _ (.ok (some e)) => [e]
  | _ => []

theorem entities_page_of_none {path : String} {came : Outcome Page} (failed : came.result? = none) :
    entities (.page path came) = [] := by
  cases came with
  | ok => cases failed
  | error => rfl
  | pending => rfl

theorem entities_entity_of_none {path : String} {came : Outcome (Option Entity)}
    (failed : came.result? = none) : entities (.entity path came) = [] := by
  cases came with
  | ok => cases failed
  | error => rfl
  | pending => rfl

end Errand

/-- A call that could not go on without something ends as the attempt to get that did. -/
def Outcome.Follows {α β : Type} (o : Outcome α) : Outcome β → Prop
  | ok _ => True
  | error e => o = error e
  | pending => o = pending

namespace Outcome

variable {α β γ : Type} {o : Outcome α} {load : Outcome β}

theorem follows_andThen (load : Outcome β) (f : β → Outcome α) : (load.andThen f).Follows load := by
  cases load <;> trivial

theorem Follows.map (h : o.Follows load) (f : α → γ) : (o.map f).Follows load := by
  cases load with
  | ok => trivial
  | error e => exact congrArg (Outcome.map f) h
  | pending => exact congrArg (Outcome.map f) h

theorem Follows.trans {mid : Outcome γ} (h : o.Follows mid) (first : mid.Follows load) :
    o.Follows load := by
  cases load with
  | ok => trivial
  | error e =>
    obtain rfl : mid = .error e := first
    exact h
  | pending =>
    obtain rfl : mid = .pending := first
    exact h

theorem Follows.result {a : α} (h : o.Follows load) (back : o = .ok a) : ∃ b, load = .ok b := by
  subst back
  cases load with
  | ok b => exact ⟨b, rfl⟩
  | error e => cases h
  | pending => cases h

theorem result?_andThen_of_none (failed : load.result? = none) (f : β → Outcome α) :
    (load.andThen f).result? = none := by
  cases load with
  | ok => cases failed
  | error => rfl
  | pending => rfl

end Outcome

namespace Call

variable {α β : Type}

theorem map_eq {c : Call α} {s t : Service} {o : Outcome α} (f : α → β) (came : c s = (o, t)) :
    (c >>= fun a => pure (f a)) s = (o.map f, t) := by
  rw [bind_eq came]
  cases o <;> rfl

end Call

namespace Service

def carry (s : Service) (es : List Errand) : Service :=
  { s.recording (es.map fun e => s.urlFor e.path) with loaded := es.foldl Errand.remember s.loaded }

@[simp] theorem carry_nil (s : Service) : s.carry [] = s := by
  simp [carry]

theorem carry_append (s : Service) (es more : List Errand) :
    s.carry (es ++ more) = (s.carry es).carry more := by
  simp only [carry, recording, List.map_append, List.append_assoc, List.foldl_append]
  rfl

/-! ### What is fetched -/

def collectionsAnswer (s : Service) : Outcome (List CollectionInfo) :=
  (s.documentAt "/").andThen fun body => .ofExcept ((readServiceDocument body).mapError .document)

def pageAt (s : Service) (m : Metadata) (path : String) : Outcome Page :=
  (s.documentAt path).andThen fun body => .ofExcept (Page.ofText m s.coercions body)

def responseAt (s : Service) (path : String) : Outcome Response :=
  match s.transport.reply? (s.urlFor path) with
  | some (.answer r) => .ok r
  | some .silence => .pending
  | none => .error (.request (.noResponse (s.urlFor path)))

def entityAt (s : Service) (m : Metadata) (path : String) : Outcome (Option Entity) :=
  (s.responseAt path).andThen fun r =>
    if r.isNotFound then .ok none
    else if r.isSuccess then .ofExcept ((Entity.ofText m s.coercions r.body).map some)
    else .error (.request (.status r.status r.body))

def entityAnswer (s : Service) (path : String) : Outcome (Option Entity) :=
  s.metadataAnswer.andThen fun m => s.entityAt m path

def getAnswer (s : Service) (href : String) (key : EntityKey) : Outcome (Option Entity) :=
  match key.path? href with
  | .ok path => s.entityAnswer path
  | .error e => .error (.key e)

end Service

/-- What it brings is read with metadata that are remembered. -/
def Errand.ReadWith (s : Service) (remembered : Option Metadata) : Errand → Prop
  | page path came => ∃ m, remembered = some m ∧ came = s.pageAt m path
  | entity path came => ∃ m, remembered = some m ∧ came = s.entityAt m path
  | _ => True

theorem Errand.ReadWith.mono {e : Errand} {s : Service} {before after : Option Metadata}
    (h : e.ReadWith s before) (kept : ∀ m, before = some m → after = some m) : e.ReadWith s after := by
  cases e with
  | metadata => trivial
  | collections => trivial
  | page path came =>
    obtain ⟨m, remembered, read⟩ := h
    exact ⟨m, kept m remembered, read⟩
  | entity path came =>
    obtain ⟨m, remembered, read⟩ := h
    exact ⟨m, kept m remembered, read⟩

namespace Service

/-! ### The errands of a call -/

def metadataErrands (s : Service) : List Errand :=
  if s.loaded.isSome then [] else [.metadata s.metadataAnswer]

/-- An errand that needs metadata comes after them, and not at all without them. -/
def withMetadata (s : Service) (e : Errand) : List Errand :=
  s.metadataErrands ++ if s.metadataAnswer.result?.isSome then [e] else []

def getErrands (s : Service) (href : String) (key : EntityKey) : List Errand :=
  match key.path? href with
  | .ok path => s.withMetadata (.entity path (s.entityAnswer path))
  | .error _ => []

/-- Errands that need metadata: these are loaded first unless they are remembered, and the rest is read
with them, or left if they cannot be had. -/
def Led (s : Service) (es : List Errand) : Prop :=
  ∃ rest, es = s.metadataErrands ++ rest ∧ (s.metadataAnswer.result? = none → rest = []) ∧
    ∀ e ∈ rest, e.isLoad = false ∧ e.ReadWith s s.metadataAnswer.result?

theorem carry_metadataErrands (s : Service) : s.carry s.metadataErrands = s.afterMetadata := by
  cases remembered : s.loaded with
  | none =>
    simp only [metadataErrands, afterMetadata, metadataRequests, remembered]
    rfl
  | some m =>
    rw [afterMetadata_of_loaded remembered]
    simp [metadataErrands, remembered]

theorem carry_withMetadata_of_failed {s : Service} (failed : s.metadataAnswer.result? = none)
    (e : Errand) : s.carry (s.withMetadata e) = s.afterMetadata := by
  rw [withMetadata, failed]
  exact (congrArg s.carry (List.append_nil _)).trans s.carry_metadataErrands

theorem carry_withMetadata {s : Service} {m : Metadata} {e : Errand} (had : s.metadataAnswer = .ok m)
    (other : e.isLoad = false) :
    s.carry (s.withMetadata e) = s.afterMetadata.recording [s.urlFor e.path] := by
  rw [withMetadata, had, carry_append, carry_metadataErrands]
  cases e with
  | metadata => cases other
  | collections => rfl
  | page => rfl
  | entity => rfl

theorem foldl_remember {es : List Errand} (others : ∀ e ∈ es, e.isLoad = false)
    (before : Option Metadata) : es.foldl Errand.remember before = before := by
  induction es generalizing before with
  | nil => rfl
  | cons e es ih =>
    rw [List.forall_mem_cons] at others
    have same : Errand.remember before e = before := by
      cases e with
      | metadata => cases others.1
      | collections => rfl
      | page => rfl
      | entity => rfl
    rw [List.foldl_cons, same]
    exact ih others.2 before

theorem loaded_carry_of_others {es : List Errand} (others : ∀ e ∈ es, e.isLoad = false) (s : Service) :
    (s.carry es).loaded = s.loaded := foldl_remember others s.loaded

theorem metadataErrands_of_loaded {s : Service} {m : Metadata} (remembered : s.loaded = some m) :
    s.metadataErrands = [] := by
  simp [metadataErrands, remembered]

theorem Led.loaded {s : Service} {es : List Errand} (h : s.Led es) :
    (s.carry es).loaded = s.metadataAnswer.result? := by
  obtain ⟨rest, rfl, -, others⟩ := h
  rw [carry_append, loaded_carry_of_others fun e mem => (others e mem).1, carry_metadataErrands]
  rfl

theorem Led.of_loaded {s : Service} {m : Metadata} {es : List Errand} (h : s.Led es)
    (remembered : s.loaded = some m) : ∀ e ∈ es, e.isLoad = false ∧ e.ReadWith s (some m) := by
  obtain ⟨rest, rfl, -, others⟩ := h
  rw [metadataAnswer_of_loaded remembered] at others
  rw [metadataErrands_of_loaded remembered]
  exact others

theorem Led.readWith {s : Service} {es : List Errand} (h : s.Led es) :
    ∀ e ∈ es, e.ReadWith s s.metadataAnswer.result? := by
  obtain ⟨rest, rfl, -, others⟩ := h
  rw [List.forall_mem_append]
  refine ⟨fun e mem => ?_, fun e mem => (others e mem).2⟩
  unfold metadataErrands at mem
  split at mem
  · cases mem
  · obtain rfl := List.mem_singleton.mp mem
    trivial

theorem Led.append {s : Service} {es more : List Errand} (h : s.Led es)
    (failed : s.metadataAnswer.result? = none → more = [])
    (others : ∀ e ∈ more, e.isLoad = false ∧ e.ReadWith s s.metadataAnswer.result?) :
    s.Led (es ++ more) := by
  obtain ⟨rest, rfl, none, read⟩ := h
  refine ⟨rest ++ more, List.append_assoc .., fun fail => ?_, fun e mem => ?_⟩
  · rw [none fail, failed fail, List.append_nil]
  · exact (List.mem_append.mp mem).elim (read e) (others e)

theorem led_metadataErrands (s : Service) : s.Led s.metadataErrands :=
  ⟨[], (List.append_nil _).symm, fun _ => rfl, by simp⟩

theorem led_withMetadata {s : Service} {e : Errand} (other : e.isLoad = false)
    (read : ∀ m, s.metadataAnswer = .ok m → e.ReadWith s (some m)) : s.Led (s.withMetadata e) := by
  refine ⟨_, rfl, ?_⟩
  cases had : s.metadataAnswer.result? with
  | none => simp
  | some m => simpa using ⟨other, read m (Outcome.result?_eq_some_iff.mp had)⟩

theorem led_page (s : Service) (path : String) :
    s.Led (s.withMetadata (.page path (s.pageAnswer path))) := by
  refine led_withMetadata rfl fun m had => ⟨m, rfl, ?_⟩
  rw [pageAnswer, had]
  rfl

theorem led_entity (s : Service) (path : String) :
    s.Led (s.withMetadata (.entity path (s.entityAnswer path))) := by
  refine led_withMetadata rfl fun m had => ⟨m, rfl, ?_⟩
  rw [entityAnswer, had]
  rfl

theorem entities_withMetadata {s : Service} {e : Errand}
    (failed : s.metadataAnswer.result? = none → e.entities = []) :
    (s.withMetadata e).flatMap Errand.entities = e.entities := by
  have none : s.metadataErrands.flatMap Errand.entities = [] := by
    unfold metadataErrands
    split <;> rfl
  rw [withMetadata, List.flatMap_append, none, List.nil_append]
  cases had : s.metadataAnswer.result? with
  | none => rw [failed had]; rfl
  | some m => simp

theorem collections_eq (s : Service) :
    collections s = (s.collectionsAnswer, s.carry [.collections s.collectionsAnswer]) := by
  rw [collections, Call.bind_eq (fetchDocument_eq s "/"), collectionsAnswer]
  cases s.documentAt "/" <;> rfl

theorem fetch_eq (s : Service) (path : String) :
    fetch path s = (s.responseAt path, s.recording [s.urlFor path]) := by
  unfold fetch request responseAt
  cases s.transport.reply? (s.urlFor path) with
  | none => rfl
  | some reply => cases reply <;> rfl

theorem readEntity_eq (s : Service) (m : Metadata) (body : String) :
    (Call.asks coercions >>= fun coercions => do
      let e ← Call.ofExcept (Entity.ofText m coercions body)
      return some e) s = (.ofExcept ((Entity.ofText m s.coercions body).map some), s) := by
  refine (Call.map_eq some (show Call.ofExcept (Entity.ofText m s.coercions body) s = _ from rfl)).trans ?_
  cases Entity.ofText m s.coercions body <;> rfl

theorem ofExcept_path {key : EntityKey} {href path : String} (written : key.path? href = .ok path)
    (s : Service) : Call.ofExcept ((key.path? href).mapError .key) s = (.ok path, s) := by
  rw [written]
  rfl

theorem getEntity_of_metadata {s : Service} {m : Metadata} {href path : String} {key : EntityKey}
    (written : key.path? href = .ok path) (had : s.metadataAnswer = .ok m) :
    get? href key s = (s.entityAt m path, s.afterMetadata.recording [s.urlFor path]) := by
  have fetched : fetch path s.afterMetadata =
      (s.responseAt path, s.afterMetadata.recording [s.urlFor path]) := fetch_eq s.afterMetadata path
  rw [get?, Call.bind_eq (ofExcept_path written s)]
  dsimp only
  rw [Call.bind_eq (metadata_eq s), had]
  dsimp only
  rw [Call.bind_eq fetched, entityAt]
  cases s.responseAt path with
  | error e => rfl
  | pending => rfl
  | ok r =>
    dsimp only [Outcome.andThen]
    cases missing : r.isNotFound with
    | true => rfl
    | false =>
      cases success : r.isSuccess with
      | false => rfl
      | true => exact readEntity_eq _ m r.body

theorem getEntity_of_no_metadata {s : Service} {href path : String} {key : EntityKey}
    (written : key.path? href = .ok path) (failed : s.metadataAnswer.result? = none) :
    get? href key s = (s.entityAnswer path, s.afterMetadata) := by
  rw [get?, Call.bind_eq (ofExcept_path written s)]
  dsimp only
  rw [Call.bind_eq (metadata_eq s), entityAnswer]
  cases had : s.metadataAnswer with
  | ok m => rw [had] at failed; cases failed
  | error e => rfl
  | pending => rfl

theorem getEntity_eq (s : Service) (href : String) (key : EntityKey) :
    get? href key s = (s.getAnswer href key, s.carry (s.getErrands href key)) := by
  cases written : key.path? href with
  | error e =>
    have refused : Call.ofExcept ((key.path? href).mapError .key) s = (.error (.key e), s) := by
      rw [written]
      rfl
    simp only [getAnswer, getErrands, written, carry_nil]
    rw [get?, Call.bind_eq refused]
  | ok path =>
    simp only [getAnswer, getErrands, written]
    cases had : s.metadataAnswer.result? with
    | none => rw [getEntity_of_no_metadata written had, carry_withMetadata_of_failed had]
    | some m =>
      have had := Outcome.result?_eq_some_iff.mp had
      have answer : s.entityAnswer path = s.entityAt m path := by rw [entityAnswer, had]; rfl
      rw [getEntity_of_metadata written had, carry_withMetadata had rfl, answer]
      rfl

end Service

theorem FeedPages.fetchPage_eq (path : String) (s : Service) :
    fetchPage path s = (s.pageAnswer path, s.carry (s.withMetadata (.page path (s.pageAnswer path)))) := by
  cases had : s.metadataAnswer.result? with
  | none => rw [FeedPages.fetchPage_of_no_metadata path had, Service.carry_withMetadata_of_failed had]
  | some m =>
    have had := Outcome.result?_eq_some_iff.mp had
    rw [FeedPages.fetchPage_of_metadata path had, Service.carry_withMetadata had rfl]
    rfl

end AtomData
