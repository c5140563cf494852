import AtomData.Query.Pages

/-!
# Requests of a service

What documents, metadata and pages a service gives, read off its replies without sending anything,
and what asking for them leaves behind: requests in the record, and metadata that are remembered.
-/

namespace AtomData

namespace Outcome

variable {α β : Type}

def andThen (o : Outcome α) (f : α → Outcome β) : Outcome β :=
  match o with
  | ok a => f a
  | error e => error e
  | pending => pending

def result? : Outcome α → Option α
  | ok a => some a
  | error _ => none
  | pending => none

theorem result?_eq_some_iff {o : Outcome α} {a : α} : o.result? = some a ↔ o = ok a := by
  cases o <;> simp [result?]

end Outcome

/-- Once the first call has come to something, that decides how the second goes on. -/
theorem Call.bind_eq {α β : Type} {c : Call α} {s t : Service} {o : Outcome α} {f : α → Call β} :
    c s = (o, t) → (c >>= f) s =
      match o with
      | .ok a => f a t
      | .error e => (.error e, t)
      | .pending => (.pending, t) := by
  intro h
  change Call.bind c f s = _
  rw [Call.bind, h]
  cases o <;> rfl

namespace Service

def recording (s : Service) (urls : List String) : Service :=
  { s with transport := { s.transport with requests := s.transport.requests ++ urls } }

def documentAt (s : Service) (path : String) : Outcome String :=
  match s.transport.reply? (s.urlFor path) with
  | some (.answer r) => if r.isSuccess then .ok r.body else .error (.request (.status r.status r.body))
  | some .silence => .pending
  | none => .error (.request (.noResponse (s.urlFor path)))

/-- The metadata that are remembered, or else those that the metadata document describes. -/
def metadataAnswer (s : Service) : Outcome Metadata :=
  match s.loaded with
  | some m => .ok m
  | none => (s.documentAt metadataPath).andThen fun body => .ofExcept (Metadata.ofText s.policy body)

def metadataRequests (s : Service) : List String :=
  if s.loaded.isSome then [] else [s.urlFor metadataPath]

def afterMetadata (s : Service) : Service :=
  { s.recording s.metadataRequests with loaded := s.metadataAnswer.result? }

def pageAnswer (s : Service) (path : String) : Outcome Page :=
  s.metadataAnswer.andThen fun m =>
    (s.documentAt path).andThen fun body => .ofExcept (Page.ofText m s.coercions body)

@[simp] theorem recording_nil (s : Service) : s.recording [] = s := by
  simp [recording]

@[simp] theorem recording_recording (s : Service) (urls more : List String) :
    (s.recording urls).recording more = s.recording (urls ++ more) := by
  simp [recording]

/-! ### Metadata and pages -/

theorem loaded_afterMetadata (s : Service) : s.afterMetadata.loaded = s.metadataAnswer.result? := rfl

theorem loaded_afterMetadata_of_ok {s : Service} {m : Metadata} (had : s.metadataAnswer = .ok m) :
    s.afterMetadata.loaded = some m := by
  rw [loaded_afterMetadata, had]
  rfl

theorem metadataAnswer_of_loaded {s : Service} {m : Metadata} (remembered : s.loaded = some m) :
    s.metadataAnswer = .ok m := by
  rw [metadataAnswer, remembered]

theorem pageAnswer_afterMetadata {s : Service} {m : Metadata} (had : s.metadataAnswer = .ok m) :
    s.afterMetadata.pageAnswer = s.pageAnswer := by
  have again := metadataAnswer_of_loaded (loaded_afterMetadata_of_ok had)
  funext path
  rw [pageAnswer, pageAnswer, again, had]
  rfl

theorem afterMetadata_of_loaded {s : Service} {m : Metadata} (remembered : s.loaded = some m) :
    s.afterMetadata = s := by
  have none : s.metadataRequests = [] := by simp [metadataRequests, remembered]
  have same : s.metadataAnswer.result? = s.loaded := by
    rw [metadataAnswer_of_loaded remembered, remembered]
    rfl
  rw [afterMetadata, none, recording_nil, same]

/-- One reply decides a page, whatever path led to its address. -/
theorem pageAnswer_congr {s : Service} {path other : String} (same : s.urlFor path = s.urlFor other) :
    s.pageAnswer path = s.pageAnswer other := by
  rw [pageAnswer, pageAnswer, documentAt, documentAt, same]

theorem urlFor_mem_of_pageAnswer {s : Service} {path : String} {page : Page}
    (arrives : s.pageAnswer path = .ok page) : s.urlFor path ∈ s.transport.replies.names := by
  cases reply : s.transport.reply? (s.urlFor path) with
  | some _ => exact Table.mem_names_of_get? reply
  | none =>
    rw [pageAnswer, documentAt, reply] at arrives
    cases had : s.metadataAnswer <;> simp [had, Outcome.andThen] at arrives

/-! ### Calls -/

theorem fetchDocument_eq (s : Service) (path : String) :
    fetchDocument path s = (s.documentAt path, s.recording [s.urlFor path]) := by
  change Call.bind (fetch path) _ s = _
  unfold Call.bind fetch request documentAt
  cases s.transport.reply? (s.urlFor path) with
  | none => rfl
  | some reply =>
    cases reply with
    | silence => rfl
    | answer r =>
      dsimp only
      split <;> rfl

theorem afterMetadata_of_failed {s : Service} (failed : s.metadataAnswer.result? = none) :
    s.afterMetadata = s.recording s.metadataRequests := by
  have forgotten : s.loaded = none := by
    cases remembered : s.loaded with
    | none => rfl
    | some m =>
      rw [metadataAnswer, remembered] at failed
      cases failed
  rw [afterMetadata, failed, ← forgotten]
  rfl

theorem load_eq {s : Service} (forgotten : s.loaded = none) :
    load s = (s.metadataAnswer, s.afterMetadata) := by
  have requests : s.metadataRequests = [s.urlFor metadataPath] := by
    simp [metadataRequests, forgotten]
  have answer : s.metadataAnswer = (s.documentAt metadataPath).andThen fun body =>
      .ofExcept (Metadata.ofText s.policy body) := by
    rw [metadataAnswer, forgotten]
  rw [load, Call.bind_eq (fetchDocument_eq s metadataPath)]
  cases document : s.documentAt metadataPath with
  | error e =>
    rw [document] at answer
    rw [afterMetadata_of_failed (by rw [answer]; rfl), answer, requests]
    rfl
  | pending =>
    rw [document] at answer
    rw [afterMetadata_of_failed (by rw [answer]; rfl), answer, requests]
    rfl
  | ok body =>
    rw [document, Outcome.andThen] at answer
    have described : Call.ofExcept (Metadata.ofText s.policy body) (s.recording s.metadataRequests) =
        (s.metadataAnswer, s.recording s.metadataRequests) := by
      rw [answer]
      rfl
    rw [requests] at described
    refine (Call.bind_eq described).trans ?_
    cases had : s.metadataAnswer with
    | ok m => rw [afterMetadata, had, requests]; rfl
    | error e => rw [afterMetadata_of_failed (by rw [had]; rfl), requests]
    | pending => rw [afterMetadata_of_failed (by rw [had]; rfl), requests]

theorem metadata_eq (s : Service) : metadata s = (s.metadataAnswer, s.afterMetadata) := by
  cases remembered : s.loaded with
  | some m => rw [afterMetadata_of_loaded remembered, metadata, metadataAnswer, remembered]
  | none =>
    rw [metadata, remembered]
    exact load_eq remembered

end Service

theorem FeedPages.fetchPage_of_metadata {s : Service} {m : Metadata} (path : String)
    (had : s.metadataAnswer = .ok m) :
    fetchPage path s = (s.pageAnswer path, s.afterMetadata.recording [s.urlFor path]) := by
  have fetched : Service.fetchDocument path s.afterMetadata =
      (s.documentAt path, s.afterMetadata.recording [s.urlFor path]) :=
    Service.fetchDocument_eq s.afterMetadata path
  rw [fetchPage, Call.bind_eq (Service.metadata_eq s), had]
  dsimp only
  rw [Call.bind_eq fetched, Service.pageAnswer, had]
  cases s.documentAt path <;> rfl

theorem FeedPages.fetchPage_of_no_metadata {s : Service} (path : String)
    (failed : s.metadataAnswer.result? = none) :
    fetchPage path s = (s.pageAnswer path, s.afterMetadata) := by
  rw [fetchPage, Call.bind_eq (Service.metadata_eq s), Service.pageAnswer]
  cases had : s.metadataAnswer with
  | ok m => rw [had] at failed; cases failed
  | error e => rfl
  | pending => rfl

end AtomData
