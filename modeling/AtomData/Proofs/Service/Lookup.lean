import AtomData.Proofs.Service.Errands
import AtomData.Proofs.Url

/-!
# Looking an entity up by its key

What becomes of a look-up, case by case, and which requests it sends.  Only a status of the entity itself
says that there is none: `get?_decided` tells this apart from everything that can go wrong before.
-/

namespace AtomData

namespace Service

variable {s : Service} {href path url : String} {key : EntityKey} {m : Metadata}

/-- What the reply at the address of an entity says of it, read with the metadata. -/
inductive Tells (s : Service) (m : Metadata) (url : String) : Outcome (Option Entity) → Prop
  | missing {r : Response} (answered : s.transport.reply? url = some (.answer r))
      (absent : r.status = 404) : Tells s m url (.ok none)
  | refused {r : Response} (answered : s.transport.reply? url = some (.answer r))
      (other : r.status ≠ 404) (outside : ¬(200 ≤ r.status ∧ r.status < 300)) :
      Tells s m url (.error (.request (.status r.status r.body)))
  | found {r : Response} {e : Entity} (answered : s.transport.reply? url = some (.answer r))
      (success : 200 ≤ r.status ∧ r.status < 300)
      (read : Entity.ofText m s.coercions r.body = .ok e) : Tells s m url (.ok (some e))
  | unreadable {r : Response} {err : Error} (answered : s.transport.reply? url = some (.answer r))
      (success : 200 ≤ r.status ∧ r.status < 300)
      (failed : Entity.ofText m s.coercions r.body = .error err) : Tells s m url (.error err)
  | unanswered (none : s.transport.reply? url = none) : Tells s m url (.error (.request (.noResponse url)))
  | silent (waits : s.transport.reply? url = some .silence) : Tells s m url .pending

/-- How a look-up ends, and the service that it leaves. -/
inductive Finds (s : Service) (href : String) (key : EntityKey) : Outcome (Option Entity) → Service → Prop
  | unwritable {e : KeyError} (fault : key.path? href = .error e) : Finds s href key (.error (.key e)) s
  | unloaded {path : String} {e : Error} {t : Service} (written : key.path? href = .ok path)
      (failed : metadata s = (.error e, t)) : Finds s href key (.error e) t
  | loading {path : String} {t : Service} (written : key.path? href = .ok path)
      (waits : metadata s = (.pending, t)) : Finds s href key .pending t
  | told {path : String} {m : Metadata} {t : Service} {o : Outcome (Option Entity)}
      (written : key.path? href = .ok path) (had : metadata s = (.ok m, t))
      (tells : Tells s m (s.urlFor path) o) : Finds s href key o (t.recording [s.urlFor path])

/-! ### The entity's own reply -/

theorem entityAt_of_answer {r : Response} (answered : s.transport.reply? (s.urlFor path) = some (.answer r)) :
    s.entityAt m path =
      if r.status = 404 then .ok none
      else if 200 ≤ r.status ∧ r.status < 300 then .ofExcept ((Entity.ofText m s.coercions r.body).map some)
      else .error (.request (.status r.status r.body)) := by
  rw [entityAt, responseAt, answered]
  simp [Outcome.andThen, Response.isNotFound, Response.isSuccess]

theorem tells_entityAt (s : Service) (m : Metadata) (path : String) :
    Tells s m (s.urlFor path) (s.entityAt m path) := by
  cases reply : s.transport.reply? (s.urlFor path) with
  | none =>
    rw [entityAt, responseAt, reply]
    exact .unanswered reply
  | some answered =>
    cases answered with
    | silence =>
      rw [entityAt, responseAt, reply]
      exact .silent reply
    | answer r =>
      rw [entityAt_of_answer reply]
      by_cases absent : r.status = 404
      · rw [if_pos absent]
        exact .missing reply absent
      · rw [if_neg absent]
        by_cases success : 200 ≤ r.status ∧ r.status < 300
        · rw [if_pos success]
          cases read : Entity.ofText m s.coercions r.body with
          | ok e => exact .found reply success read
          | error err => exact .unreadable reply success read
        · rw [if_neg success]
          exact .refused reply absent success

theorem Tells.entityAt_eq {o : Outcome (Option Entity)} (h : Tells s m (s.urlFor path) o) :
    s.entityAt m path = o := by
  cases h with
  | missing answered absent => rw [entityAt_of_answer answered, if_pos absent]
  | refused answered other outside => rw [entityAt_of_answer answered, if_neg other, if_neg outside]
  | found answered success read =>
    rw [entityAt_of_answer answered, if_neg (by omega), if_pos success, read]
    rfl
  | unreadable answered success failed =>
    rw [entityAt_of_answer answered, if_neg (by omega), if_pos success, failed]
    rfl
  | unanswered none =>
    rw [entityAt, responseAt, none]
    rfl
  | silent waits =>
    rw [entityAt, responseAt, waits]
    rfl

/-! ### The whole look-up -/

theorem get?_of_fault {e : KeyError} (fault : key.path? href = .error e) :
    get? href key s = (.error (.key e), s) := by
  simp only [getEntity_eq, getAnswer, getErrands, fault, carry_nil]

theorem finds_get? (s : Service) (href : String) (key : EntityKey) :
    Finds s href key (get? href key s).1 (get? href key s).2 := by
  cases written : key.path? href with
  | error e =>
    rw [get?_of_fault written]
    exact .unwritable written
  | ok path =>
    cases had : s.metadataAnswer with
    | ok m =>
      rw [getEntity_of_metadata written had]
      exact .told written (by rw [metadata_eq, had]) (tells_entityAt s m path)
    | error e =>
      rw [getEntity_of_no_metadata written (by rw [had]; rfl), entityAnswer, had]
      exact .unloaded written (by rw [metadata_eq, had])
    | pending =>
      rw [getEntity_of_no_metadata written (by rw [had]; rfl), entityAnswer, had]
      exact .loading written (by rw [metadata_eq, had])

theorem Finds.get?_eq {o : Outcome (Option Entity)} {t : Service} (h : Finds s href key o t) :
    get? href key s = (o, t) := by
  cases h with
  | unwritable fault => exact get?_of_fault fault
  | unloaded written failed =>
    obtain ⟨had, rfl⟩ := Prod.mk.inj ((metadata_eq s).symm.trans failed)
    rw [getEntity_of_no_metadata written (by rw [had]; rfl), entityAnswer, had]
    rfl
  | loading written waits =>
    obtain ⟨had, rfl⟩ := Prod.mk.inj ((metadata_eq s).symm.trans waits)
    rw [getEntity_of_no_metadata written (by rw [had]; rfl), entityAnswer, had]
    rfl
  | told written loaded tells =>
    obtain ⟨had, rfl⟩ := Prod.mk.inj ((metadata_eq s).symm.trans loaded)
    rw [getEntity_of_metadata written had, tells.entityAt_eq]

/-! ### The address of the entity -/

theorem urlFor_ends {c : Char} {front : List Char} (s : Service) (ends : path.toList = front ++ [c])
    (mark : c ≠ '/') : (s.urlFor path).toList.getLast? = some c := by
  rw [urlFor]
  split
  · rw [ends, List.getLast?_concat]
  · rw [Url.combine, String.toList_ofList, ends, Text.dropWhile_append_of_not (by simpa using mark),
      ← List.cons_append, ← List.append_assoc]
    exact List.getLast?_concat

theorem path?_ends (written : key.path? href = .ok path) : ∃ front, path.toList = front ++ [')'] := by
  rw [EntityKey.path?] at written
  cases text : key.text? with
  | error e =>
    rw [text] at written
    cases written
  | ok text' =>
    rw [text] at written
    obtain rfl := Except.ok.inj written
    exact ⟨href.toList ++ '(' :: text', String.toList_ofList⟩

theorem urlFor_ne_metadata (s : Service) (written : key.path? href = .ok path) :
    s.urlFor path ≠ s.urlFor metadataPath := by
  intro same
  obtain ⟨front, ends⟩ := path?_ends written
  have entity := s.urlFor_ends ends (by decide)
  have document : metadataPath.toList = "$metadat".toList ++ ['a'] := by decide
  rw [same, s.urlFor_ends document (by decide)] at entity
  cases entity

theorem count_metadataRequests (s : Service) (written : key.path? href = .ok path) :
    s.metadataRequests.count (s.urlFor path) = 0 := by
  rw [metadataRequests, List.count_eq_zero]
  split
  · exact List.not_mem_nil
  · rw [List.mem_singleton]
    exact s.urlFor_ne_metadata written

theorem requestCount_get? (written : key.path? href = .ok path) :
    (get? href key s).2.transport.requestCount (s.urlFor path) =
      s.transport.requestCount (s.urlFor path) + if s.metadataAnswer.result?.isSome then 1 else 0 := by
  have others := s.count_metadataRequests written
  cases had : s.metadataAnswer.result? with
  | none =>
    rw [getEntity_of_no_metadata written had]
    simp [Transport.requestCount, recording, afterMetadata, others]
  | some m =>
    rw [getEntity_of_metadata written (Outcome.result?_eq_some_iff.mp had)]
    simp [Transport.requestCount, recording, afterMetadata, others]

/-- A look-up ends in one of the ways of `Finds`.  The entity is requested once if its key can be written
and the metadata are there, and otherwise not at all.  There is no such entity just if the request for it,
and not that for the metadata, is answered with the status 404. -/
theorem get?_decided (s : Service) (href : String) (key : EntityKey) :
    (∀ o t, get? href key s = (o, t) ↔ Finds s href key o t) ∧
    (∀ path, key.path? href = .ok path →
      s.urlFor path ≠ s.urlFor metadataPath ∧
      (get? href key s).2.transport.requestCount (s.urlFor path) =
        s.transport.requestCount (s.urlFor path) + if (metadata s).1.result?.isSome then 1 else 0) ∧
    ((get? href key s).1 = .ok none ↔
      ∃ path m r, key.path? href = .ok path ∧ (metadata s).1 = .ok m ∧
        s.transport.reply? (s.urlFor path) = some (.answer r) ∧ r.status = 404) ∧
    ∀ path r, key.path? href = .ok path → s.loaded = none →
      s.transport.reply? (s.urlFor metadataPath) = some (.answer r) → r.status = 404 →
      get? href key s = (.error (.request (.status 404 r.body)), s.recording [s.urlFor metadataPath]) := by
  have finds := finds_get? s href key
  refine ⟨fun o t => ⟨?_, Finds.get?_eq⟩, ?_, ⟨?_, ?_⟩, ?_⟩
  · intro came
    rwa [came] at finds
  · intro path written
    rw [metadata_eq]
    exact ⟨s.urlFor_ne_metadata written, requestCount_get? written⟩
  · intro absent
    rw [absent] at finds
    generalize (get? href key s).2 = t at finds
    cases finds with
    | told written had tells =>
      cases tells with
      | missing answered absent => exact ⟨_, _, _, written, by rw [had], answered, absent⟩
  · rintro ⟨path, m, r, written, had, answered, absent⟩
    have loaded : metadata s = (.ok m, (metadata s).2) := by rw [← had]
    rw [(Finds.told written loaded (.missing answered absent)).get?_eq]
  · intro path r written forgotten answered absent
    have refused : s.metadataAnswer = .error (.request (.status 404 r.body)) := by
      rw [metadataAnswer, forgotten, documentAt, answered]
      simp [Response.isSuccess, absent, Outcome.andThen]
    have none : s.metadataAnswer.result? = none := by
      rw [refused]
      rfl
    have requests : s.metadataRequests = [s.urlFor metadataPath] := by
      rw [metadataRequests, forgotten]
      rfl
    rw [getEntity_of_no_metadata written none, entityAnswer, refused, afterMetadata_of_failed none, requests]
    rfl

end Service

end AtomData
