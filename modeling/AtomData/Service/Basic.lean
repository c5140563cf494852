import AtomData.Feed.Entry
import AtomData.Feed.ServiceDocument
import AtomData.Schema.Document
import AtomData.Service.Transport
import AtomData.Url

/-!
# Services

A service has a root address, and remembers its metadata once they have been loaded.  A call on a
service sends requests one after another; it ends with a result or an error, or it never comes back
because a request is not answered.
-/

namespace AtomData

structure Service where
  root : String
  policy : BaseTypePolicy
  coercions : CoercionRegistry
  transport : Transport
  loaded : Option Metadata := none

inductive Outcome (α : Type) where
  | ok (a : α)
  | error (e : Error)
  | pending

namespace Outcome

def map {α β : Type} (f : α → β) : Outcome α → Outcome β
  | ok a => ok (f a)
  | error e => error e
  | pending => pending

def ofExcept {α : Type} : Except Error α → Outcome α
  | .ok a => ok a
  | .error e => error e

end Outcome

def Call (α : Type) : Type := Service → Outcome α × Service

namespace Call

def pure {α : Type} (a : α) : Call α := fun s => (.ok a, s)

/-- The first call that does not end with a result ends the whole. -/
def bind {α β : Type} (c : Call α) (f : α → Call β) : Call β := fun s =>
  match c s with
  | (.ok a, s) => f a s
  | (.error e, s) => (.error e, s)
  | (.pending, s) => (.pending, s)

instance : Monad Call where
  pure := Call.pure
  bind := Call.bind

def ofExcept {α : Type} (r : Except Error α) : Call α := fun s => (.ofExcept r, s)

def fail {α : Type} (e : Error) : Call α := fun s => (.error e, s)

def asks {α : Type} (f : Service → α) : Call α := fun s => (.ok (f s), s)

end Call

namespace Service

def open? (root : String) (policy : BaseTypePolicy) (coercions : CoercionRegistry)
    (transport : Transport) : Except RequestError Service :=
  match Url.check root with
  | .ok () => .ok { root, policy, coercions, transport }
  | .error reason => .error (.invalidRoot root reason)

/-- The address of a path: an absolute address as it is, and anything else below the root. -/
def urlFor (s : Service) (path : String) : String :=
  if Url.isAbsolute path then path else Url.combine s.root path

def description (s : Service) : String :=
  let policy := match s.policy with
    | .strict => "Strict"
    | .lenient => "Lenient"
  "ODataService \x7b root: " ++ Text.Quoted.quote s.root ++ ", metadata_loaded: " ++
    Value.boolText s.loaded.isSome ++ ", base_type_policy: " ++ policy ++ " \x7d"

def request (url : String) : Call Response := fun s =>
  let recorded := { s with transport := s.transport.record url }
  match s.transport.reply? url with
  | some (.answer r) => (.ok r, recorded)
  | some .silence => (.pending, recorded)
  | none => (.error (.request (.noResponse url)), recorded)

def fetch (path : String) : Call Response := fun s => request (s.urlFor path) s

/-- The document at a path; any status but success is an error. -/
def fetchDocument (path : String) : Call String := do
  let r ← fetch path
  if r.isSuccess then return r.body
  else Call.fail (.request (.status r.status r.body))

def metadataPath : String := "$metadata"

def load : Call Metadata := do
  let body ← fetchDocument metadataPath
  let m ← fun s => Call.ofExcept (Metadata.ofText s.policy body) s
  fun s => (.ok m, { s with loaded := some m })

def metadata : Call Metadata := fun s =>
  match s.loaded with
  | some m => (.ok m, s)
  | none => load s

def entityTypes : Call (List EntityType) := do
  return (← metadata).entityTypes

def entityType? (name : String) : Call (Option EntityType) := do
  return (← metadata).entityType? name

def collections : Call (List CollectionInfo) := do
  let body ← fetchDocument "/"
  Call.ofExcept ((readServiceDocument body).mapError .document)

def collectionNames : Call (List String) := do
  return (← collections).map CollectionInfo.name

def findCollection? (name : String) : Call (Option CollectionInfo) := do
  return (← collections).find? fun c => c.name = name

/-- The entity of a collection that has the key, if there is one.  A key that cannot be written
fails before anything is requested, and no entity is requested before the metadata are there. -/
def get? (href : String) (key : EntityKey) : Call (Option Entity) := do
  let path ← Call.ofExcept ((key.path? href).mapError .key)
  let m ← metadata
  let r ← fetch path
  if r.isNotFound then return none
  if !r.isSuccess then Call.fail (.request (.status r.status r.body))
  else
    let coercions ← Call.asks Service.coercions
    let e ← Call.ofExcept (Entity.ofText m coercions r.body)
    return some e

end Service
end AtomData
