import AtomData.Query.Plan

/-!
# Sessions

A session works on one service and keeps queries and page iterations under names, the two apart.
Each action is taken on the state that the actions before it left, and between two actions the
replies of the transport may change.
-/

namespace AtomData

structure Session where
  service : Service
  queries : Table Query := .empty
  iterations : Table FeedPages := .empty

inductive Lookup where
  | metadata
  | entityTypes
  | entityType (name : String)
  | collections
  | collectionNames
  | collection (name : String)
  | entity (href : String) (key : EntityKey)
  | entityOf (collection : String) (key : EntityKey)
  | entities (plan : QueryPlan)
  | firstEntity (plan : QueryPlan)

inductive Demand where
  | run
  | count
  | isEmpty
  | entityAt (index : Nat)
  | first
  | last
  | all
  deriving DecidableEq, Repr

inductive Action where
  | setReply (url : String) (reply : Reply)
  | requests
  | requestCount (url : String)
  | describe
  | ask (lookup : Lookup)
  | openQuery (name : String) (plan : QueryPlan)
  | openPages (name : String) (plan : QueryPlan)
  | nextPage (name : String)
  | demand (name : String) (demand : Demand)
  | received (name : String)
  | take (name : String)

inductive Answer where
  | done
  | truth (b : Bool)
  | number (n : Nat)
  | text (s : String)
  | texts (ss : List String)
  | metadata (m : Metadata)
  | entityType (t : Option EntityType)
  | collections (cs : List CollectionInfo)
  | collection (c : Option CollectionInfo)
  | noCollection
  | entity (e : Option Entity)
  | entities (es : List Entity)
  | page (p : Option Page)

/-- The call behind a lookup.  An entity of a collection that the service does not offer is not
looked for. -/
def Lookup.call : Lookup → Call Answer
  | metadata => return .metadata (← Service.metadata)
  | entityTypes => return .texts ((← Service.entityTypes).map EntityType.fullName)
  | entityType name => return .entityType (← Service.entityType? name)
  | collections => return .collections (← Service.collections)
  | collectionNames => return .texts (← Service.collectionNames)
  | collection name => return .collection (← Service.findCollection? name)
  | entity href key => return .entity (← Service.get? href key)
  | entityOf name key => do
    match ← Service.findCollection? name with
    | none => return .noCollection
    | some c => return .entity (← Service.get? c.href key)
  | entities plan => return .entities (← plan.execute)
  | firstEntity plan => return .entity (← plan.first)

def Demand.view : Demand → List Entity → Answer
  | run, _ => .done
  | count, es => .number es.length
  | isEmpty, es => .truth es.isEmpty
  | entityAt index, es => .entity es[index]?
  | first, es => .entity es.head?
  | last, es => .entity es.getLast?
  | all, es => .entities es

namespace Session

def requests (s : Session) : List String := s.service.transport.requests

def tell (s : Session) (a : Answer) : Option (Outcome Answer × Session) := some (.ok a, s)

/-- Takes one action.  There is no outcome if nothing is kept under the name.  A query that is
taken is gone, whatever its run comes to. -/
def step (s : Session) : Action → Option (Outcome Answer × Session)
  | .setReply url reply =>
    let service := { s.service with transport := s.service.transport.setReply url reply }
    some (.ok .done, { s with service })
  | .requests => s.tell (.texts s.requests)
  | .requestCount url => s.tell (.number (s.service.transport.requestCount url))
  | .describe => s.tell (.text s.service.description)
  | .ask lookup =>
    let (outcome, service) := lookup.call s.service
    some (outcome, { s with service })
  | .openQuery name plan => some (.ok .done, { s with queries := s.queries.set name plan.query })
  | .openPages name plan =>
    some (.ok .done, { s with iterations := s.iterations.set name plan.pages })
  | .nextPage name => do
    let pages ← s.iterations.get? name
    let (outcome, pages, service) := pages.next s.service
    return (outcome.map .page, { s with service, iterations := s.iterations.set name pages })
  | .demand name demand => do
    let q ← s.queries.get? name
    let (outcome, q, service) := q.ask demand.view s.service
    return (outcome, { s with service, queries := s.queries.set name q })
  | .received name => do
    let q ← s.queries.get? name
    s.tell (.entities q.entities)
  | .take name => do
    let q ← s.queries.get? name
    let (outcome, service) := q.all s.service
    return (outcome.map .entities, { s with service, queries := s.queries.erase name })

end Session
end AtomData
