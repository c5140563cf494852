import AtomData.Query.Pages

/-!
# Queries

A query fetches all its pages the first time that something is asked of it, and answers from the
entities that it holds from then on.  A run that was abandoned or failed is not repeated.
-/

namespace AtomData

inductive QueryState where
  | built
  | executing
  | done
  | failed (message : String)
  deriving DecidableEq, Repr

structure Query where
  path : String
  maxPages : Option Nat
  state : QueryState := .built
  entities : List Entity := []
  totalCount : Option Nat := none
  pagesFetched : Nat := 0

namespace Query

def receive (q : Query) (page : Page) : Query :=
  { q with
    totalCount := if q.pagesFetched = 0 then page.totalCount else q.totalCount
    pagesFetched := q.pagesFetched + 1
    entities := q.entities ++ page.entities }

/-- Receives pages until there are no more, but asks for at most `steps`.  A run that needs more
steps has not come back yet. -/
def collect : (steps : Nat) → FeedPages → Query → Service → Outcome Unit × Query × Service
  | 0, _, q, s => (.pending, q, s)
  | steps + 1, pages, q, s =>
    match pages.next s with
    | (.ok none, _, s) => (.ok (), { q with state := .done }, s)
    | (.ok (some page), pages, s) => collect steps pages (q.receive page) s
    | (.error e, _, s) => (.error e, { q with state := .failed e.message }, s)
    | (.pending, _, s) => (.pending, q, s)

/-- Enough steps for every run that comes back.  A capped run asks once more than its cap.  An
uncapped one that receives more pages than there are replies has met one of them twice, and then
goes round for ever. -/
def enoughSteps (q : Query) (s : Service) : Nat :=
  match q.maxPages with
  | some most => most + 1
  | none => s.transport.replies.size + 2

def interrupted : String := "execution was interrupted before completing"

/-- Runs a query that was only built.  One that is found executing was abandoned and fails. -/
def execute (q : Query) (s : Service) : Outcome Unit × Query × Service :=
  match q.state with
  | .done => (.ok (), q, s)
  | .failed message => (.error (.failedEarlier message), q, s)
  | .executing => (.error (.failedEarlier interrupted), { q with state := .failed interrupted }, s)
  | .built =>
    collect (q.enoughSteps s) (FeedPages.start q.path q.maxPages) { q with state := .executing } s

def ask {α : Type} (view : List Entity → α) (q : Query) (s : Service) :
    Outcome α × Query × Service :=
  let (outcome, q, s) := q.execute s
  (outcome.map fun () => view q.entities, q, s)

def all (q : Query) : Call (List Entity) := fun s =>
  let (outcome, _, s) := q.ask id s
  (outcome, s)

end Query
end AtomData
