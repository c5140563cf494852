import AtomData.Query.Path
import AtomData.Query.Run

/-!
# Query plans

What to ask of a collection: options added one at a time, and a cap on the number of pages.  A plan
becomes a query, a page iteration, or a call.
-/

namespace AtomData

structure QueryPlan where
  href : String
  options : QueryOptions := .empty
  maxPages : Option Nat := none
  deriving DecidableEq

namespace QueryPlan

def ofHref (href : String) : QueryPlan := { href }

def withOption (p : QueryPlan) (option : QueryOption) : QueryPlan :=
  { p with options := p.options.push option }

def top (p : QueryPlan) (n : Nat) : QueryPlan := p.withOption (.top n)

def skip (p : QueryPlan) (n : Nat) : QueryPlan := p.withOption (.skip n)

def select (p : QueryPlan) (names : List String) : QueryPlan := p.withOption (.select names)

def orderBy (p : QueryPlan) (names : List String) : QueryPlan := p.withOption (.orderBy names)

def expand (p : QueryPlan) (names : List String) : QueryPlan := p.withOption (.expand names)

def inlineCount (p : QueryPlan) (allPages : Bool) : QueryPlan :=
  p.withOption (.inlineCount allPages)

def filter (p : QueryPlan) (joiner : Joiner) (predicate : Predicate) : QueryPlan :=
  { p with options := p.options.pushFilter ⟨joiner, predicate⟩ }

def capped (p : QueryPlan) (n : Nat) : QueryPlan := { p with maxPages := some n }

def path (p : QueryPlan) : String := p.options.path p.href

def query (p : QueryPlan) : Query := { path := p.path, maxPages := p.maxPages }

def pages (p : QueryPlan) : FeedPages := .start p.path p.maxPages

def execute (p : QueryPlan) : Call (List Entity) := p.query.all

def limited (p : QueryPlan) : QueryPlan := if p.options.hasTop then p else p.top 1

/-- The first entity, from the first page alone. -/
def first (p : QueryPlan) : Call (Option Entity) := do
  return (← (p.limited.capped 1).execute).head?

end QueryPlan
end AtomData
