import AtomData.Feed.Page
import AtomData.Service.Basic

/-!
# Page iteration

Fetching a feed page by page.  The path of the next page is taken before its request is sent, so a
page that fails or never arrives ends the iteration.
-/

namespace AtomData

structure FeedPages where
  nextPath : Option String
  maxPages : Option Nat
  fetched : Nat := 0
  deriving DecidableEq, Repr

namespace FeedPages

def start (path : String) (maxPages : Option Nat) : FeedPages := ⟨some path, maxPages, 0⟩

def atCap (p : FeedPages) : Bool := p.maxPages.any fun most => most ≤ p.fetched

def fetchPage (path : String) : Call Page := do
  let m ← Service.metadata
  let body ← Service.fetchDocument path
  let coercions ← Call.asks Service.coercions
  Call.ofExcept (Page.ofText m coercions body)

def next (p : FeedPages) (s : Service) : Outcome (Option Page) × FeedPages × Service :=
  let taken := { p with nextPath := none }
  if p.atCap then (.ok none, taken, s)
  else
    match p.nextPath with
    | none => (.ok none, p, s)
    | some path =>
      match fetchPage path s with
      | (.ok page, s) =>
        (.ok (some page), { p with nextPath := page.nextLink, fetched := p.fetched + 1 }, s)
      | (.error e, s) => (.error e, taken, s)
      | (.pending, s) => (.pending, taken, s)

end FeedPages
end AtomData
