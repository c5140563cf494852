import AtomData.Query.Filter

/-!
# Query options

The options of a query in the order in which they were given.  All filters share one filter option,
which stands where the first of them was given.
-/

namespace AtomData

inductive QueryOption where
  | top (n : Nat)
  | skip (n : Nat)
  | select (names : List String)
  | orderBy (names : List String)
  | expand (names : List String)
  | inlineCount (allPages : Bool)
  | filter (chain : FilterChain)
  deriving DecidableEq

def QueryOption.key : QueryOption → String
  | top _ => "$top"
  | skip _ => "$skip"
  | select _ => "$select"
  | orderBy _ => "$orderby"
  | expand _ => "$expand"
  | inlineCount _ => "$inlinecount"
  | filter _ => "$filter"

structure QueryOptions where
  toList : List QueryOption
  deriving DecidableEq

namespace QueryOptions

def empty : QueryOptions := ⟨[]⟩

/-- Adds a filter to the first filter option, or puts a new filter option at the end. -/
def addFilter (f : Filter) : List QueryOption → List QueryOption
  | [] => [.filter (FilterChain.empty.push f)]
  | .filter chain :: options => .filter (chain.push f) :: options
  | option :: options => option :: addFilter f options

def pushFilter (options : QueryOptions) (f : Filter) : QueryOptions :=
  ⟨addFilter f options.toList⟩

/-- Adds an option at the end.  The filters of a filter option are added one by one. -/
def push (options : QueryOptions) : QueryOption → QueryOptions
  | .filter chain => chain.filters.foldl pushFilter options
  | option => ⟨options.toList ++ [option]⟩

def hasTop (options : QueryOptions) : Bool :=
  options.toList.any fun
    | .top _ => true
    | _ => false

end QueryOptions
end AtomData
