import AtomData.Value

/-!
# Filters

Predicates on properties and the chains they form.  In a chain every filter carries the word that
joins it to the text before it; the first filter's word is not written.
-/

namespace AtomData

inductive Comparison where
  | eq | ne | gt | ge | lt | le
  deriving DecidableEq, Repr

def Comparison.text : Comparison → String
  | eq => "eq"
  | ne => "ne"
  | gt => "gt"
  | ge => "ge"
  | lt => "lt"
  | le => "le"

inductive StringTest where
  | startsWith | endsWith | contains
  deriving DecidableEq, Repr

inductive Predicate where
  | raw (text : String)
  | compare (property : String) (op : Comparison) (value : Value)
  | test (property : String) (op : StringTest) (value : Value)
  deriving DecidableEq

/-- The text of a predicate.  A test for an inner string names the string before the property. -/
def Predicate.text : Predicate → String
  | raw text => text
  | compare property op value => property ++ " " ++ op.text ++ " " ++ value.literal
  | test property .startsWith value =>
    "startswith(" ++ property ++ ", " ++ value.literal ++ ") eq true"
  | test property .endsWith value =>
    "endswith(" ++ property ++ ", " ++ value.literal ++ ") eq true"
  | test property .contains value =>
    "substringof(" ++ value.literal ++ ", " ++ property ++ ") eq true"

inductive Joiner where
  | and | or
  deriving DecidableEq, Repr

def Joiner.text : Joiner → String
  | and => " and "
  | or => " or "

structure Filter where
  joiner : Joiner
  predicate : Predicate
  deriving DecidableEq

structure FilterChain where
  filters : List Filter
  deriving DecidableEq

namespace FilterChain

def empty : FilterChain := ⟨[]⟩

def push (c : FilterChain) (f : Filter) : FilterChain := ⟨c.filters ++ [f]⟩

def ofList (fs : List Filter) : FilterChain := fs.foldl push empty

def tailText (fs : List Filter) : String :=
  fs.foldr (fun f rest => f.joiner.text ++ f.predicate.text ++ rest) ""

def text : FilterChain → String
  | ⟨[]⟩ => ""
  | ⟨f :: fs⟩ => f.predicate.text ++ tailText fs

theorem filters_push (c : FilterChain) (f : Filter) : (c.push f).filters = c.filters ++ [f] := rfl

theorem ofList_filters (fs : List Filter) : (ofList fs).filters = fs := by
  suffices h : ∀ (fs : List Filter) (c : FilterChain),
      (fs.foldl push c).filters = c.filters ++ fs by
    simpa [ofList, empty] using h fs empty
  intro fs
  induction fs with
  | nil => simp
  | cons f fs ih => intro c; simp [ih, filters_push]

end FilterChain
end AtomData
