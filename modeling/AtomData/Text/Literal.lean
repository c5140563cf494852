/-!
# Quoted literals

A literal stands between apostrophes, and an apostrophe inside it is written twice.
-/

namespace AtomData.Text.Literal

/-- Writes every apostrophe twice. -/
def double : List Char → List Char
  | [] => []
  | c :: s => if c = '\'' then '\'' :: '\'' :: double s else c :: double s

def quote (s : String) : String :=
  String.ofList ('\'' :: double s.toList ++ ['\''])

end AtomData.Text.Literal
