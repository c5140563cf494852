import AtomData.Text.Pieces

/-!
# Scanners

A scanner reads a value off the front of a text and leaves the rest, or refuses the text.
-/

namespace AtomData.Text

abbrev Scanner := StateT (List Char) Option

namespace Scanner

def one (p : Char → Bool) : Scanner Char
  | c :: s => if p c then some (c, s) else none
  | [] => none

def symbol (c : Char) : Scanner Unit
  | d :: s => if d = c then some ((), s) else none
  | [] => none

def word (w : String) : Scanner Unit := fun s => (after? w.toList s).map fun rest => ((), rest)

def longest (p : Char → Bool) : Scanner (List Char) := fun s => some (s.takeWhile p, s.dropWhile p)

/-- Does the text go on with the given one?  Nothing is read. -/
def at? (w : String) : Scanner Bool := fun s => some ((after? w.toList s).isSome, s)

def skipWord (w : String) : Scanner Bool := fun s =>
  match after? w.toList s with
  | some rest => some (true, rest)
  | none => some (false, s)

/-- Everything before the first occurrence of a text, which is read as well. -/
def upTo (stop : String) : Scanner (List Char)
  | [] => none
  | c :: s =>
    match after? stop.toList (c :: s) with
    | some rest => some ([], rest)
    | none => do
      let (before, rest) ← upTo stop s
      return (c :: before, rest)

def require (condition : Bool) : Scanner Unit := fun s => if condition then some ((), s) else none

def whole? {α : Type} (scanner : Scanner α) (s : List Char) : Option α :=
  match scanner s with
  | some (a, []) => some a
  | _ => none

end Scanner
end AtomData.Text
