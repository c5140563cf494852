/-!
# Decimal digits

Whole numbers in decimal text.  Reading takes at most one sign and then ASCII digits, nothing
else.  `natural?_naturalText` shows that a written number reads back.
-/

namespace AtomData.Text

-- A power of whole numbers is the core library's, whatever other libraries are at hand.
attribute [instance (high), default_instance 20000] instPowNat

def digitsValue (s : List Char) : Nat := Nat.ofDigitChars 10 s 0

def natural? (s : List Char) : Option Nat :=
  if s ≠ [] ∧ s.all Char.isDigit then some (digitsValue s) else none

/-- Digits after at most one plus sign. -/
def unsigned? : List Char → Option Nat
  | '+' :: s => natural? s
  | s => natural? s

def integer? : List Char → Option Int
  | '-' :: s => (natural? s).map fun n => -(n : Int)
  | s => (unsigned? s).map Int.ofNat

def naturalText (n : Nat) : List Char := Nat.toDigits 10 n

def integerText (n : Int) : List Char :=
  if n < 0 then '-' :: naturalText n.natAbs else naturalText n.natAbs

/-- At least `width` digits, filled with zeros on the left. -/
def paddedText (width n : Nat) : List Char :=
  let s := naturalText n
  List.replicate (width - s.length) '0' ++ s

def spanDigits (s : List Char) : List Char × List Char :=
  (s.takeWhile Char.isDigit, s.dropWhile Char.isDigit)

theorem naturalText_ne_nil (n : Nat) : naturalText n ≠ [] := by
  intro h
  have := Nat.length_toDigits_pos (b := 10) (n := n)
  simp_all [naturalText]

theorem isDigit_of_mem_naturalText {n : Nat} {c : Char} (h : c ∈ naturalText n) :
    c.isDigit = true :=
  Nat.isDigit_of_mem_toDigits (by decide) (by decide) h

theorem natural?_naturalText (n : Nat) : natural? (naturalText n) = some n := by
  have hd : (naturalText n).all Char.isDigit = true :=
    List.all_eq_true.2 fun c hc => isDigit_of_mem_naturalText hc
  rw [natural?, if_pos ⟨naturalText_ne_nil n, hd⟩, digitsValue, naturalText,
    Nat.ofDigitChars_toDigits (by decide) (by decide)]

end AtomData.Text
