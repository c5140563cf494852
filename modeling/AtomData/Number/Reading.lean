import AtomData.Number.Binary64
import AtomData.Text.Digits

/-!
# Floating-point text

Reading a floating-point number: an optional sign, then digits with at most one point and an
optional exponent, or one of the words for infinity and for no number in any case.
-/

namespace AtomData.Binary64

/-- A decimal numeral: the digits on both sides of the point, and the power of ten. -/
structure Numeral where
  whole : List Char
  fraction : List Char
  exponent : Int

def exponent? : List Char → Option Int
  | [] => some 0
  | c :: s => if c = 'e' ∨ c = 'E' then Text.integer? s else none

/-- Digits with at most one point and at least one digit, then an optional exponent. -/
def numeral? (s : List Char) : Option Numeral :=
  let (whole, rest) := Text.spanDigits s
  let (fraction, rest) :=
    match rest with
    | '.' :: t => Text.spanDigits t
    | t => ([], t)
  if whole.isEmpty && fraction.isEmpty then none
  else (exponent? rest).map fun e => ⟨whole, fraction, e⟩

/-- The value of a numeral.  An exponent beyond the range of the format for any digits of that
length is brought within it first, so that no huge power is ever computed. -/
def Numeral.round (format : Format) (negative : Bool) (n : Numeral) : Binary64 :=
  let digits := Text.digitsValue (n.whole ++ n.fraction)
  let exponent := n.exponent - n.fraction.length
  let bound : Int := 400 + n.whole.length + n.fraction.length
  let e := max (-bound) (min bound exponent)
  Binary64.round format negative (digits * 10 ^ e.toNat) (10 ^ (-e).toNat) 0

def word? (negative : Bool) (s : List Char) : Option Binary64 :=
  let w := s.map Char.toLower
  if w = "inf".toList ∨ w = "infinity".toList then some (infinite negative)
  else if w = "nan".toList then some nan
  else none

def unsigned? (format : Format) (negative : Bool) (s : List Char) : Option Binary64 :=
  match numeral? s with
  | some n => some (n.round format negative)
  | none => word? negative s

def ofText? (format : Format) : List Char → Option Binary64
  | '-' :: s => unsigned? format true s
  | '+' :: s => unsigned? format false s
  | s => unsigned? format false s

end AtomData.Binary64
