import AtomData.Text.Digits

/-!
# Labels in ASCII

A label with characters beyond ASCII has a spelling in letters and digits: its ASCII characters, a
hyphen, and a run of numbers that say which further characters stand where.  Each number is the
distance from one character to the next, counted through all places of the label and then through
all code points, in digits whose weights follow the size of the numbers so far.
-/

namespace AtomData.Host.Punycode

def base : Nat := 36

def firstBias : Nat := 72

def firstCode : Nat := 0x80

def limit : Nat := 2 ^ 32

/-- Letters of either case for the values up to 25, and then the decimal digits. -/
def digit? (c : Char) : Option Nat :=
  if 'a' ≤ c ∧ c ≤ 'z' then some (c.toNat - 97)
  else if 'A' ≤ c ∧ c ≤ 'Z' then some (c.toNat - 65)
  else if '0' ≤ c ∧ c ≤ '9' then some (c.toNat - 48 + 26)
  else none

def threshold (bias place : Nat) : Nat := min 26 (max 1 (place - bias))

/-- Divides a distance until it is small: what is left, and 36 for each division.  Of a distance
below the limit, `steps` divisions are enough. -/
def shrink : (steps : Nat) → Nat → Nat × Nat
  | 0, n => (n, 0)
  | steps + 1, n =>
    if 455 < n then
      let (rest, bias) := shrink steps (n / 35)
      (rest, bias + base)
    else (n, 0)

/-- The bias behind a number, which was the distance to one of `places` places. -/
def adapt (distance places : Nat) (first : Bool) : Nat :=
  let scaled := if first then distance / 700 else distance / 2
  let (rest, bias) := shrink 7 (scaled + scaled / places)
  bias + base * rest / (rest + 38)

/-- Adds the number at the front of a text to a sum.  `place` counts digits in steps of 36, and
`weight` is that of the next digit. -/
def addNumber? (bias place weight sum : Nat) : List Char → Option (Nat × List Char)
  | [] => none
  | c :: s => do
    let digit ← digit? c
    let sum := sum + digit * weight
    let t := threshold bias place
    let next := weight * (base - t)
    if limit ≤ sum then none
    else if digit < t then return (sum, s)
    else if limit ≤ next then none
    else addNumber? bias (place + base) next sum s

/-- Inserts the characters given by the numbers of a text, of which there are at most `bound`.  The
next one has a code from `code` on, and stands at `index` or behind it if it has that code. -/
def insertAll? (bias code index : Nat) (label : List Char) :
    (bound : Nat) → List Char → Option (List Char)
  | _, [] => some label
  | 0, _ => none
  | bound + 1, s => do
    let (sum, rest) ← addNumber? bias base 1 index s
    let places := label.length + 1
    let code := code + sum / places
    let place := sum % places
    if code.isValidChar then
      insertAll? (adapt (sum - index) places (index == 0)) code (place + 1)
        (label.insertIdx place (Char.ofNat code)) bound rest
    else none

/-- The label with a spelling in ASCII.  The last hyphen, which has something in front of it,
separates the ASCII characters from the numbers. -/
def decode? (s : List Char) : Option (List Char) :=
  let numbers := (s.reverse.takeWhile (· != '-')).reverse
  let known := s.take (s.length - numbers.length - 1)
  if numbers.length = s.length then insertAll? firstBias firstCode 0 [] s.length s
  else if known.isEmpty then none
  else insertAll? firstBias firstCode 0 known s.length numbers

end AtomData.Host.Punycode
