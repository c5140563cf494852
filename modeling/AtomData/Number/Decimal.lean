import AtomData.Text.Digits

/-!
# Decimal numbers

A decimal number is a magnitude below 2^96 over a power of ten of at most 28, with a sign.  The
power is kept as written, so `1.50` and `1.5` are different values.  A zero written out has no
sign; one that is left when a negative number is rounded away keeps it.
-/

namespace AtomData

structure Decimal where
  negative : Bool
  magnitude : Nat
  scale : Nat
  magnitude_lt : magnitude < 2 ^ 96
  scale_le : scale ≤ 28
  deriving DecidableEq

namespace Decimal

def greatestScale : Nat := 28

def ofParts? (negative : Bool) (magnitude scale : Nat) : Option Decimal :=
  if h : magnitude < 2 ^ 96 ∧ scale ≤ greatestScale then
    some ⟨negative, magnitude, scale, h.1, h.2⟩
  else none

theorem ofParts?_eq_some (d : Decimal) : ofParts? d.negative d.magnitude d.scale = some d :=
  dif_pos ⟨d.magnitude_lt, d.scale_le⟩

def text (d : Decimal) : List Char :=
  let digits := Text.paddedText (d.scale + 1) d.magnitude
  let whole := digits.take (digits.length - d.scale)
  let fraction := digits.drop (digits.length - d.scale)
  let unsigned := if d.scale = 0 then whole else whole ++ '.' :: fraction
  if d.negative then '-' :: unsigned else unsigned

/-! ### Reading -/

/-- What has been read of a plain decimal: its digits as a number, whether the point was met, and
how many digits followed it. -/
structure Progress where
  digits : Nat := 0
  anyDigit : Bool := false
  pointSeen : Bool := false
  scale : Nat := 0

/-- Gives the digits read so far the sign of the text, unless they are all zero. -/
def Progress.finish (negative : Bool) (p : Progress) : Option Decimal :=
  if p.anyDigit then ofParts? (negative && p.digits != 0) p.digits p.scale else none

/-- One more in the last place.  Should the digits then be too many, the last one goes. -/
def Progress.roundUp (negative : Bool) (p : Progress) : Option Decimal :=
  let digits := p.digits + 1
  if digits < 2 ^ 96 then { p with digits }.finish negative
  else if p.scale = 0 then none
  else { p with digits := (digits + 4) / 10, scale := p.scale - 1 }.finish negative

/-- Rounds by the digits that no longer fit: the first of them decides, and five or more rounds
up.  Nothing but digits and underscores may stand there. -/
def Progress.round (negative : Bool) (p : Progress) (surplus : List Char) : Option Decimal :=
  if surplus.all fun c => c.isDigit || c == '_' then
    match surplus.find? Char.isDigit with
    | some c => if '5' ≤ c then p.roundUp negative else p.finish negative
    | none => p.finish negative
  else none

/-- Reads the rest of a plain decimal.  Underscores may stand anywhere after the first digit.
Once 28 digits follow the point, or the next digit no longer fits behind it, all that is left only
rounds. -/
def Progress.read (negative : Bool) (p : Progress) : List Char → Option Decimal
  | [] => p.finish negative
  | c :: s =>
    if p.pointSeen && p.scale == greatestScale then p.round negative (c :: s)
    else if c.isDigit then
      let digits := 10 * p.digits + (c.toNat - 48)
      if digits < 2 ^ 96 then
        read negative
          { p with digits, anyDigit := true, scale := if p.pointSeen then p.scale + 1 else 0 } s
      else if p.pointSeen then p.round negative (c :: s)
      else none
    else if c = '.' && !p.pointSeen then read negative { p with pointSeen := true } s
    else if c = '_' && p.anyDigit then read negative p s
    else none

def plain? : List Char → Option Decimal
  | '-' :: s => Progress.read true {} s
  | '+' :: s => Progress.read false {} s
  | s => Progress.read false {} s

/-- Moves the point to the left.  Digits that come to stand behind the last place are rounded
off, a half away from zero. -/
def shiftDown? (d : Decimal) (places : Nat) : Option Decimal :=
  let surplus := d.scale + places - greatestScale
  let magnitude := (d.magnitude + 10 ^ surplus / 2) / 10 ^ surplus
  ofParts? d.negative magnitude (d.scale + places - surplus)

/-- Moves the point to the right, and multiplies by what the fraction digits cannot absorb. -/
def shiftUp? (d : Decimal) (places : Nat) : Option Decimal :=
  if places ≤ d.scale then ofParts? d.negative d.magnitude (d.scale - places)
  else ofParts? d.negative (d.magnitude * 10 ^ (places - d.scale)) 0

/-- Moves the point of a number by the power of ten written in `exponent`, which is at most 28
either way. -/
def shift? (d : Decimal) : List Char → Option Decimal
  | '-' :: s => do
    let n ← Text.unsigned? s
    if n ≤ greatestScale then d.shiftDown? n else none
  | s => do
    let n ← Text.unsigned? s
    if n ≤ greatestScale then d.shiftUp? n else none

def isExponentMark (c : Char) : Bool := c == 'e' || c == 'E'

def scientific? (s : List Char) : Option Decimal :=
  match s.dropWhile (fun c => !isExponentMark c) with
  | [] => none
  | _ :: exponent => do
    let d ← plain? (s.takeWhile fun c => !isExponentMark c)
    shift? d exponent

def ofText? (s : List Char) : Option Decimal :=
  match plain? s with
  | some d => some d
  | none => scientific? s

end Decimal
end AtomData
