import AtomData.Number.Binary64
import AtomData.Text.Digits

/-!
# Shortest decimal text of a floating-point number

The fewest digits that read back as the same number, written without an exponent.  The digits are
found by trying one digit, two digits, and so on: on each decimal grid the two neighbours of the
exact value are tested against the interval of reals that round to it.
-/

namespace AtomData

/-- The decimal `digits * 10 ^ exponent`. -/
structure Scientific where
  digits : Nat
  exponent : Int
  deriving DecidableEq, Repr

namespace Scientific

def compareDyadic (d : Scientific) (m : Nat) (e : Int) : Ordering :=
  compare (d.digits * 10 ^ d.exponent.toNat * 2 ^ (-e).toNat)
    (m * 2 ^ e.toNat * 10 ^ (-d.exponent).toNat)

/-- Does the decimal round to `m * 2 ^ e`?  The ends of the interval belong to it when `m` is
even, and below a power of two the lower half is half as wide. -/
def readsBack (m : Nat) (e : Int) (d : Scientific) : Bool :=
  let narrow := m == 2 ^ 52 && e > Binary64.double.leastExponent
  let lower := d.compareDyadic (if narrow then 4 * m - 1 else 4 * m - 2) (e - 2)
  let upper := d.compareDyadic (4 * m + 2) (e - 2)
  let closed := m % 2 == 0
  (lower == .gt || (closed && lower == .eq)) && (upper == .lt || (closed && upper == .eq))

/-- The least `k` with `m * 2 ^ e < 10 ^ k`, searched upward from a low estimate. -/
def magnitude (m : Nat) (e : Int) : Int :=
  let estimate : Int := ((m.log2 : Int) + e) * 30103 / 100000 - 1
  let candidates := (List.range 4).map fun (i : Nat) => estimate + (i : Int)
  (candidates.find? fun k => (Scientific.mk 1 k).compareDyadic m e == .gt).getD (estimate + 4)

/-- The better of the two neighbours of `m * 2 ^ e` on the grid of `10 ^ exponent`, if either
reads back; of two that do, the nearer, and the upper one when they are equally near. -/
def onGrid? (m : Nat) (e : Int) (exponent : Int) : Option Scientific :=
  let num := m * 2 ^ e.toNat * 10 ^ (-exponent).toNat
  let den := 2 ^ (-e).toNat * 10 ^ exponent.toNat
  let low : Scientific := ⟨num / den, exponent⟩
  let high : Scientific := ⟨num / den + 1, exponent⟩
  match readsBack m e low, readsBack m e high with
  | true, true => some (if 2 * (num % den) < den then low else high)
  | true, false => some low
  | false, true => some high
  | false, false => none

def strip (d : Scientific) : Scientific :=
  let zeros := ((Text.naturalText d.digits).reverse.takeWhile (· == '0')).length
  ⟨d.digits / 10 ^ zeros, d.exponent + zeros⟩

/-- The shortest decimal that rounds to `m * 2 ^ e`, for positive `m`.  Seventeen digits always
suffice; the exact value stands in should none be found. -/
def shortest (m : Nat) (e : Int) : Scientific :=
  let k := magnitude m e
  let grids := (List.range 17).map fun (i : Nat) => k - 1 - (i : Int)
  let found := grids.findSome? fun g => onGrid? m e g
  strip (found.getD ⟨m * 2 ^ e.toNat * 5 ^ (-e).toNat, min e 0⟩)

/-- Positional notation: zeros fill the places between the digits and the point. -/
def positional (d : Scientific) : List Char :=
  let s := Text.naturalText d.digits
  match d.exponent with
  | .ofNat n => s ++ List.replicate n '0'
  | .negSucc n =>
    let places := n + 1
    let padded := List.replicate (places + 1 - s.length) '0' ++ s
    padded.take (padded.length - places) ++ '.' :: padded.drop (padded.length - places)

end Scientific

/-- The text of a floating-point number: the fewest digits that read back, never an exponent. -/
def Binary64.text : Binary64 → String
  | .nan => "NaN"
  | .infinite negative => if negative then "-inf" else "inf"
  | .finite negative m e =>
    let digits := if m = 0 then ['0'] else (Scientific.shortest m e).positional
    String.ofList (if negative then '-' :: digits else digits)

end AtomData
