import AtomData.Text.Digits

/-!
# Binary floating point

Floating-point numbers as exact data: a significand times a power of two.  Every operation
computes the exact result over the naturals and rounds it once, to nearest with ties to even.
`roundQuotient_near` bounds the error of that one rounding.
-/

namespace AtomData

/-- A floating-point number.  A finite one is `significand * 2 ^ exponent`, with a significand of
53 bits unless the exponent is the least, -1074. -/
inductive Binary64 where
  | nan
  | infinite (negative : Bool)
  | finite (negative : Bool) (significand : Nat) (exponent : Int)
  deriving DecidableEq, Repr

namespace Binary64

structure Format where
  precision : Nat
  leastExponent : Int
  greatestExponent : Int

def double : Format := ⟨53, -1074, 971⟩

def single : Format := ⟨24, -149, 104⟩

/-- The quotient rounded to the nearest whole number, an exact half to the even one. -/
def roundQuotient (num den : Nat) : Nat :=
  let q := num / den
  let r := num % den
  if 2 * r < den then q
  else if den < 2 * r then q + 1
  else if q % 2 = 0 then q else q + 1

theorem roundQuotient_near (num den : Nat) (h : 0 < den) :
    2 * (roundQuotient num den * den) ≤ 2 * num + den ∧
      2 * num ≤ 2 * (roundQuotient num den * den) + den := by
  have e : den * (num / den) + num % den = num := Nat.div_add_mod num den
  have l : num % den < den := Nat.mod_lt _ h
  simp only [roundQuotient]
  generalize num / den = q at *
  generalize num % den = r at *
  have hq : (q + 1) * den = den * q + den := by rw [Nat.add_mul, Nat.mul_comm]; simp
  have hq0 : q * den = den * q := Nat.mul_comm ..
  generalize den * q = p at *
  split
  · omega
  · split
    · omega
    · split <;> omega

/-- The greatest `l` with `2 ^ l ≤ num / den * 2 ^ exponent`, for positive `num` and `den`. -/
def floorLog (num den : Nat) (exponent : Int) : Int :=
  let l : Int := (num.log2 : Int) - den.log2
  let reached := den * 2 ^ l.toNat ≤ num * 2 ^ (-l).toNat
  exponent + if reached then l else l - 1

def ofDyadic (negative : Bool) (m : Nat) (e : Int) : Binary64 :=
  if m = 0 then finite negative 0 double.leastExponent
  else
    let room := 52 - m.log2
    let shift := min room (e - double.leastExponent).toNat
    finite negative (m * 2 ^ shift) (e - shift)

/-- `num / den * 2 ^ exponent` rounded to the format, for positive `den`.
A magnitude above every number of the format is infinite. -/
def round (format : Format) (negative : Bool) (num den : Nat) (exponent : Int) : Binary64 :=
  if num = 0 then ofDyadic negative 0 0
  else
    let e := max format.leastExponent (floorLog num den exponent - (format.precision - 1))
    let shift := exponent - e
    let m := roundQuotient (num * 2 ^ shift.toNat) (den * 2 ^ (-shift).toNat)
    let carried := m = 2 ^ format.precision
    let top := if carried then e + 1 else e
    if top > format.greatestExponent then infinite negative
    else ofDyadic negative (if carried then m / 2 else m) top

def ofNat (n : Nat) : Binary64 := round double false n 1 0

def ofInt (n : Int) : Binary64 := round double (n < 0) n.natAbs 1 0

def neg : Binary64 → Binary64
  | nan => nan
  | infinite s => infinite !s
  | finite s m e => finite (!s) m e

/-- The product.  A zero times an infinite number is no number. -/
def mul : Binary64 → Binary64 → Binary64
  | finite s m e, finite t n f => round double (s != t) (m * n) 1 (e + f)
  | infinite s, infinite t => infinite (s != t)
  | infinite s, finite t n _ | finite t n _, infinite s => if n = 0 then nan else infinite (s != t)
  | nan, _ | _, nan => nan

/-- The quotient.  A number divided by zero is infinite, and zero by zero is no number. -/
def div : Binary64 → Binary64 → Binary64
  | finite s m e, finite t n f =>
    if n ≠ 0 then round double (s != t) m n (e - f)
    else if m = 0 then nan else infinite (s != t)
  | infinite _, infinite _ => nan
  | infinite s, finite t _ _ => infinite (s != t)
  | finite s _ _, infinite t => ofDyadic (s != t) 0 0
  | nan, _ | _, nan => nan

def isFinite : Binary64 → Bool
  | finite .. => true
  | _ => false

def isZero : Binary64 → Bool
  | finite _ m _ => m == 0
  | _ => false

end Binary64
end AtomData
