import AtomData.Key
import AtomData.Number.Reading
import AtomData.Table

/-!
# Keys from records

A record of plain data gives a key of several values, one for each field.  Integers stay exact as
far as 64 bits reach; a larger one, like any number with a point or an exponent, becomes a
floating-point number.
-/

namespace AtomData

inductive Datum where
  | null
  | bool (b : Bool)
  | integer (n : Int)
  | real (x : Binary64)
  | string (s : String)
  | array (items : List Datum)
  | object (fields : List (String × Datum))
  deriving Inhabited

namespace Datum

def kind : Datum → String
  | null => "null"
  | bool _ => "bool"
  | integer _ | real _ => "number"
  | string _ => "string"
  | array _ => "array"
  | object _ => "object"

/-! ### Numerals -/

/-- The digits of a numeral that fit 64 bits, and how many were passed over. -/
def leadingDigits (start : Nat) : List Char → Nat × Nat
  | [] => (start, 0)
  | c :: s =>
    let n := 10 * start + (c.toNat - 48)
    if n < 2 ^ 64 then leadingDigits n s else (start, s.length + 1)

def powerOfTen (n : Nat) : Binary64 := Binary64.ofNat (10 ^ n)

/-- A number times a power of ten, in one rounded step up to 10^308 either way.  A smaller power
than that takes further steps, and a larger one gives infinity. -/
def scale (x : Binary64) (exponent : Int) : Nat → Binary64
  | 0 => Binary64.ofNat 0
  | steps + 1 =>
    if exponent.natAbs ≤ 308 then
      if 0 ≤ exponent then x.mul (powerOfTen exponent.toNat)
      else x.div (powerOfTen (-exponent).toNat)
    else if x.isZero then x
    else if 0 ≤ exponent then .infinite false
    else scale (x.div (powerOfTen 308)) (exponent + 308) steps

def realValue (negative : Bool) (n : Binary64.Numeral) : Binary64 :=
  let (whole, passed) := leadingDigits 0 n.whole
  let (digits, left) := leadingDigits whole n.fraction
  let exponent := n.exponent + passed - (n.fraction.length - left : Nat)
  let x := scale (Binary64.ofNat digits) exponent 4
  if negative then x.neg else x

/-- Reads a numeral.  Without point and exponent it is an integer, if it fits 64 bits with a sign
or without; minus zero and everything else is a real number. -/
def ofNumeral? (s : String) : Option Datum := do
  let (negative, rest) := match s.toList with
    | '-' :: t => (true, t)
    | t => (false, t)
  let n ← Binary64.numeral? rest
  if rest.all Char.isDigit then
    let m := Text.digitsValue rest
    if negative ∧ 0 < m ∧ m ≤ 2 ^ 63 then return .integer (-m)
    else if !negative ∧ m < 2 ^ 64 then return .integer m
    else return .real (realValue negative n)
  else return .real (realValue negative n)

/-! ### Fields -/

/-- The value of a field.  Integers take the narrowest kind that holds them exactly, or none. -/
def value? (field : String) : Datum → Except KeyError Value
  | null => .ok .null
  | bool b => .ok (.bool b)
  | string s => .ok (.string s)
  | integer n =>
    if -2 ^ 31 ≤ n ∧ n < 2 ^ 31 then .ok (.int (Int32.ofInt n))
    else if -2 ^ 63 ≤ n ∧ n < 2 ^ 63 then .ok (.long (Int64.ofInt n))
    else .ok (.float (Binary64.ofInt n))
  | real x => .ok (.float x)
  | array _ => .error (.unsupportedValue field "array")
  | object _ => .error (.unsupportedValue field "object")

def values? : List (String × Datum) → Except KeyError (List (String × Value))
  | [] => .ok []
  | (name, d) :: fields => do
    let v ← d.value? name
    let rest ← values? fields
    return (name, v) :: rest

end Datum

/-- The key with a value for each field of the record.  A field given again replaces the earlier
one, in its place. -/
def EntityKey.ofRecord : Datum → Except KeyError EntityKey
  | .object fields => (Datum.values? (Table.ofList fields).entries).map .composite
  | d => .error (.notARecord d.kind)

end AtomData
