/-!
# Percent encoding

Two ways to make a text safe inside a request address: `encodeComponent` for key values,
which keeps only unreserved characters, and `encodeQuery` for query options, which escapes the
six characters that would change how the query reads.  `decode` takes either one apart again.
-/

namespace AtomData.Text.Percent

def isUnreserved (c : Char) : Bool :=
  c.isAlphanum || c = '-' || c = '_' || c = '.' || c = '~'

def hexDigit (n : Nat) : Char :=
  if n < 10 then Char.ofNat (48 + n) else Char.ofNat (55 + n)

def hexValue? (c : Char) : Option Nat :=
  if '0' ≤ c ∧ c ≤ '9' then some (c.toNat - 48)
  else if 'A' ≤ c ∧ c ≤ 'F' then some (c.toNat - 55)
  else if 'a' ≤ c ∧ c ≤ 'f' then some (c.toNat - 87)
  else none

def encodeOctet (b : UInt8) : List Char :=
  ['%', hexDigit (b.toNat / 16), hexDigit (b.toNat % 16)]

def encodeChar (c : Char) : List Char :=
  if isUnreserved c then [c] else (String.utf8EncodeChar c).flatMap encodeOctet

def encodeComponent (s : List Char) : List Char := s.flatMap encodeChar

/-- The escape of a character that may not stand for itself in a query string. -/
def queryEscape? : Char → Option (List Char)
  | '%' => some ['%', '2', '5']
  | ' ' => some ['%', '2', '0']
  | '\'' => some ['%', '2', '7']
  | '&' => some ['%', '2', '6']
  | '#' => some ['%', '2', '3']
  | '+' => some ['%', '2', 'b']
  | _ => none

def encodeQueryChar (c : Char) : List Char := (queryEscape? c).getD [c]

def encodeQuery (s : List Char) : List Char := s.flatMap encodeQueryChar

/-- The octets that an encoded text stands for; a `%` without two hexadecimal digits is refused. -/
def decode : List Char → Option (List UInt8)
  | [] => some []
  | '%' :: a :: b :: s => do
    let hi ← hexValue? a
    let lo ← hexValue? b
    let rest ← decode s
    return UInt8.ofNat (16 * hi + lo) :: rest
  | c :: s =>
    if c = '%' then none else (decode s).map (String.utf8EncodeChar c ++ ·)

end AtomData.Text.Percent
