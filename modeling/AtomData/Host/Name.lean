import AtomData.Host.Direction
import AtomData.Host.Joining
import AtomData.Host.Normal
import AtomData.Host.Punycode
import AtomData.Text.Percent
import AtomData.Text.Pieces

/-!
# Host names

The name of a host, which may be written with characters of all languages.  Two spellings that
have one normal form are one name.  A label that starts with `xn--` is the spelling of another one
in ASCII, and is held to the same rules as that one.
-/

namespace AtomData.Host

/-! ### Labels -/

def spelledStart : List Char := ['x', 'n', '-', '-']

def longestSpelling : Nat := 2000

def longestLabel : Nat := 1000

/-- The label that one in normal form stands for: itself, or the one that it spells in ASCII, which
must be in normal form too. -/
def spelledOut? (label : List Char) : Option (List Char) :=
  match Text.after? spelledStart label with
  | none => some label
  | some s => do
    if label.getLast? = some '-' ∨ !isAscii s ∨ longestSpelling < s.length then none
    let full ← Punycode.decode? s
    if normalForm? full = some full then full else none

/-- Labels beyond ASCII do not start with a mark, are not too long, and hold joiners only where
they belong. -/
def isLabel (label : List Char) : Bool :=
  isAscii label ||
    ((label.head?.map isMark) != some true && joinersFit [] label && label.length ≤ longestLabel)

/-! ### Names -/

def isForbidden (c : Char) : Bool :=
  c.toNat ≤ 0x20 || c.toNat == 0x7F || "%#/:<>?@[\\]^|".toList.contains c

def name? (s : List Char) : Option (List Char) := do
  let name ← normalForm? s
  if name.any isForbidden then none
  let labels ← (Text.pieces '.' name).mapM spelledOut?
  let ordered := !labels.any hasRightToLeft || labels.all isOrdered
  if labels.all isLabel && ordered then name else none

/-! ### Escapes -/

/-- Text in which every `%` before two hexadecimal digits stands for an octet; other text stands
for itself. -/
def octets : List Char → List UInt8
  | '%' :: a :: b :: s =>
    match Text.Percent.hexValue? a, Text.Percent.hexValue? b with
    | some hi, some lo => UInt8.ofNat (16 * hi + lo) :: octets s
    | _, _ => '%'.toUInt8 :: octets (a :: b :: s)
  | c :: s => String.utf8EncodeChar c ++ octets s
  | [] => []

/-- The name that a text with escapes stands for. -/
def ofText? (s : List Char) : Option (List Char) := do
  let decoded ← String.fromUTF8? ⟨(octets s).toArray⟩
  name? decoded.toList

end AtomData.Host
