import AtomData.Text.Pieces

/-!
# Globally unique identifiers

An identifier is 32 hexadecimal digits.  It is written in lower case with hyphens, and read in
four spellings: with hyphens, without, between braces, and as a name of the `urn:uuid:` scheme,
which may be written in letters of either case.
-/

namespace AtomData

structure Guid where
  digits : List (Fin 16)
  length_digits : digits.length = 32
  deriving DecidableEq

namespace Guid

def digitChar (d : Fin 16) : Char := Nat.digitChar d

def digit? (c : Char) : Option (Fin 16) :=
  if '0' ≤ c ∧ c ≤ '9' then some (Fin.ofNat 16 (c.toNat - 48))
  else if 'a' ≤ c ∧ c ≤ 'f' then some (Fin.ofNat 16 (c.toNat - 87))
  else if 'A' ≤ c ∧ c ≤ 'F' then some (Fin.ofNat 16 (c.toNat - 55))
  else none

def groups : List Nat := [8, 4, 4, 4, 12]

def cut {α : Type} : List Nat → List α → List (List α)
  | [], _ => []
  | n :: ns, s => s.take n :: cut ns (s.drop n)

def text (g : Guid) : List Char :=
  Text.join ['-'] (cut groups (g.digits.map digitChar))

def plain? (s : List Char) : Option Guid := do
  let digits ← s.mapM digit?
  if h : digits.length = 32 then some ⟨digits, h⟩ else none

def hyphenated? (s : List Char) : Option Guid :=
  let parts := Text.pieces '-' s
  if parts.map List.length = groups then plain? parts.flatten else none

def braced? (s : List Char) : Option Guid :=
  match s with
  | '\x7b' :: t =>
    if t.getLast? = some '\x7d' then hyphenated? t.dropLast else none
  | _ => none

/-- The name behind the scheme `urn:uuid:`, whose letters may be of either case. -/
def urnName? (s : List Char) : Option (List Char) :=
  let scheme := "urn:uuid:".toList
  if (s.take scheme.length).map Char.toLower = scheme then some (s.drop scheme.length) else none

def ofText? (s : List Char) : Option Guid :=
  match urnName? s with
  | some name => hyphenated? name
  | none => (braced? s).orElse fun _ => (plain? s).orElse fun _ => hyphenated? s

end Guid
end AtomData
