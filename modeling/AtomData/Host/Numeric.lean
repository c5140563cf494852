import AtomData.Text.Digits
import AtomData.Text.Percent
import AtomData.Text.Pieces

/-!
# Numeric hosts

Hosts that are given by number: four numbers between points, of which the last may stand for
several, or eight groups of hexadecimal digits between colons.
-/

namespace AtomData.Host

/-- A number of an address of four: decimal, or octal behind a zero, or hexadecimal behind `0x`.
A number of 32 bits or more gives none inside. -/
def ipv4Number? (s : List Char) : Option (Option Nat) :=
  let (base, digits) : Nat × List Char :=
    match s with
    | '0' :: 'x' :: t | '0' :: 'X' :: t => (16, t)
    | '0' :: c :: t => (8, c :: t)
    | _ => (10, s)
  let value (c : Char) : Option Nat := (Text.Percent.hexValue? c).filter (· < base)
  if s.isEmpty then none
  else (digits.mapM value).map fun ds =>
    let n := ds.foldl (fun n d => base * n + d) 0
    if n < 2 ^ 32 then some n else none

/-- Does the last label of a host count as a number?  Such a host must be an address of four. -/
def endsInNumber (host : List Char) : Bool :=
  let last :=
    match (Text.pieces '.' host).reverse with
    | [] :: label :: _ => label
    | [] :: [] => []
    | label :: _ => label
    | [] => []
  (ipv4Number? last).isSome || (!last.isEmpty && last.all Char.isDigit)

/-- Up to four numbers; all but the last below 256, and the last one fills what is left. -/
def isIpv4 (host : List Char) : Bool :=
  let labels := Text.pieces '.' host
  let labels := if labels.getLast? == some [] then labels.dropLast else labels
  match labels.mapM fun label => (ipv4Number? label).bind id with
  | none => false
  | some numbers =>
    match numbers.reverse with
    | [] => false
    | last :: others =>
      others.length < 4 && others.all (· < 256) && last < 256 ^ (4 - others.length)

def isHexDigit (c : Char) : Bool := (Text.Percent.hexValue? c).isSome

def isOctet (s : List Char) : Bool :=
  match Text.natural? s with
  | some n => (s.head? != some '0' || s.length == 1) && n < 256
  | none => false

/-- How many 16-bit groups the text fills, and whether some are left out.  `filled` groups came
before it, `short` says that some of them were left out, and each step reads at least one
character. -/
def ipv6Groups (filled : Nat) (short : Bool) : Nat → List Char → Option (Nat × Bool)
  | 0, _ => none
  | _, [] => some (filled, short)
  | bound + 1, c :: s =>
    if filled = 8 then none
    else if c = ':' then if short then none else ipv6Groups (filled + 1) true bound s
    else
      let group := ((c :: s).take 4).takeWhile isHexDigit
      match (c :: s).drop group.length with
      | [] => some (filled + 1, short)
      | ':' :: [] => none
      | ':' :: rest => ipv6Groups (filled + 1) short bound rest
      | '.' :: _ =>
        let octets := Text.pieces '.' (c :: s)
        if group.isEmpty || 6 < filled || octets.length != 4 || !octets.all isOctet then none
        else some (filled + 2, short)
      | _ => none

/-- Eight groups of up to four digits, where one run of zeros may be left out between colons, and
the last two groups may be an address of four. -/
def isIpv6 (s : List Char) : Bool :=
  let start :=
    match s with
    | ':' :: ':' :: rest => ipv6Groups 1 true (rest.length + 1) rest
    | ':' :: _ => none
    | _ :: _ :: _ => ipv6Groups 0 false (s.length + 1) s
    | _ => none
  match start with
  | some (filled, short) => short || filled == 8
  | none => false

end AtomData.Host
