import AtomData.Host.Composition
import AtomData.Host.Permitted
import AtomData.Host.Replacement
import AtomData.Text.Blank

/-!
# The normal form of host names

A host name is compared by its normal form: every character is replaced with its plain form, marks
stand in a fixed order, and a character with a mark is one character where there is one for both.
`composedForm_of_isAscii` shows that ASCII text is its own composed form.
-/

namespace AtomData.Host

def isAscii (s : List Char) : Bool := s.all fun c => c.toNat < 0x80

/-! ### Syllables of Hangul -/

def hangulBase : Nat := 0xAC00

def leadBase : Nat := 0x1100

def vowelBase : Nat := 0x1161

/-- The number before that of the first trailing consonant; it stands for none. -/
def trailBase : Nat := 0x11A7

def leadCount : Nat := 19

def vowelCount : Nat := 21

def trailCount : Nat := 28

def hangulLetters? (n : Nat) : Option (List Nat) :=
  if hangulBase ≤ n ∧ n < hangulBase + leadCount * vowelCount * trailCount then
    let i := n - hangulBase
    let trail := i % trailCount
    let letters := [leadBase + i / (vowelCount * trailCount),
      vowelBase + i / trailCount % vowelCount]
    some (if trail = 0 then letters else letters ++ [trailBase + trail])
  else none

def hangulSyllable? (a b : Nat) : Option Nat :=
  if leadBase ≤ a ∧ a < leadBase + leadCount ∧ vowelBase ≤ b ∧ b < vowelBase + vowelCount then
    some (hangulBase + ((a - leadBase) * vowelCount + (b - vowelBase)) * trailCount)
  else if hangulBase ≤ a ∧ a < hangulBase + leadCount * vowelCount * trailCount ∧
      (a - hangulBase) % trailCount = 0 ∧ trailBase < b ∧ b < trailBase + trailCount then
    some (a + (b - trailBase))
  else none

/-! ### Taking apart and putting together -/

/-- No composed character is built up in more steps than this. -/
def greatestBuild : Nat := 3

/-- The parts that a character is built up of in at most so many steps. -/
def partsOf : Nat → Nat → List Nat
  | 0, n => [n]
  | steps + 1, n =>
    match composedChars.find? fun r => r.1 == n with
    | some (_, a, b) => partsOf steps a ++ [b]
    | none => (hangulLetters? n).getD [n]

def decompose (s : List Char) : List Char :=
  s.flatMap fun c => (partsOf greatestBuild c.toNat).map Char.ofNat

/-- Puts a mark behind the marks of a text given backwards that do not come after it. -/
def insertMark (c : Char) : List Char → List Char
  | [] => [c]
  | d :: before =>
    if combiningClass c != 0 && combiningClass c < combiningClass d then d :: insertMark c before
    else c :: d :: before

def orderMarks (s : List Char) : List Char :=
  (s.foldl (fun before c => insertMark c before) []).reverse

def composed? (a b : Char) : Option Char :=
  let pair := composedChars.find? fun r => r.2.1 == a.toNat && r.2.2 == b.toNat
  let n := (pair.map Prod.fst).orElse fun _ => hangulSyllable? a.toNat b.toNat
  n.map Char.ofNat

/-- Puts together the character `start`, the marks `kept` behind it, last one first, that it takes
no part of, and what follows.  A mark is out of reach behind one of the same class. -/
def composeFrom (start : Char) (kept : List Char) : List Char → List Char
  | [] => start :: kept.reverse
  | c :: s =>
    let inReach :=
      match kept with
      | [] => true
      | d :: _ => combiningClass d < combiningClass c
    match if inReach then composed? start c else none with
    | some x => composeFrom x kept s
    | none =>
      if combiningClass c = 0 then start :: kept.reverse ++ composeFrom c [] s
      else composeFrom start (c :: kept) s

/-- Puts characters and their marks together; marks in front of all characters stay as they are. -/
def compose : List Char → List Char
  | [] => []
  | c :: s => if combiningClass c = 0 then composeFrom c [] s else c :: compose s

def composedForm (s : List Char) : List Char :=
  if isAscii s then s else compose (orderMarks (decompose s))

theorem composedForm_of_isAscii {s : List Char} (h : isAscii s = true) : composedForm s = s :=
  if_pos h

/-! ### Plain forms -/

/-- What a character is replaced with, which may be itself or nothing.  No character that a host
name may not hold has a plain form. -/
def plainForm? (c : Char) : Option (List Char) :=
  if c.toNat < 0x80 then some [c.toLower]
  else if !Text.inRanges permittedRanges c.toNat then none
  else if Text.inRanges ignoredRanges c.toNat then some []
  else
    match replacement? c.toNat with
    | some ns => some (ns.map Char.ofNat)
    | none => some [c]

def normalForm? (s : List Char) : Option (List Char) :=
  (s.mapM plainForm?).map fun parts => composedForm parts.flatten

end AtomData.Host
