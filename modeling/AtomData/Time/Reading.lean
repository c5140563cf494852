import AtomData.Time.Instant
import AtomData.Text.Scanner

/-!
# Reading date-times

Two grammars.  The strict one has an offset and a fixed number of digits in every field.  The
relaxed one has no offset: months, days, hours, minutes and seconds may have one digit, a year may
have a sign and then any number of digits, blanks may precede a field, and the seconds may be left
out.  The strict grammar is tried first.
-/

namespace AtomData.Instant

open Text (Scanner)
open Text.Scanner (one symbol whole?)

/-- A date and a time of day, before any offset is applied. -/
structure Clock where
  date : Date
  second : Nat
  nano : Nat

def skipBlanks : Scanner Unit := fun s => some ((), Text.trimStart s)

def digits (least most : Nat) : Scanner Nat := fun s =>
  let run := (s.take most).takeWhile Char.isDigit
  if run.length < least then none else some (Text.digitsValue run, s.drop run.length)

/-- Nothing, or a point and digits, of which the first nine count. -/
def nanoseconds : Scanner Nat
  | '.' :: s =>
    let run := s.takeWhile Char.isDigit
    if run.isEmpty then none
    else
      let kept := run.take 9
      some (Text.digitsValue kept * 10 ^ (9 - kept.length), s.drop run.length)
  | s => some (0, s)

/-- Puts a clock together.  Second 60 is the second half of a long second 59. -/
def clock (year : Int) (month day hour minute second nano : Nat) : Option Clock := do
  let date ← Date.ofParts? year month day
  if hour < 24 ∧ minute < 60 ∧ second ≤ 60 then
    let start := hour * 3600 + minute * 60
    some (if second = 60 then ⟨date, start + 59, nano + 1000000000⟩
      else ⟨date, start + second, nano⟩)
  else none

/-! ### The strict grammar -/

/-- The offset from universal time in minutes: `Z`, or a sign, hours and minutes. -/
def offset : Scanner Int
  | 'Z' :: s | 'z' :: s => some (0, s)
  | c :: s => do
    let sign : Int ← if c == '+' then some 1 else if c == '-' || c == '−' then some (-1) else none
    let ((hours, minutes), rest) ← (do
      let hours ← digits 2 2
      symbol ':'
      let minutes ← digits 2 2
      return (hours, minutes) : Scanner (Nat × Nat)) s
    if minutes < 60 ∧ hours < 24 then some (sign * (hours * 60 + minutes : Nat), rest) else none
  | [] => none

def strict : Scanner (Clock × Int) := do
  let year ← digits 4 4
  symbol '-'
  let month ← digits 2 2
  symbol '-'
  let day ← digits 2 2
  let _ ← one fun c => c == 'T' || c == 't' || c == ' '
  let hour ← digits 2 2
  symbol ':'
  let minute ← digits 2 2
  symbol ':'
  let second ← digits 2 2
  let nano ← nanoseconds
  let shift ← offset
  let c ← clock year month day hour minute second nano
  return (c, shift)

/-- The universal time of a clock that runs `shift` minutes ahead of it. -/
def ofClock? (c : Clock) (shift : Int) : Option Instant :=
  let second : Int := c.second - 60 * shift
  if second < 0 then do ofParts? (← c.date.previous?) (second + 86400).toNat c.nano
  else if 86400 ≤ second then do ofParts? (← c.date.next?) (second - 86400).toNat c.nano
  else ofParts? c.date second.toNat c.nano

/-! ### The relaxed grammar -/

/-- A field of one or two digits, after any blanks. -/
def field : Scanner Nat := do
  skipBlanks
  digits 1 2

def signedYear : Scanner Int := do
  skipBlanks
  match ← get with
  | '-' :: s => do
    set s
    return -((← digits 1 s.length) : Int)
  | '+' :: s => do
    set s
    return ((← digits 1 s.length) : Int)
  | _ => return ((← digits 1 4) : Int)

def seconds : Scanner (Nat × Nat) := do
  symbol ':'
  let second ← field
  let nano ← nanoseconds
  return (second, nano)

def relaxed (seconds : Scanner (Nat × Nat)) : Scanner Clock := do
  let year ← signedYear
  symbol '-'
  let month ← field
  symbol '-'
  let day ← field
  symbol 'T'
  let hour ← field
  symbol ':'
  let minute ← field
  let (second, nano) ← seconds
  clock year month day hour minute second nano

/-- Reads either grammar; the relaxed one tells universal time. -/
def ofText? (s : List Char) : Option Instant :=
  match whole? strict s >>= fun (c, shift) => ofClock? c shift with
  | some t => some t
  | none => do
    let c ← (whole? (relaxed seconds) s).orElse fun _ =>
      whole? (relaxed (pure (0, 0))) s
    ofClock? c 0

end AtomData.Instant
