import AtomData.Time.Date
import AtomData.Text.Digits

/-!
# Instants

A date-time in universal time, to the nanosecond.  A leap second is the second half of a second
of two thousand million nanoseconds, at the end of a minute.  There are two written forms: the
full text with an offset, and the literal form with milliseconds that requests use.
-/

namespace AtomData

structure Instant where
  date : Date
  second : Nat
  nano : Nat
  second_lt : second < 86400
  nano_lt : nano < 2000000000
  leap_second : 1000000000 ≤ nano → second % 60 = 59
  deriving DecidableEq

namespace Instant

def ofParts? (date : Date) (second nano : Nat) : Option Instant :=
  if h : second < 86400 ∧ nano < 2000000000 ∧ (1000000000 ≤ nano → second % 60 = 59) then
    some ⟨date, second, nano, h.1, h.2.1, h.2.2⟩
  else none

def hour (t : Instant) : Nat := t.second / 3600

def minute (t : Instant) : Nat := t.second / 60 % 60

/-- The second of the minute as written: 60 during a leap second. -/
def writtenSecond (t : Instant) : Nat :=
  if t.nano < 1000000000 then t.second % 60 else t.second % 60 + 1

def fraction (t : Instant) : Nat := t.nano % 1000000000

/-- Four digits, or a sign and at least four digits outside the years 0 to 9999. -/
def yearText (year : Int) : List Char :=
  if 0 ≤ year ∧ year ≤ 9999 then Text.paddedText 4 year.toNat
  else (if year < 0 then '-' else '+') :: Text.paddedText 4 year.natAbs

def dateText (d : Date) : List Char :=
  yearText d.year ++ '-' :: Text.paddedText 2 d.month ++ '-' :: Text.paddedText 2 d.day

def clockText (t : Instant) : List Char :=
  Text.paddedText 2 t.hour ++ ':' :: Text.paddedText 2 t.minute ++
    ':' :: Text.paddedText 2 t.writtenSecond

/-- As few of 0, 3, 6 and 9 digits as hold the fraction. -/
def fractionText (n : Nat) : List Char :=
  if n = 0 then []
  else if n % 1000000 = 0 then '.' :: Text.paddedText 3 (n / 1000000)
  else if n % 1000 = 0 then '.' :: Text.paddedText 6 (n / 1000)
  else '.' :: Text.paddedText 9 n

def text (t : Instant) : List Char :=
  dateText t.date ++ 'T' :: t.clockText ++ fractionText t.fraction ++ "+00:00".toList

/-- The form of literals: no offset, and milliseconds, cut off and not rounded, unless the instant
falls on a whole second. -/
def literalText (t : Instant) : List Char :=
  dateText t.date ++ 'T' :: t.clockText ++
    if t.nano = 0 then [] else '.' :: Text.paddedText 3 (t.fraction / 1000000)

end Instant
end AtomData
