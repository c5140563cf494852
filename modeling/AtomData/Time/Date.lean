/-!
# Calendar dates

Days of the Gregorian calendar, carried back without end and with a year zero.  Years are kept
within a range of a little over 262 thousand either way, so a neighbouring day need not exist.
-/

namespace AtomData

def isLeapYear (year : Int) : Bool :=
  year % 4 == 0 && (year % 100 != 0 || year % 400 == 0)

def daysInMonth (year : Int) : Nat → Nat
  | 1 | 3 | 5 | 7 | 8 | 10 | 12 => 31
  | 4 | 6 | 9 | 11 => 30
  | 2 => if isLeapYear year then 29 else 28
  | _ => 0

def isDate (year : Int) (month day : Nat) : Bool :=
  decide (-262143 ≤ year ∧ year ≤ 262142) && decide (1 ≤ day ∧ day ≤ daysInMonth year month)

structure Date where
  year : Int
  month : Nat
  day : Nat
  isDate : isDate year month day = true
  deriving DecidableEq

namespace Date

def ofParts? (year : Int) (month day : Nat) : Option Date :=
  if h : AtomData.isDate year month day = true then some ⟨year, month, day, h⟩ else none

theorem ofParts?_eq_some (d : Date) : ofParts? d.year d.month d.day = some d :=
  dif_pos d.isDate

def next? (d : Date) : Option Date :=
  (ofParts? d.year d.month (d.day + 1)).orElse fun _ =>
    (ofParts? d.year (d.month + 1) 1).orElse fun _ => ofParts? (d.year + 1) 1 1

def previous? (d : Date) : Option Date :=
  (ofParts? d.year d.month (d.day - 1)).orElse fun _ =>
    (ofParts? d.year (d.month - 1) (daysInMonth d.year (d.month - 1))).orElse fun _ =>
      ofParts? (d.year - 1) 12 31

end Date
end AtomData
