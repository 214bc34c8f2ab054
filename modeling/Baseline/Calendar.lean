import Baseline.Number.Layout

/-!
# The calendar

Days of the Gregorian calendar, extended to all years, and moments in universal time.

* `daysInMonth` : the length of a month.
* `Day.ofNumber` : the day that lies so many days after the first of January 1970.
* `Moment.iso` : a moment as text, with its fraction of a second when it has one.
-/

set_option autoImplicit false

namespace Baseline

/-- Whether a year has a leap day. -/
def isLeapYear (year : Int) : Bool :=
  year % 4 == 0 && (year % 100 != 0 || year % 400 == 0)

/-- The number of days in a month. -/
def daysInMonth (year : Int) (month : Nat) : Nat :=
  if month = 2 then (if isLeapYear year then 29 else 28)
  else if month = 4 ∨ month = 6 ∨ month = 9 ∨ month = 11 then 30
  else 31

/-- A day of the calendar. -/
structure Day where
  year : Int
  month : Nat
  day : Nat
deriving DecidableEq, Repr

namespace Day

/-- The day with a number, counted from the first of January 1970.  Years are counted from
March, so that the leap day comes last. -/
def ofNumber (n : Int) : Day :=
  let shifted := n + 719468
  let era := Int.fdiv shifted 146097
  let dayOfEra := shifted - era * 146097
  let yearOfEra := (dayOfEra - dayOfEra / 1460 + dayOfEra / 36524 - dayOfEra / 146096) / 365
  let dayOfYear := dayOfEra - (365 * yearOfEra + yearOfEra / 4 - yearOfEra / 100)
  let monthFromMarch := (5 * dayOfYear + 2) / 153
  let day := dayOfYear - (153 * monthFromMarch + 2) / 5 + 1
  let month := if monthFromMarch < 10 then monthFromMarch + 3 else monthFromMarch - 9
  let year := yearOfEra + era * 400 + (if month ≤ 2 then 1 else 0)
  ⟨year, month.toNat, day.toNat⟩

/-- Year, month and day, separated by hyphens. -/
def iso (d : Day) : List Char :=
  paddedLeft '0' 4 (intChars d.year) ++ '-' :: paddedLeft '0' 2 (natChars d.month) ++
    '-' :: paddedLeft '0' 2 (natChars d.day)

end Day

/-- A moment: whole seconds since the start of 1970, and microseconds. -/
structure Moment where
  seconds : Int
  micros : Nat
deriving DecidableEq, Repr

namespace Moment

/-- The start of 1970. -/
def epoch : Moment := ⟨0, 0⟩

/-- The day of a moment. -/
def day (m : Moment) : Day := Day.ofNumber (Int.fdiv m.seconds 86400)

/-- Hours, minutes and seconds. -/
def clockText (m : Moment) : List Char :=
  let second := (Int.fmod m.seconds 86400).toNat
  paddedLeft '0' 2 (natChars (second / 3600)) ++ ':' ::
    paddedLeft '0' 2 (natChars (second / 60 % 60)) ++ ':' ::
    paddedLeft '0' 2 (natChars (second % 60))

/-- The moment with its offset from universal time; the fraction is left out when it is
zero. -/
def iso (m : Moment) : String :=
  String.ofList (m.day.iso ++ 'T' :: m.clockText ++
    (if m.micros = 0 then [] else '.' :: paddedLeft '0' 6 (natChars m.micros)) ++
    "+00:00".toList)

/-- The moment for people, down to milliseconds. -/
def plain (m : Moment) : String :=
  String.ofList (m.day.iso ++ ' ' :: m.clockText ++
    ',' :: paddedLeft '0' 3 (natChars (m.micros / 1000)))

end Moment

end Baseline
