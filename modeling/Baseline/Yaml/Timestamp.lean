import Baseline.Calendar
import Baseline.Value

/-!
# Dates and times in a YAML text

A date is a year, a month and a day; a time of day and an offset from universal time may
follow it.

* `Timestamp.ofText?` : the grammar.
* `Timestamp.toValue` : the date or the moment, if the calendar has it.
-/

set_option autoImplicit false

namespace Baseline.Yaml

open Numeral

/-- A time of day.  The offset is in minutes; a time without one belongs to no place. -/
structure TimeOfDay where
  hour : Nat
  minute : Nat
  second : Nat
  micros : Nat
  offset : Option Int
deriving DecidableEq, Repr

/-- A date and perhaps a time, as written. -/
structure Timestamp where
  year : Nat
  month : Nat
  day : Nat
  time : Option TimeOfDay
deriving DecidableEq, Repr

namespace Timestamp

/-! ## Reading -/

/-- The number at the start of a text that has `least` to `most` digits, and the rest. -/
def number? (least most : Nat) (cs : List Char) : Option (Nat × List Char) :=
  let digits := (cs.take most).takeWhile isDigit
  if digits.length < least then none else some (natOfDigits digits, cs.drop digits.length)

/-- The rest of a text behind a character. -/
def behind? (c : Char) : List Char → Option (List Char)
  | [] => none
  | d :: rest => if c = d then some rest else none

/-- Whether a character separates words on a line. -/
def isGap (c : Char) : Bool := c = ' ' || c = '\t'

/-- The offset at the end of a text: a `Z`, or a sign with hours and perhaps minutes. -/
def offset? : List Char → Option Int
  | ['Z'] => some 0
  | sign :: rest =>
    if sign = '+' ∨ sign = '-' then do
      let (hours, rest) ← number? 1 2 rest
      let minutes ←
        if rest = [] then some 0
        else do
          let (minutes, rest) ← number? 2 2 (← behind? ':' rest)
          if rest = [] then some minutes else none
      return signed (sign = '-') (60 * hours + minutes)
    else none
  | [] => none

/-- The microseconds of a fraction: its first six digits. -/
def microsOf (digits : List Char) : Nat :=
  let kept := digits.take 6
  natOfDigits kept * Nat.pow 10 (6 - kept.length)

/-- The time of day that a text consists of. -/
def time? (cs : List Char) : Option TimeOfDay := do
  let (hour, rest) ← number? 1 2 cs
  let (minute, rest) ← number? 2 2 (← behind? ':' rest)
  let (second, rest) ← number? 2 2 (← behind? ':' rest)
  let (fraction, rest) :=
    match rest with
    | '.' :: rest => (rest.takeWhile isDigit, rest.dropWhile isDigit)
    | rest => ([], rest)
  let offset ← if rest = [] then some none else (offset? (rest.dropWhile isGap)).map some
  return ⟨hour, minute, second, microsOf fraction, offset⟩

/-- The time of day behind a date: after the letter T or after blanks. -/
def timeBehindDate? : List Char → Option TimeOfDay
  | [] => none
  | c :: rest =>
    if c = 'T' ∨ c = 't' then time? rest
    else if isGap c then time? (rest.dropWhile isGap)
    else none

/-- The timestamp that a text consists of. -/
def ofText? (cs : List Char) : Option Timestamp := do
  let (year, rest) ← number? 4 4 cs
  let (month, rest) ← number? 1 2 (← behind? '-' rest)
  let (day, rest) ← number? 1 2 (← behind? '-' rest)
  let time ← if rest = [] then some none else (timeBehindDate? rest).map some
  return ⟨year, month, day, time⟩

/-- Whether an unquoted text is a timestamp: a date alone has to have all its digits. -/
def isPlain (cs : List Char) : Bool :=
  match ofText? cs with
  | some t => t.time.isSome || cs.length = 10
  | none => false

/-! ## The calendar -/

/-- How an offset is shown in days and seconds. -/
def offsetText (minutes : Int) : String :=
  let days := Int.fdiv minutes 1440
  let seconds := 60 * Int.fmod minutes 1440
  "datetime.timedelta(days=" ++ String.ofList (intChars days) ++
    (if seconds = 0 then "" else ", seconds=" ++ String.ofList (intChars seconds)) ++ ")"

/-- Refuses an offset of a day or more. -/
def checkOffset (minutes : Int) : Except Fault Unit :=
  if minutes.natAbs < 1440 then .ok ()
  else .error (.badCalendar ("offset must be a timedelta strictly between " ++
    "-timedelta(hours=24) and timedelta(hours=24), not " ++ offsetText minutes ++ "."))

/-- Refuses a day that the calendar does not have. -/
def checkDay (t : Timestamp) : Except Fault Unit :=
  if t.year = 0 then .error (.badCalendar "year 0 is out of range")
  else if t.month = 0 ∨ 12 < t.month then .error (.badCalendar "month must be in 1..12")
  else if t.day = 0 ∨ daysInMonth t.year t.month < t.day then
    .error (.badCalendar "day is out of range for month")
  else .ok ()

/-- Refuses a time that no day has. -/
def checkTime (t : TimeOfDay) : Except Fault Unit :=
  if 23 < t.hour then .error (.badCalendar "hour must be in 0..23")
  else if 59 < t.minute then .error (.badCalendar "minute must be in 0..59")
  else if 59 < t.second then .error (.badCalendar "second must be in 0..59")
  else .ok ()

/-- A number with at least two digits. -/
def twoDigits (n : Nat) : List Char := paddedLeft '0' 2 (natChars n)

/-- A time of day as text. -/
def timeText (t : TimeOfDay) : List Char :=
  let offset :=
    match t.offset with
    | none => []
    | some m => (if m < 0 then '-' else '+') :: twoDigits (m.natAbs / 60) ++
        ':' :: twoDigits (m.natAbs % 60)
  twoDigits t.hour ++ ':' :: twoDigits t.minute ++ ':' :: twoDigits t.second ++
    (if t.micros = 0 then [] else '.' :: paddedLeft '0' 6 (natChars t.micros)) ++ offset

/-- The date or the moment of a timestamp.  The offset is checked before the day, and the day
before the time. -/
def toValue (t : Timestamp) : Except Fault Value := do
  let dayText := (Day.mk t.year t.month t.day).iso
  match t.time with
  | none =>
    checkDay t
    return .date (String.ofList dayText)
  | some time =>
    (time.offset.map checkOffset).getD (.ok ())
    checkDay t
    checkTime time
    return .moment (String.ofList (dayText ++ ' ' :: timeText time))

end Timestamp

end Baseline.Yaml
