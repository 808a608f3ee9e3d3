import Phrasebook.Number.Binary64

/-!
# Dates and moments

Dates of the proleptic Gregorian calendar from year 1 to year 9999, moments of such a
day to the microsecond with an optional distance from universal time, and the two ways
they are written: plainly, and as the call that builds them, which messages use. Days are
counted from 1970-01-01, which gives moments in different offsets a common measure.
-/

namespace Phrasebook

/-- A day of the calendar. -/
structure Date where
  year : Nat
  month : Nat
  day : Nat
  deriving DecidableEq, Repr

/-- A moment of a day. The offset is in seconds east of universal time. -/
structure Moment where
  date : Date
  hour : Nat
  minute : Nat
  second : Nat
  micro : Nat
  offset : Option Int
  deriving DecidableEq, Repr

/-- Why the parts of a date or moment are refused. -/
inductive CalendarFault where
  | year (year : Nat)
  | month
  | day
  | hour
  | minute
  | second
  | offset (seconds : Int)
  deriving DecidableEq, Repr

namespace Date

/-- Does the year have a 29th of February? -/
def isLeap (year : Nat) : Bool := year % 4 == 0 && (year % 100 != 0 || year % 400 == 0)

/-- The number of days of a month. -/
def daysIn (year month : Nat) : Nat :=
  if month = 2 then (if isLeap year then 29 else 28)
  else if month = 4 ∨ month = 6 ∨ month = 9 ∨ month = 11 then 30
  else 31

/-- The date with the given parts, the first bad part being reported. -/
def make (year month day : Nat) : Except CalendarFault Date :=
  if year < 1 ∨ 9999 < year then .error (.year year)
  else if month < 1 ∨ 12 < month then .error .month
  else if day < 1 ∨ daysIn year month < day then .error .day
  else .ok ⟨year, month, day⟩

/-- Year, month and day, with four, two and two digits. -/
def write (d : Date) : Text :=
  Text.padLeft 4 (Text.ofNat d.year) ++ '-' :: Text.padLeft 2 (Text.ofNat d.month) ++
    '-' :: Text.padLeft 2 (Text.ofNat d.day)

/-- The call that builds the date. -/
def literal (d : Date) : Text :=
  "datetime.date(".toList ++
    Text.joinWith ", ".toList ([d.year, d.month, d.day].map Text.ofNat) ++ ")".toList

/-- The date that lies a number of days after 1970-01-01. Years are counted from March,
so that the leap day ends a year, in cycles of 400 years. -/
def ofEpochDay (n : Int) : Int × Nat × Nat :=
  let z := n + 719468
  let era := z.fdiv 146097
  let doe := (z - era * 146097).toNat
  let yoe := (doe - doe / 1460 + doe / 36524 - doe / 146096) / 365
  let doy := doe - (365 * yoe + yoe / 4 - yoe / 100)
  let mp := (5 * doy + 2) / 153
  let day := doy - (153 * mp + 2) / 5 + 1
  let month := if mp < 10 then mp + 3 else mp - 9
  let year : Int := yoe + era * 400 + (if month ≤ 2 then 1 else 0)
  (year, month, day)

/-- The number of days that a date lies after 1970-01-01, counted like `ofEpochDay`. -/
def toEpochDay (d : Date) : Int :=
  let year : Int := if d.month ≤ 2 then (d.year : Int) - 1 else d.year
  let era := year.fdiv 400
  let yoe := (year - era * 400).toNat
  let mp := (d.month + 9) % 12
  let doy := (153 * mp + 2) / 5 + d.day - 1
  era * 146097 + (yoe * 365 + yoe / 4 - yoe / 100 + doy : Nat) - 719468

end Date

namespace Moment

/-- The moment with the given parts, the first bad part being reported. -/
def make (date : Date) (hour minute second micro : Nat) (offset : Option Int) :
    Except CalendarFault Moment :=
  if 23 < hour then .error .hour
  else if 59 < minute then .error .minute
  else if 59 < second then .error .second
  else .ok ⟨date, hour, minute, second, micro, offset⟩

/-- The seconds after 1970 in universal time at which a moment with an offset lies. -/
def universal (m : Moment) (offset : Int) : Int :=
  m.date.toEpochDay * 86400 + (m.hour * 3600 + m.minute * 60 + m.second : Nat) - offset

/-- Equality of moments: those with an offset are compared in universal time, and none of
them equals one without. -/
def same (m n : Moment) : Bool :=
  match m.offset, n.offset with
  | some a, some b => m.universal a == n.universal b && m.micro == n.micro
  | none, none => m == n
  | _, _ => false

/-- An offset as a sign, hours and minutes. -/
def writeOffset (seconds : Int) : Text :=
  let n := seconds.natAbs
  (if seconds < 0 then '-' else '+') :: Text.padLeft 2 (Text.ofNat (n / 3600)) ++
    ':' :: Text.padLeft 2 (Text.ofNat (n / 60 % 60))

/-- Hours, minutes and seconds of a day. -/
def clock (hour minute second : Nat) : Text :=
  Text.padLeft 2 (Text.ofNat hour) ++ ':' :: Text.padLeft 2 (Text.ofNat minute) ++
    ':' :: Text.padLeft 2 (Text.ofNat second)

/-- Date and clock with a space between, then the microseconds unless they are zero, then
the offset if there is one. -/
def write (m : Moment) : Text :=
  m.date.write ++ ' ' :: clock m.hour m.minute m.second ++
    (if m.micro = 0 then [] else '.' :: Text.padLeft 6 (Text.ofNat m.micro)) ++
    (match m.offset with
      | none => []
      | some seconds => writeOffset seconds)

/-- The call that builds an offset. A negative one is written as a day back and the
seconds forward from there. -/
def offsetLiteral (seconds : Int) : Text :=
  if seconds = 0 then "datetime.timezone.utc".toList
  else
    let parts := if seconds < 0
      then "days=-1, seconds=".toList ++ Text.ofInt (seconds + 86400)
      else "seconds=".toList ++ Text.ofInt seconds
    "datetime.timezone(datetime.timedelta(".toList ++ parts ++ "))".toList

/-- The call that builds the moment. Seconds and microseconds are left out while only
zeros follow. -/
def literal (m : Moment) : Text :=
  let tail := if m.micro ≠ 0 then [m.second, m.micro]
    else if m.second ≠ 0 then [m.second] else []
  let parts := ([m.date.year, m.date.month, m.date.day, m.hour, m.minute] ++ tail).map Text.ofNat
  let parts := match m.offset with
    | none => parts
    | some seconds => parts ++ ["tzinfo=".toList ++ offsetLiteral seconds]
  "datetime.datetime(".toList ++ Text.joinWith ", ".toList parts ++ ")".toList

end Moment

namespace CalendarFault

/-- The wording of a refusal. -/
def message : CalendarFault → Text
  | .year y => "year ".toList ++ Text.ofNat y ++ " is out of range".toList
  | .month => "month must be in 1..12".toList
  | .day => "day is out of range for month".toList
  | .hour => "hour must be in 0..23".toList
  | .minute => "minute must be in 0..59".toList
  | .second => "second must be in 0..59".toList
  | .offset s =>
    let days := s.fdiv 86400
    let rest := s - days * 86400
    let parts := (if days = 0 then [] else ["days=".toList ++ Text.ofInt days]) ++
      (if rest = 0 then [] else ["seconds=".toList ++ Text.ofInt rest])
    "offset must be a timedelta strictly between -timedelta(hours=24) and ".toList ++
      "timedelta(hours=24), not datetime.timedelta(".toList ++
      Text.joinWith ", ".toList parts ++ ").".toList

end CalendarFault

end Phrasebook
