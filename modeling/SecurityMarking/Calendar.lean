/-
Dates and moments.

A date is a day of the Gregorian calendar in one of the years 1 to 9999.  A moment
is a time of day on a date, to the microsecond, and may say how many minutes its
clock is ahead of universal time; that is less than a day either way.  Two moments
that say so are the same if they are so in universal time, whatever their clocks
show.

A date is written with its year first, and what is out of range is told by its
part, the first such part in the order in which they are written.
-/
import SecurityMarking.Numeral

namespace SecurityMarking

/-- What is wrong with the parts of a date or of a moment. -/
inductive CalendarFault
  | year (n : Nat)
  | month
  | day
  | hour
  | minute
  | second
  /-- The clock is a day or more from universal time. -/
  | offset (minutes : Int)
deriving DecidableEq

/-- A day. -/
structure Date where
  year : Nat
  month : Nat
  day : Nat
deriving DecidableEq

/-- A time of day on a date. -/
structure Moment where
  date : Date
  hour : Nat
  minute : Nat
  second : Nat
  microsecond : Nat
  /-- The minutes that the clock is ahead of universal time, if it says. -/
  offset : Option Int
deriving DecidableEq

/-- A number in digits, with noughts before it up to a width. -/
def paddedNumeral (width n : Nat) : Text :=
  let digits := Nat.toDigits 10 n
  List.replicate (width - digits.length) '0' ++ digits

/-- The minutes of a day. -/
def minutesInDay : Nat := 1440

/-- A span of minutes as the expression that builds it: days, and seconds of a day. -/
def spanExpression (minutes : Int) : Text :=
  let days := Int.fdiv minutes minutesInDay
  let seconds := 60 * Int.fmod minutes minutesInDay
  let parts := (if days = 0 then [] else [Text.concat ["days=", Numeral.write days]])
    ++ (if seconds = 0 then [] else [Text.concat ["seconds=", Numeral.write seconds]])
  Text.concat ["datetime.timedelta(",
    if parts.isEmpty then "0" else (", " : Text).intercalate parts, ")"]

namespace Date

/-- Whether a year has a day more than others. -/
def isLeap (year : Nat) : Bool := year % 4 == 0 && (year % 100 != 0 || year % 400 == 0)

/-- The number of days of a month. -/
def daysOf (year month : Nat) : Nat :=
  if month == 2 then (if isLeap year then 29 else 28)
  else if month ∈ [4, 6, 9, 11] then 30 else 31

/-- The date of a year, a month and a day, if there is one. -/
def of (year month day : Nat) : Except CalendarFault Date :=
  if year == 0 then .error (.year year)
  else if month == 0 || 12 < month then .error .month
  else if day == 0 || daysOf year month < day then .error .day
  else .ok ⟨year, month, day⟩

/-- The day after. -/
def next (d : Date) : Date :=
  if d.day < daysOf d.year d.month then { d with day := d.day + 1 }
  else if d.month < 12 then ⟨d.year, d.month + 1, 1⟩
  else ⟨d.year + 1, 1, 1⟩

/-- The day before. -/
def previous (d : Date) : Date :=
  if 1 < d.day then { d with day := d.day - 1 }
  else if 1 < d.month then ⟨d.year, d.month - 1, daysOf d.year (d.month - 1)⟩
  else ⟨d.year - 1, 12, 31⟩

/-- The date as it is written. -/
def write (d : Date) : Text :=
  Text.concat [paddedNumeral 4 d.year, "-", paddedNumeral 2 d.month, "-", paddedNumeral 2 d.day]

/-- The parts of the date with a comma and a space between each two. -/
def parts (d : Date) : Text :=
  Text.concat [Numeral.write d.year, ", ", Numeral.write d.month, ", ", Numeral.write d.day]

/-- The expression that builds the date. -/
def expression (d : Date) : Text := Text.concat ["datetime.date(", d.parts, ")"]

end Date

namespace Moment

/-- The moment of a time of day on a date, if there is one. -/
def of (year month day hour minute second microsecond : Nat) (offset : Option Int) :
    Except CalendarFault Moment := do
  if let some minutes := offset then
    if minutesInDay ≤ minutes.natAbs then throw (.offset minutes)
  let date ← Date.of year month day
  if 23 < hour then throw .hour
  if 59 < minute then throw .minute
  if 59 < second then throw .second
  return ⟨date, hour, minute, second, microsecond, offset⟩

/-- The same moment by a clock of universal time; one that does not say how far it is ahead is left
as it is. -/
def universal (m : Moment) : Moment :=
  match m.offset with
  | none => m
  | some offset =>
    let minutes : Int := 60 * m.hour + m.minute - offset
    let ofDay := (Int.fmod minutes minutesInDay).toNat
    let date :=
      if minutes < 0 then m.date.previous
      else if minutes < minutesInDay then m.date
      else m.date.next
    { m with date := date, hour := ofDay / 60, minute := ofDay % 60, offset := some 0 }

/-- How far a clock is ahead of universal time, as it is written after the time. -/
def writeOffset (minutes : Int) : Text :=
  Text.concat [if minutes < 0 then "-" else "+", paddedNumeral 2 (minutes.natAbs / 60), ":",
    paddedNumeral 2 (minutes.natAbs % 60)]

/-- The moment as it is written. -/
def write (m : Moment) : Text :=
  Text.concat [m.date.write, " ", paddedNumeral 2 m.hour, ":", paddedNumeral 2 m.minute, ":",
    paddedNumeral 2 m.second,
    if m.microsecond = 0 then [] else '.' :: paddedNumeral 6 m.microsecond,
    (m.offset.map writeOffset).getD []]

/-- The expression that builds a clock. -/
def clockExpression (minutes : Int) : Text :=
  if minutes = 0 then "datetime.timezone.utc"
  else Text.concat ["datetime.timezone(", spanExpression minutes, ")"]

/-- The expression that builds the moment; noughts at the end of the time are left out down to the
minutes. -/
def expression (m : Moment) : Text :=
  let smaller :=
    if m.microsecond ≠ 0 then [m.second, m.microsecond]
    else if m.second ≠ 0 then [m.second] else []
  let time := (m.hour :: m.minute :: smaller).map fun (n : Nat) => ", ".toList ++ Numeral.write n
  Text.concat ["datetime.datetime(", m.date.parts, Text.concat time,
    (m.offset.map fun minutes => ", tzinfo=".toList ++ clockExpression minutes).getD [], ")"]

end Moment

/-- What is said of a part that is out of range. -/
def CalendarFault.message : CalendarFault → Text
  | .year n => Text.concat ["year ", Numeral.write n, " is out of range"]
  | .month => "month must be in 1..12"
  | .day => "day is out of range for month"
  | .hour => "hour must be in 0..23"
  | .minute => "minute must be in 0..59"
  | .second => "second must be in 0..59"
  | .offset minutes =>
    Text.concat ["offset must be a timedelta strictly between -timedelta(hours=24) and ",
      "timedelta(hours=24), not ", spanExpression minutes, "."]

end SecurityMarking
