import EntityDiagram.Text.Hex

/-!
# Dates and moments

Days of the Gregorian calendar from year 1 to year 9999, and moments on them to the microsecond,
with or without an offset from universal time. Construction refuses parts that are out of range,
the largest part first.
-/

namespace EntityDiagram

-- A sum starts at the zero of the core library, whatever else is imported.
attribute [local instance (high)] Zero.ofOfNat0

open Text (decimalPadded)

/-- A part of a date or moment that is out of range. -/
inductive CalendarFault where
  | year (given : Int)
  | month
  | day
  | hour
  | minute
  | second
  | microsecond
  /-- An offset of a day or more, in microseconds. -/
  | offset (microseconds : Int)
deriving DecidableEq, Repr

/-- The microseconds of a minute. -/
def minuteLength : Int := 60000000

/-- The microseconds of a day. -/
def dayLength : Int := 1440 * minuteLength

/-- A span of time as whole days, and the seconds and microseconds that remain, as messages show
it. -/
def durationText (microseconds : Int) : String :=
  let days := Int.fdiv microseconds dayLength
  let rest := Int.fmod microseconds dayLength
  let part (name : String) (amount : Int) : List String :=
    if amount == 0 then [] else [name ++ "=" ++ toString amount]
  let parts := part "days" days ++ part "seconds" (rest / 1000000) ++
    part "microseconds" (rest % 1000000)
  "datetime.timedelta(" ++ (if parts.isEmpty then "0" else ", ".intercalate parts) ++ ")"

def CalendarFault.message : CalendarFault → String
  | .year given => "year " ++ toString given ++ " is out of range"
  | .month => "month must be in 1..12"
  | .day => "day is out of range for month"
  | .hour => "hour must be in 0..23"
  | .minute => "minute must be in 0..59"
  | .second => "second must be in 0..59"
  | .microsecond => "microsecond must be in 0..999999"
  | .offset microseconds =>
      "offset must be a timedelta strictly between -timedelta(hours=24) and " ++
        "timedelta(hours=24), not " ++ durationText microseconds ++ "."

structure Date where
  year : Nat
  month : Nat
  day : Nat
deriving DecidableEq, Repr, Inhabited

/-- A moment on a day; the offset from universal time is in minutes. -/
structure Moment where
  date : Date
  hour : Nat
  minute : Nat
  second : Nat
  microsecond : Nat
  offset : Option Int
deriving DecidableEq, Repr, Inhabited

/-- Every fourth year is a leap year, except for centuries that 400 does not divide. -/
def isLeapYear (year : Nat) : Bool :=
  year % 4 == 0 && (year % 100 != 0 || year % 400 == 0)

def daysInMonth (year month : Nat) : Nat :=
  if month == 2 then (if isLeapYear year then 29 else 28)
  else if month == 4 || month == 6 || month == 9 || month == 11 then 30
  else 31

namespace Date

/-- The day with the given parts, if there is one. -/
def of (year month day : Int) : Except CalendarFault Date :=
  if year < 1 || 9999 < year then .error (.year year)
  else if month < 1 || 12 < month then .error .month
  else if day < 1 || (daysInMonth year.toNat month.toNat : Int) < day then .error .day
  else .ok ⟨year.toNat, month.toNat, day.toNat⟩

def iso (date : Date) : String :=
  decimalPadded 4 date.year ++ "-" ++ decimalPadded 2 date.month ++ "-" ++ decimalPadded 2 date.day

/-- The parts of a date, as the arguments of a literal. -/
def literalParts (date : Date) : List String :=
  [toString date.year, toString date.month, toString date.day]

def literal (date : Date) : String :=
  "datetime.date(" ++ ", ".intercalate date.literalParts ++ ")"

def ordinal (date : Date) : Nat :=
  let before := date.year - 1
  let months := (List.range (date.month - 1)).map fun month => daysInMonth date.year (month + 1)
  365 * before + before / 4 - before / 100 + before / 400 + months.sum + date.day - 1

/-- The day so many days after the first day of year 1. Years are counted from March, so that a
leap day ends its year; 306 days lie between the first of March and the end of a year. -/
def ofOrdinal (ordinal : Nat) : Date :=
  let days := ordinal + 306
  let dayOfEra := days % 146097
  let yearOfEra := (dayOfEra - dayOfEra / 1460 + dayOfEra / 36524 - dayOfEra / 146096) / 365
  let dayOfYear := dayOfEra - (365 * yearOfEra + yearOfEra / 4 - yearOfEra / 100)
  let monthFromMarch := (5 * dayOfYear + 2) / 153
  let year := days / 146097 * 400 + yearOfEra
  let day := dayOfYear - (153 * monthFromMarch + 2) / 5 + 1
  if monthFromMarch < 10 then ⟨year, monthFromMarch + 3, day⟩
  else ⟨year + 1, monthFromMarch - 9, day⟩

end Date

namespace Moment

/-- The moment with the given parts, if there is one. -/
def of (year month day hour minute second microsecond : Int) (offset : Option Int) :
    Except CalendarFault Moment := do
  let date ← Date.of year month day
  if hour < 0 || 23 < hour then .error .hour
  else if minute < 0 || 59 < minute then .error .minute
  else if second < 0 || 59 < second then .error .second
  else if microsecond < 0 || 999999 < microsecond then .error .microsecond
  else return ⟨date, hour.toNat, minute.toNat, second.toNat, microsecond.toNat, offset⟩

/-- An offset in microseconds has to stay within one day in either direction. -/
def checkOffset (microseconds : Int) : Except CalendarFault Unit :=
  if microseconds ≤ -dayLength || dayLength ≤ microseconds then .error (.offset microseconds)
  else .ok ()

def clock (moment : Moment) : String :=
  decimalPadded 2 moment.hour ++ ":" ++ decimalPadded 2 moment.minute ++ ":" ++
    decimalPadded 2 moment.second

def offsetText (minutes : Int) : String :=
  (if minutes < 0 then "-" else "+") ++ decimalPadded 2 (minutes.natAbs / 60) ++ ":" ++
    decimalPadded 2 (minutes.natAbs % 60)

/-- Date and time of day around a separator, with a fraction of six digits when there is one and
the offset when there is one. -/
def iso (separator : String) (moment : Moment) : String :=
  moment.date.iso ++ separator ++ moment.clock ++
    (if moment.microsecond == 0 then "" else "." ++ decimalPadded 6 moment.microsecond) ++
    (moment.offset.map offsetText).getD ""

def offsetLiteral (minutes : Int) : String :=
  if minutes == 0 then "datetime.timezone.utc"
  else "datetime.timezone(" ++ durationText (minutes * minuteLength) ++ ")"

/-- A moment as a literal: seconds and microseconds at the end are left out when they are zero. -/
def literal (moment : Moment) : String :=
  let seconds :=
    if moment.microsecond != 0 then [toString moment.second, toString moment.microsecond]
    else if moment.second != 0 then [toString moment.second]
    else []
  let zone := match moment.offset with
    | none => []
    | some minutes => ["tzinfo=" ++ offsetLiteral minutes]
  "datetime.datetime(" ++ ", ".intercalate (moment.date.literalParts ++
    [toString moment.hour, toString moment.minute] ++ seconds ++ zone) ++ ")"

/-- Microseconds since the start of year 1, in universal time when the offset is known. -/
def instant (moment : Moment) : Int :=
  let minutes : Int := (moment.date.ordinal * 24 + moment.hour) * 60 + moment.minute
  ((minutes - moment.offset.getD 0) * 60 + moment.second) * 1000000 + moment.microsecond

/-- The moment so many milliseconds after the start of 1970, in universal time. -/
def ofEpoch (milliseconds : Nat) : Moment :=
  let seconds := milliseconds / 1000
  let start : Date := ⟨1970, 1, 1⟩
  ⟨Date.ofOrdinal (start.ordinal + seconds / 86400), seconds / 3600 % 24, seconds / 60 % 60,
    seconds % 60, milliseconds % 1000 * 1000, some 0⟩

/-- The stamp of a moment in file names: to the millisecond, cut off, with the year written
without padding. -/
def stamp (moment : Moment) : String :=
  toString moment.date.year ++ "-" ++ decimalPadded 2 moment.date.month ++ "-" ++
    decimalPadded 2 moment.date.day ++ "T" ++ moment.clock ++ "." ++
    decimalPadded 3 (moment.microsecond / 1000) ++ "Z"

end Moment

end EntityDiagram
