import EntityDiagram.Fault

/-!
# Stamps of given moments

A moment can be given by values for its parts: the year, the month and the day, and then the parts
of the time of day, which may be left out. An offset from universal time may be given as a number of
minutes. It is looked at first and does not change the stamp.
-/

namespace EntityDiagram

-- Powers are those of the core library, whatever else is imported.
attribute [local instance (high)] instPowNat

open Decimal (Double)

/-- Why given values name no moment. -/
inductive StampFault where
  /-- A part that is needed is missing; parts are counted from one. -/
  | missingPart (name : String) (position : Nat)
  | notWhole (typeName : String)
  | beyondWord
  | aboveHalfWord
  | belowHalfWord
  | offsetType (typeName : String)
  | undefinedOffset
  | infiniteOffset
  | offsetBeyondHalfWord
  | offsetTooLong (days : Int)
  | calendar (fault : CalendarFault)
deriving DecidableEq, Repr

def mostDays : Nat := 999999999

def StampFault.message : StampFault → String
  | missingPart name position =>
      "function missing required argument '" ++ name ++ "' (pos " ++ toString position ++ ")"
  | notWhole typeName => "'" ++ typeName ++ "' object cannot be interpreted as an integer"
  | beyondWord => "Python int too large to convert to C long"
  | aboveHalfWord => "signed integer is greater than maximum"
  | belowHalfWord => "signed integer is less than minimum"
  | offsetType typeName => "unsupported type for timedelta minutes component: " ++ typeName
  | undefinedOffset => "cannot convert float NaN to integer"
  | infiniteOffset => "cannot convert float infinity to integer"
  | offsetBeyondHalfWord => "Python int too large to convert to C int"
  | offsetTooLong days =>
      "days=" ++ toString days ++ "; must have magnitude <= " ++ toString mostDays
  | calendar fault => fault.message

namespace Stamp

def fits (bits : Nat) (n : Int) : Bool := -2 ^ (bits - 1) ≤ n && n < 2 ^ (bits - 1)

/-- A number of minutes in microseconds. A fraction of a minute is first made a floating-point
number of microseconds, and the sum goes to the nearest whole number, a half to the even one. -/
def minutesInMicroseconds (minutes : Double) : Except StampFault Int :=
  match minutes.magnitude with
  | .undefined => .error .undefinedOffset
  | .infinite => .error .infiniteOffset
  | .finite significand exponent =>
      let whole := minutes.wholePart
      let scale := 2 ^ (-exponent).toNat
      let fraction := significand * 2 ^ exponent.toNat % scale
      let length := minuteLength.toNat
      let behind := Double.ofRatio false (length * fraction) scale
      let microseconds :=
        match behind.magnitude with
        | .finite significand exponent =>
            let unit := 2 ^ (-exponent).toNat
            Double.roundedQuotient
              (whole * length * unit + significand * 2 ^ exponent.toNat) unit
        | _ => whole * length
      .ok (if minutes.isNegative then -(microseconds : Int) else microseconds)

def offsetLength : Value → Except StampFault Int
  | .scalar (.bool b) => .ok (if b then minuteLength else 0)
  | .scalar (.int minutes) => .ok (minutes * minuteLength)
  | .scalar (.float minutes) => minutesInMicroseconds minutes
  | .scalar (.undefined _) => .error .undefinedOffset
  | other => .error (.offsetType other.typeName)

/-- An offset has to be a span of time, and to stay within a day. -/
def checkOffset (offset : Value) : Except StampFault Unit := do
  let microseconds ← offsetLength offset
  let days := Int.fdiv microseconds dayLength
  if !fits 32 days then .error .offsetBeyondHalfWord
  else if mostDays < days.natAbs then .error (.offsetTooLong days)
  else (Moment.checkOffset microseconds).mapError .calendar

def wholePart : Value → Except StampFault Int
  | .scalar (.bool b) => .ok (if b then 1 else 0)
  | .scalar (.int n) =>
      if !fits 64 n then .error .beyondWord
      else if fits 32 n then .ok n
      else .error (if n < 0 then .belowHalfWord else .aboveHalfWord)
  | other => .error (.notWhole other.typeName)

/-- The part at a position, which may be left out if it has no name here. -/
def partAt (parts : List Value) (position : Nat) (name : Option String) : Except StampFault Int :=
  match parts[position - 1]?, name with
  | some part, _ => wholePart part
  | none, some name => .error (.missingPart name position)
  | none, none => .ok 0

def moment (parts : List Value) : Except StampFault Moment := do
  let year ← partAt parts 1 "year"
  let month ← partAt parts 2 "month"
  let day ← partAt parts 3 "day"
  let hour ← partAt parts 4 none
  let minute ← partAt parts 5 none
  let second ← partAt parts 6 none
  let microsecond ← partAt parts 7 none
  (Moment.of year month day hour minute second microsecond none).mapError .calendar

def ofParts (parts : List Value) (offset : Option Value) : Except StampFault String := do
  offset.forM checkOffset
  return (← moment parts).stamp

end Stamp

end EntityDiagram
