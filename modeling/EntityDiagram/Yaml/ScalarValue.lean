import EntityDiagram.Text.Base64
import EntityDiagram.Text.DecimalDigit
import EntityDiagram.Text.LowerCase
import EntityDiagram.Value
import EntityDiagram.Yaml.Fault
import EntityDiagram.Yaml.Tag
import EntityDiagram.Yaml.Token.Property

/-!
# Values of tagged scalars

A scalar's tag says how its text is read. An explicit tag can stand before any text, so reading
can fail; plain scalars that follow the pattern of their tag hardly ever do.
-/

namespace EntityDiagram.Yaml

open Decimal (Double)

/-! ### Digits and blanks of numbers -/

/-- A code point of a number in ASCII: digits and blanks of every script become those of ASCII, and
other code points stand for themselves or for nothing that a number can hold. -/
def numberChar : CodePoint → Char
  | .char c =>
      if c.toNat < 0x80 then c
      else if Text.isBlank c then ' '
      else
        match Text.digitValue? c with
        | some digit => Char.ofNat (0x30 + digit)
        | none => '?'
  | .surrogate _ => '?'

def isNumberBlank (c : Char) : Bool :=
  c == ' ' || ('\t' ≤ c && c ≤ '\r')

/-- The text of a number in ASCII without the blanks around it. -/
def numberText (text : Text) : List Char :=
  (((text.map numberChar).dropWhile isNumberBlank).reverse.dropWhile isNumberBlank).reverse

/-- A text without its sign, and whether that is a minus. -/
def splitSign : Text → Bool × Text
  | .char '-' :: rest => (true, rest)
  | .char '+' :: rest => (false, rest)
  | text => (false, text)

def splitColons (current : Text) : Text → List Text
  | [] => [current.reverse]
  | c :: rest =>
      if c = ':' then current.reverse :: splitColons [] rest else splitColons (c :: current) rest

/-! ### Whole numbers -/

/-- The letter that may mark a base behind a zero. -/
def baseLetter? (base : Nat) : Option Char :=
  if base == 2 then some 'b' else if base == 8 then some 'o' else if base == 16 then some 'x'
  else none

/-- Digits without the mark of their base. -/
def dropBaseMark (base : Nat) : List Char → List Char
  | '0' :: letter :: rest =>
      if some letter.toLower == baseLetter? base then rest else '0' :: letter :: rest
  | digits => digits

def numberInBase? (base : Nat) (digits : List Char) : Option Nat :=
  if digits.isEmpty then none
  else
    digits.foldl
      (fun number c => do
        let number ← number
        let digit ← Text.hexValue? c
        if digit < base then some (number * base + digit) else none)
      (some 0)

/-- Reads a whole number with an optional sign, between optional blanks. Decimal digits are counted
before anything that follows them is looked at. -/
def readInteger (base : Nat) (text : Text) : Except ScalarFault Int :=
  let number := numberText text
  let digits := dropBaseMark base (dropSign number)
  let count := (digits.takeWhile Char.isDigit).length
  if base == 10 && maxDecimalDigits < count then .error (.tooManyDigits count)
  else
    match numberInBase? base digits with
    | none => .error (.badInteger base text)
    | some magnitude => .ok (if number.head? == some '-' then -(magnitude : Int) else magnitude)

/-- The magnitude of an integer scalar: binary, hexadecimal, octal, to the base sixty or decimal. -/
def integerMagnitude : Text → Except ScalarFault Int
  | [] => .error .emptyNumber
  | [.char '0'] => .ok 0
  | .char '0' :: .char 'b' :: rest => readInteger 2 rest
  | .char '0' :: .char 'x' :: rest => readInteger 16 rest
  | .char '0' :: rest => readInteger 8 (.char '0' :: rest)
  | digits =>
      if digits.contains ':' then do
        let parts ← (splitColons [] digits).mapM (readInteger 10)
        return parts.foldl (fun sum part => sum * 60 + part) 0
      else readInteger 10 digits

def integerValue (text : Text) : Except ScalarFault Int := do
  let (negative, digits) := splitSign (text.filter (· != '_'))
  let magnitude ← integerMagnitude digits
  return if negative then -magnitude else magnitude

/-! ### Numbers with a point -/

def exponentValue? : List Char → Option Int
  | [] => some 0
  | 'e' :: rest =>
      let digits := dropSign rest
      if digits.isEmpty || !digits.all Char.isDigit then none
      else
        let number : Int := digits.foldl (fun n c => n * 10 + (c.toNat - 0x30)) (0 : Nat)
        some (if rest.head? == some '-' then -number else number)
  | _ => none

def decimalValue? (negative : Bool) (text : List Char) : Option Double :=
  let whole := text.takeWhile Char.isDigit
  let rest := text.dropWhile Char.isDigit
  let (fraction, rest) := match rest with
    | '.' :: more => (more.takeWhile Char.isDigit, more.dropWhile Char.isDigit)
    | other => ([], other)
  if whole.isEmpty && fraction.isEmpty then none
  else do
    let exponent ← exponentValue? rest
    let digits := (whole ++ fraction).foldl (fun n c => n * 10 + (c.toNat - 0x30)) 0
    return Double.ofDecimal negative digits (exponent - fraction.length)

/-- Reads a number, infinity or the undefined value between optional blanks. -/
def readNumber (text : Text) : Except ScalarFault Double :=
  let number := numberText text
  let negative := number.head? == some '-'
  let body := dropSign number
  if body == "inf".toList || body == "infinity".toList then
    .ok (Double.withSign negative Double.infinityPattern)
  else if body == "nan".toList then .ok Double.undefinedValue
  else
    match decimalValue? negative body with
    | some value => .ok value
    | none => .error (.badNumber text)

/-- Adds up parts to the base sixty, the lowest part first. The value of every place has to be a
floating-point number. -/
def sumSixtieths (sum : Double) (unit : Nat) : List Double → Except ScalarFault Double
  | [] => .ok sum
  | part :: rest =>
      let place := Double.ofInt unit
      if place == Double.infinity then .error .beyondFloat
      else sumSixtieths (sum.add (part.mul place)) (unit * 60) rest

/-- A number as a scalar: an undefined one is told by its origin. -/
def numberScalar (origin : Origin) (number : Double) : Scalar :=
  match number.magnitude with
  | .undefined => .undefined (some origin)
  | _ => .float number

def numberMagnitude (text : Text) : Except ScalarFault Double :=
  if text = ".inf" then .ok Double.infinity
  else if text.contains ':' then do
    let parts ← (splitColons [] text).mapM readNumber
    sumSixtieths (Double.ofInt 0) 1 parts.reverse
  else readNumber text

/-- The value of a scalar that is a number with a point. The plain spelling of the undefined value
is the same wherever it stands. -/
def numberValue (origin : Origin) (text : Text) : Except ScalarFault Scalar := do
  let lowered := Text.lower (text.filter (· != '_'))
  let (negative, body) := splitSign lowered
  if lowered.isEmpty then .error .emptyNumber
  else if body = ".nan" then return .undefined none
  else
    let magnitude ← numberMagnitude body
    return numberScalar origin (if negative then magnitude.negate else magnitude)

/-! ### Other scalars -/

def trueWords : List Text := ["yes", "true", "on"]

def falseWords : List Text := ["no", "false", "off"]

def truthValue (text : Text) : Except ScalarFault Bool :=
  let word := Text.lower text
  if trueWords.contains word then .ok true
  else if falseWords.contains word then .ok false
  else .error (.badTruth word)

def decimalNumber (digits : List Char) : Int :=
  digits.foldl (fun n c => n * 10 + (c.toNat - 0x30)) (0 : Nat)

/-- The microseconds of a fraction: its first six digits. -/
def microseconds (fraction : List Char) : Int :=
  decimalNumber ((fraction ++ List.replicate 6 '0').take 6)

def zoneOffset : Option (Char × List Char × List Char) → Except CalendarFault Int
  | none => .ok 0
  | some (sign, hours, minutes) =>
      let magnitude := decimalNumber hours * 60 + decimalNumber minutes
      let offset := if sign == '-' then -magnitude else magnitude
      (fun _ => offset) <$> Moment.checkOffset (offset * minuteLength)

/-- The day or the moment of a timestamp. -/
def timestampValue (text : Text) : Except ScalarFault Scalar :=
  match timestampOf (dropLastFeed text.toChars) with
  | none => .error .badTimestamp
  | some parts =>
      let year := decimalNumber parts.year
      let month := decimalNumber parts.month
      let day := decimalNumber parts.day
      Except.mapError ScalarFault.calendar <|
        match parts.time with
        | none => Scalar.date <$> Date.of year month day
        | some (hour, minute, second, fraction) => do
            let offset ← match parts.zone with
              | none => pure none
              | some zone => some <$> zoneOffset zone
            Scalar.moment <$> Moment.of year month day (decimalNumber hour)
              (decimalNumber minute) (decimalNumber second) (microseconds fraction) offset

/-- The bytes of a binary scalar, which is written in ASCII. -/
def binaryValue? (text : Text) : Option (List UInt8) :=
  if text.all fun c => c.toNat < 0x80 then Text.base64Decode? text.toChars else none

end EntityDiagram.Yaml
