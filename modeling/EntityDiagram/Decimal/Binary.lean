/-!
# Double-precision numbers, exactly

A double is kept as its 64-bit pattern, so that equality is plain and every question about its
value is settled in whole numbers. A finite double is a sign and a magnitude `m * 2 ^ q`.
-/

namespace EntityDiagram.Decimal

-- Powers are those of the core library, whatever else is imported.
attribute [local instance (high)] instPowNat

/-- A double-precision number, by its bit pattern. -/
structure Double where
  bits : UInt64
deriving DecidableEq, Repr, Inhabited

/-- What a bit pattern stands for: a finite magnitude is `significand * 2 ^ exponent`. -/
inductive Magnitude where
  | finite (significand : Nat) (exponent : Int)
  | infinite
  | undefined
deriving DecidableEq, Repr

namespace Double

/-- The fraction is in the lowest bits, below the exponent and the sign. -/
def fractionBits : Nat := 52

def exponentBits : Nat := 11

def isNegative (x : Double) : Bool :=
  x.bits ≥ 0x8000000000000000

def exponentField (x : Double) : Nat :=
  x.bits.toNat / 2 ^ fractionBits % 2 ^ exponentBits

def fractionField (x : Double) : Nat :=
  x.bits.toNat % 2 ^ fractionBits

/-- The value without its sign. -/
def magnitude (x : Double) : Magnitude :=
  if x.exponentField == 2047 then
    if x.fractionField == 0 then .infinite else .undefined
  else if x.exponentField == 0 then .finite x.fractionField (-1074)
  else .finite (2 ^ fractionBits + x.fractionField) ((x.exponentField : Int) - 1075)

def isZero (x : Double) : Bool :=
  x.bits == 0 || x.bits == 0x8000000000000000

def withSign (negative : Bool) (pattern : Nat) : Double :=
  ⟨UInt64.ofNat (if negative then 2 ^ (fractionBits + exponentBits) + pattern else pattern)⟩

/-- Positive infinity, without its sign. -/
def infinityPattern : Nat := 2047 * 2 ^ fractionBits

def infinity : Double := withSign false infinityPattern

def undefinedValue : Double := withSign false (infinityPattern + 2 ^ (fractionBits - 1))

/-- The quotient of two numbers rounded to a whole number, a half going to the even neighbour. -/
def roundedQuotient (numerator denominator : Nat) : Nat :=
  let quotient := numerator / denominator
  match compare (2 * (numerator % denominator)) denominator with
  | .lt => quotient
  | .gt => quotient + 1
  | .eq => quotient + quotient % 2

/-- `numerator / denominator / 2 ^ exponent` as a quotient of whole numbers. -/
def scaled (numerator denominator : Nat) (exponent : Int) : Nat × Nat :=
  (numerator * 2 ^ (-exponent).toNat, denominator * 2 ^ exponent.toNat)

/-- The exponent at which a positive quotient has a significand of 53 bits, or the least one. -/
def exponentFor (numerator denominator : Nat) : Int :=
  let guess : Int := (numerator.log2 : Int) - denominator.log2 - fractionBits
  let (top, bottom) := scaled numerator denominator guess
  let fitted := if top / bottom < 2 ^ fractionBits then guess - 1 else guess
  max fitted (-1074)

/-- The pattern of the double nearest to a quotient, a tie going to the even significand. -/
def patternOfRatio (numerator denominator : Nat) : Nat :=
  if numerator == 0 then 0
  else
    let exponent := exponentFor numerator denominator
    let (top, bottom) := scaled numerator denominator exponent
    let pattern := (exponent + 1074).toNat * 2 ^ fractionBits + roundedQuotient top bottom
    min pattern infinityPattern

def ofRatio (negative : Bool) (numerator denominator : Nat) : Double :=
  withSign negative (patternOfRatio numerator denominator)

/-- The double nearest to `± digits * 10 ^ exponent`. Exponents far beyond the range of doubles
are cut off first, where they make no difference any more. -/
def ofDecimal (negative : Bool) (digits : Nat) (exponent : Int) : Double :=
  let count : Int := (Nat.toDigits 10 digits).length
  if digits == 0 || count + exponent < -400 then withSign negative 0
  else if count + exponent > 400 then withSign negative infinityPattern
  else ofRatio negative (digits * 10 ^ exponent.toNat) (10 ^ (-exponent).toNat)

def ofInt (n : Int) : Double :=
  ofRatio (n < 0) n.natAbs 1

def wholePart (x : Double) : Nat :=
  match x.magnitude with
  | .finite significand exponent => significand * 2 ^ exponent.toNat / 2 ^ (-exponent).toNat
  | _ => 0

def negate (x : Double) : Double :=
  ⟨x.bits ^^^ 0x8000000000000000⟩

def add (x y : Double) : Double :=
  ⟨(Float.ofBits x.bits + Float.ofBits y.bits).toBits⟩

def mul (x y : Double) : Double :=
  ⟨(Float.ofBits x.bits * Float.ofBits y.bits).toBits⟩

end Double

end EntityDiagram.Decimal
