import EntityDiagram.Decimal.Binary

/-!
# Choosing decimal digits

Two ways to give a finite double by decimal digits: the fewest digits that read back to it, and a
fixed number of digits rounded from its exact value. Both work in whole numbers.
-/

namespace EntityDiagram.Decimal

-- Powers are those of the core library, whatever else is imported.
attribute [local instance (high)] instPowNat

structure Digits where
  digits : Nat
  exponent : Int
deriving DecidableEq, Repr

/-- Compares `a * 10 ^ i` with `b * 2 ^ j`, exactly. -/
def compareScaled (a : Nat) (i : Int) (b : Nat) (j : Int) : Ordering :=
  compare (a * 10 ^ i.toNat * 2 ^ (-j).toNat) (b * 2 ^ j.toNat * 10 ^ (-i).toNat)

/-- Whether a decimal lies among the numbers that round to `significand * 2 ^ exponent`. The ends
of that interval lie halfway to the two neighbours and belong to it if the significand is even;
below a power of two the gap is half as wide. -/
def readsBack (significand : Nat) (exponent : Int) (decimal : Digits) : Bool :=
  let narrow := significand == 2 ^ Double.fractionBits && exponent > -1074
  let low := if narrow then 4 * significand - 1 else 4 * significand - 2
  let high := 4 * significand + 2
  let ends := significand % 2 == 0
  let toLow := compareScaled decimal.digits decimal.exponent low (exponent - 2)
  let toHigh := compareScaled decimal.digits decimal.exponent high (exponent - 2)
  (toLow == .gt || (ends && toLow == .eq)) && (toHigh == .lt || (ends && toHigh == .eq))

/-- Moves an exponent up while the value is not below that power of ten. -/
def raiseScale (significand : Nat) (exponent : Int) : (steps : Nat) → Int → Int
  | 0, scale => scale
  | steps + 1, scale =>
      if compareScaled 1 scale significand exponent == .gt then scale
      else raiseScale significand exponent steps (scale + 1)

/-- The least power of ten above a positive value. The guess from the binary logarithm is at most
a few steps too low. -/
def scaleOf (significand : Nat) (exponent : Int) : Int :=
  let log : Int := (significand.log2 : Int) + exponent
  raiseScale significand exponent 5 (Int.fdiv (log * 30103) 100000 - 1)

/-- `significand * 2 ^ exponent / 10 ^ place` as a quotient of whole numbers. -/
def onGrid (significand : Nat) (exponent place : Int) : Nat × Nat :=
  (significand * 2 ^ exponent.toNat * 10 ^ (-place).toNat,
    2 ^ (-exponent).toNat * 10 ^ place.toNat)

def stripZeros : (steps : Nat) → Digits → Digits
  | 0, decimal => decimal
  | steps + 1, decimal =>
      if decimal.digits != 0 && decimal.digits % 10 == 0 then
        stripZeros steps ⟨decimal.digits / 10, decimal.exponent + 1⟩
      else decimal

/-- Tries grids of more and more digits. On each of them only the two neighbours of the value can
read back; the nearer one is taken, and the even one on a tie. -/
def searchGrid (significand : Nat) (exponent scale : Int) :
    (count steps : Nat) → Digits
  | _, 0 => ⟨significand * 2 ^ exponent.toNat, 0⟩
  | count, steps + 1 =>
      let place := scale - count
      let (top, bottom) := onGrid significand exponent place
      let below := top / bottom
      let lower : Digits := ⟨below, place⟩
      let upper : Digits := ⟨below + 1, place⟩
      match readsBack significand exponent lower, readsBack significand exponent upper with
      | true, true => ⟨Double.roundedQuotient top bottom, place⟩
      | true, false => lower
      | false, true => upper
      | false, false => searchGrid significand exponent scale (count + 1) steps

/-- The fewest digits that read back to a positive value, nearest to it. -/
def shortestDigits (significand : Nat) (exponent : Int) : Digits :=
  if significand == 0 then ⟨0, 0⟩
  else stripZeros 20 (searchGrid significand exponent (scaleOf significand exponent) 1 17)

/-- A value rounded to a number of significant digits, a half going to the even neighbour, without
zeros at the end. -/
def significantDigits (count significand : Nat) (exponent : Int) : Digits :=
  if significand == 0 then ⟨0, 0⟩
  else
    let place := scaleOf significand exponent - count
    let (top, bottom) := onGrid significand exponent place
    stripZeros (count + 1) ⟨Double.roundedQuotient top bottom, place⟩

end EntityDiagram.Decimal
