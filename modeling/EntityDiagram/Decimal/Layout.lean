import EntityDiagram.Decimal.Shortest

/-!
# Laying out a number

Chosen digits become text by a few decisions, kept in one record: how the digits are chosen, which
magnitudes are written positionally, and whether a whole number keeps its point. Other magnitudes
get a signed exponent of at least two digits.
-/

namespace EntityDiagram.Decimal

/-- How a double is written. A value of decimal exponent `e`, with its first digit at `10 ^ e`, is
positional when `positionalFrom ≤ e` and `e < positionalBelow`. -/
structure Layout where
  /-- A fixed number of significant digits; without it the fewest that read back. -/
  significant : Option Nat
  positionalFrom : Int
  positionalBelow : Int
  /-- Whether a whole number is written with `.0`. -/
  keepsPoint : Bool

/-- Digits with a point after the first, as they stand before an exponent. -/
def withPoint (digits : List Char) : List Char :=
  match digits with
  | [] => []
  | [digit] => [digit]
  | digit :: more => digit :: '.' :: more

/-- A sign and at least two digits. -/
def exponentText (exponent : Int) : List Char :=
  let digits := Nat.toDigits 10 exponent.natAbs
  (if exponent < 0 then '-' else '+') ::
    (List.replicate (2 - digits.length) '0' ++ digits)

/-- Digits in positional notation, the first of them at `10 ^ leading`. -/
def positional (keepsPoint : Bool) (digits : List Char) (leading : Int) : List Char :=
  if leading < 0 then
    '0' :: '.' :: (List.replicate (-leading - 1).toNat '0' ++ digits)
  else
    let whole := leading.toNat + 1
    if digits.length ≤ whole then
      digits ++ List.replicate (whole - digits.length) '0' ++
        (if keepsPoint then ['.', '0'] else [])
    else digits.take whole ++ '.' :: digits.drop whole

def Layout.magnitude (layout : Layout) (significand : Nat) (exponent : Int) : List Char :=
  let chosen := match layout.significant with
    | some count => significantDigits count significand exponent
    | none => shortestDigits significand exponent
  let digits := Nat.toDigits 10 chosen.digits
  let leading : Int := chosen.exponent + digits.length - 1
  if layout.positionalFrom ≤ leading && leading < layout.positionalBelow then
    positional layout.keepsPoint digits leading
  else withPoint digits ++ 'e' :: exponentText leading

def Layout.render (layout : Layout) (x : Double) : String :=
  let sign := if x.isNegative then "-" else ""
  match x.magnitude with
  | .undefined => "nan"
  | .infinite => sign ++ "inf"
  | .finite significand exponent => sign ++ String.ofList (layout.magnitude significand exponent)

end EntityDiagram.Decimal
