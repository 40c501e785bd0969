import TransitLoad.Decimal.Shortest

/-!
# Written decimals

Decimals written around a point, and the two ways in which floating point numbers
appear in messages and lines: with the fewest digits that tell them apart, or rounded
to a fixed number of places.
-/

namespace TransitLoad
namespace Decimal

/-- Zeros, so many of them. -/
def zeros (count : Nat) : List Char :=
  List.replicate count '0'

/-- The digits around a decimal point, with a zero where a side has none. -/
def positional (decimal : Decimal) : List Char × List Char :=
  if decimal.point ≤ 0 then
    (['0'], zeros (-decimal.point).toNat ++ decimal.digits)
  else
    let place := decimal.point.toNat
    let fraction := decimal.digits.drop place
    (decimal.digits.take place ++ zeros (place - decimal.digits.length),
      if fraction.isEmpty then ['0'] else fraction)

/-- The exponent of the first digit. -/
def exponent (decimal : Decimal) : Int := decimal.point - 1

/-- A decimal with a point. -/
def positionalText (decimal : Decimal) : String :=
  let (whole, fraction) := decimal.positional
  String.ofList whole ++ "." ++ String.ofList fraction

/-- A finite number with the fewest digits that tell it apart, and no exponent.  A tie
goes to the larger decimal. -/
def plainText (number : Binary64) : String :=
  (if number.isNegative then "-" else "") ++ (shortest .larger number).positionalText

/-- A number rounded to so many places, a tie going to the even digit. -/
def fixedText (places : Nat) (number : Binary64) : String :=
  let sign := if number.isNegative then "-" else ""
  if number.isUndefined then "NaN"
  else if number.isFinite then
    let parts := roundQuotient (number.units * Nat.pow 10 places) Binary64.unitsPerOne
    let digits := Nat.toDigits 10 parts
    let padded := zeros (places + 1 - digits.length) ++ digits
    let whole := padded.take (padded.length - places)
    let fraction := padded.drop (padded.length - places)
    sign ++ String.ofList whole ++ "." ++ String.ofList fraction
  else sign ++ "inf"

end Decimal
end TransitLoad
