import TransitLoad.Decimal.Text
import TransitLoad.Json.Value

/-!
# Numbers in JSON

The numeral of a floating point number has the fewest digits that tell the number
apart, a tie going to the even digit.  Numbers that are neither very large nor very small are positional; the
others have an exponent with its sign.
-/

namespace TransitLoad
namespace Json

/-- The bytes of digits. -/
def digitBytes (digits : List Char) : List UInt8 :=
  digits.map fun digit => UInt8.ofNat digit.toNat

/-- Whether a decimal is positional, by the exponent of its first digit. -/
def isPositionalExponent (exponent : Int) : Bool :=
  -5 ≤ exponent ∧ exponent < 16

/-- A decimal around its point. -/
def positionalNumeral (isNegative : Bool) (decimal : Decimal) : Numeral :=
  let (whole, fraction) := decimal.positional
  ⟨isNegative, digitBytes whole, some (digitBytes fraction), none⟩

/-- A decimal with its point after the first digit, and an exponent. -/
def scientificNumeral (isNegative : Bool) (decimal : Decimal) : Numeral :=
  let fraction := digitBytes (decimal.digits.drop 1)
  ⟨isNegative, digitBytes (decimal.digits.take 1),
    if fraction.isEmpty then none else some fraction,
    some ⟨decimal.exponent < 0, digitBytes (Nat.toDigits 10 decimal.exponent.natAbs)⟩⟩

/-- The numeral of a finite floating point number. -/
def Numeral.ofBinary64 (number : Binary64) : Numeral :=
  let decimal := Decimal.shortest .even number
  if isPositionalExponent decimal.exponent then positionalNumeral number.isNegative decimal
  else scientificNumeral number.isNegative decimal

/-- A floating point number as a value; what is not finite has none. -/
def Value.ofBinary64 (number : Binary64) : Value :=
  if number.isFinite then .number (.ofBinary64 number) else .null

end Json
end TransitLoad
