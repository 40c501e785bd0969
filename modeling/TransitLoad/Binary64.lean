/-!
# Binary64 numbers

A 64-bit floating point number as its bits: a sign, eleven bits of exponent and
fifty-two bits of fraction.  Without its sign a finite number is a whole number
of units, one unit being `2 ^ -1074`; the bits below the sign, read as one whole
number, grow with the number they stand for.

Arithmetic is exact arithmetic on rationals followed by one rounding to the
nearest number, a tie going to the even neighbour.
-/

namespace TransitLoad

/-- Divide and round to the nearest whole number; a tie goes to the even one. -/
def roundQuotient (numerator denominator : Nat) : Nat :=
  let quotient := numerator / denominator
  let remainder := numerator % denominator
  if 2 * remainder < denominator then quotient
  else if denominator < 2 * remainder then quotient + 1
  else quotient + quotient % 2

/-- A 64-bit floating point number. -/
structure Binary64 where
  bits : UInt64
  deriving DecidableEq, Inhabited

namespace Binary64

/-! ## Reading the bits -/

/-- The sign bit, `2 ^ 63`. -/
def signBit : Nat := 9223372036854775808

/-- How many fractions share an exponent, `2 ^ 52`. -/
def fractionCount : Nat := 4503599627370496

/-- How many units make up one, `2 ^ 1074`. -/
def unitsPerOne : Nat := 1 <<< 1074

/-- The bits of the least infinite magnitude, all finite ones being below. -/
def infiniteMagnitude : Nat := 2047 * fractionCount

/-- The bits below the sign. -/
def magnitude (number : Binary64) : Nat :=
  number.bits.toNat % signBit

/-- Whether the sign bit is set. -/
def isNegative (number : Binary64) : Bool :=
  signBit ≤ number.bits.toNat

/-- Whether the number is neither infinite nor undefined. -/
def isFinite (number : Binary64) : Bool :=
  number.magnitude < infiniteMagnitude

/-- Whether the bits stand for no number at all. -/
def isUndefined (number : Binary64) : Bool :=
  infiniteMagnitude < number.magnitude

/-- The size, in units of `2 ^ -1074`, that finite magnitude bits stand for. -/
def unitsOfMagnitude (magnitude : Nat) : Nat :=
  if magnitude < fractionCount then magnitude
  else (fractionCount + magnitude % fractionCount) <<< (magnitude / fractionCount - 1)

/-- The size of a finite number in units of `2 ^ -1074`. -/
def units (number : Binary64) : Nat :=
  unitsOfMagnitude number.magnitude

/-- The rational that a finite number stands for. -/
def toRat (number : Binary64) : Rat :=
  let size : Rat := (number.units : Rat) / (unitsPerOne : Rat)
  if number.isNegative then -size else size

/-! ## Rounding -/

/-- The magnitude bits nearest to a non-negative quotient.  The units of the
quotient lose as many binary places as keep fifty-three; the carry of a rounding
up runs from the fraction into the exponent.  Sizes beyond the range become
infinite. -/
def nearestMagnitude (numerator denominator : Nat) : Nat :=
  let scaled := numerator * unitsPerOne
  let places := (scaled / denominator).log2 - 52
  min infiniteMagnitude
    (places * fractionCount + roundQuotient scaled (denominator <<< places))

/-- The number nearest to a rational. -/
def ofRat (value : Rat) : Binary64 :=
  let size := nearestMagnitude value.num.natAbs value.den
  ⟨UInt64.ofNat (if value < 0 then signBit + size else size)⟩

/-- The number nearest to a whole number. -/
def ofNat (value : Nat) : Binary64 :=
  ofRat value

/-! ## Arithmetic on finite numbers -/

instance : Add Binary64 := ⟨fun left right => ofRat (left.toRat + right.toRat)⟩

instance : Mul Binary64 := ⟨fun left right => ofRat (left.toRat * right.toRat)⟩

/-- The divisor is not zero. -/
instance : Div Binary64 := ⟨fun left right => ofRat (left.toRat / right.toRat)⟩

end Binary64
end TransitLoad
