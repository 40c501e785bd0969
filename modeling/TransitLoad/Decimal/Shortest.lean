import TransitLoad.Binary64

/-!
# Shortest decimals

The decimal with the fewest digits among those that round to a given floating
point number; of several with as few digits, the one nearest to the number.  A number
half way between two of them is a tie, which a rule decides.

The decimals of one length form a grid.  If the interval of reals that round to
the number holds a point of the grid at all, it holds one of the two grid points
next to the number, so only these are looked at, for one digit, two digits and so
on.  Seventeen digits always suffice.
-/

namespace TransitLoad

/-- The decimal `0.d₁d₂d₃… · 10 ^ point`. -/
structure Decimal where
  digits : List Char
  point : Int
  deriving DecidableEq

/-- Which of two decimals stands for a number half way between them. -/
inductive TieRule where
  /-- The larger one. -/
  | larger
  /-- The one with the even last digit. -/
  | even
  deriving DecidableEq

namespace Decimal

/-- The decimal that stands for zero. -/
def zero : Decimal := ⟨['0'], 1⟩

/-- Numbers are compared in parts of `10 ^ -341`, the seventeenth digit of the
least positive number. -/
def finestPlace : Nat := 341

/-- The decimal of a positive count of parts of `10 ^ -finestPlace`. -/
def ofParts (parts : Nat) : Decimal :=
  let digits := Nat.toDigits 10 parts
  let significant := (digits.reverse.dropWhile (· == '0')).reverse
  ⟨significant, (digits.length : Int) - finestPlace⟩

/-- The reals that round to a number, and the number itself, in parts of
`10 ^ -finestPlace` times a common denominator. -/
structure RoundingInterval where
  lowest : Nat
  value : Nat
  highest : Nat
  /-- Whether the ends round to the number as well. -/
  isClosed : Bool

/-- The common denominator of rounding intervals. -/
def intervalDenominator : Nat := 2 * Binary64.unitsPerOne

/-- The interval around positive magnitude bits.  Its ends lie half way to the
neighbours, and belong to it if the bits are even. -/
def roundingInterval (magnitude : Nat) : RoundingInterval :=
  let below := Binary64.unitsOfMagnitude (magnitude - 1)
  let size := Binary64.unitsOfMagnitude magnitude
  let above := Binary64.unitsOfMagnitude (magnitude + 1)
  let scale := Nat.pow 10 finestPlace
  ⟨(below + size) * scale, 2 * size * scale, (size + above) * scale, magnitude % 2 = 0⟩

/-- Whether a count of parts lies in an interval. -/
def RoundingInterval.contains (interval : RoundingInterval) (parts : Nat) : Bool :=
  let position := parts * intervalDenominator
  if interval.isClosed then interval.lowest ≤ position && position ≤ interval.highest
  else interval.lowest < position && position < interval.highest

/-- The grid point next to the value that lies in the interval and is nearer, if
there is one.  Grid points are the multiples of the step. -/
def RoundingInterval.nearestOnGrid?
    (interval : RoundingInterval)
    (tieRule : TieRule)
    (step : Nat) : Option Nat :=
  let below := interval.value / (intervalDenominator * step) * step
  let above := below + step
  match interval.contains below, interval.contains above with
  | true, true =>
      let middle := (below + above) * intervalDenominator
      if 2 * interval.value < middle then some below
      else if middle < 2 * interval.value then some above
      else if tieRule = .even && below / step % 2 == 0 then some below
      else some above
  | true, false => some below
  | false, true => some above
  | false, false => none

/-- Search ever finer grids, so many of them, for a point of the interval. -/
def RoundingInterval.firstOnGrids
    (interval : RoundingInterval)
    (tieRule : TieRule)
    (step : Nat) : Nat → Nat
  | 0 => interval.value / intervalDenominator
  | grids + 1 =>
      match interval.nearestOnGrid? tieRule step with
      | some parts => parts
      | none => interval.firstOnGrids tieRule (step / 10) grids

/-- The shortest decimal that rounds to positive magnitude bits. -/
def ofMagnitude (tieRule : TieRule) (magnitude : Nat) : Decimal :=
  let interval := roundingInterval magnitude
  let length := (Nat.toDigits 10 (interval.value / intervalDenominator)).length
  ofParts (interval.firstOnGrids tieRule (Nat.pow 10 (length - 1)) 17)

/-- The shortest decimal of the size of a finite number. -/
def shortest (tieRule : TieRule) (number : Binary64) : Decimal :=
  if number.magnitude = 0 then zero else ofMagnitude tieRule number.magnitude

end Decimal
end TransitLoad
