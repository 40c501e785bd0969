/-!
# Histograms

A histogram counts whole microseconds in cells.  Up to eleven binary digits every
value has a cell of its own; beyond, a cell keeps the eleven leading digits, so that
cells are as wide as a value is long and never wider than its thousandth part.

Values beyond the table are counted at one minute, the largest value that a
histogram is meant for, although the table itself reaches a little further.
-/

namespace TransitLoad
namespace Latency

/-! ## Cells -/

/-- The number of binary digits of a value. -/
def binaryLength (value : Nat) : Nat :=
  if value = 0 then 0 else value.log2 + 1

/-- How many trailing binary digits of a value its cell does not tell apart. -/
def droppedDigits (value : Nat) : Nat := binaryLength value - 11

/-- The number of values in the cell of a value. -/
def cellWidth (value : Nat) : Nat := 1 <<< droppedDigits value

/-- The lowest value in the cell of a value, which stands for the cell. -/
def cellFloor (value : Nat) : Nat := value / cellWidth value * cellWidth value

/-- The highest value in the cell of a value. -/
def cellCeiling (value : Nat) : Nat := cellFloor value + cellWidth value - 1

/-- The value in the middle of the cell of a value. -/
def cellMiddle (value : Nat) : Nat := cellFloor value + cellWidth value / 2

/-- The largest value that the table has a cell for. -/
def tableReach : Nat := 67108863

/-- One minute in microseconds. -/
def oneMinute : Nat := 60000000

/-- The value that is counted for a measured one. -/
def counted (microseconds : Nat) : Nat :=
  if tableReach < microseconds then oneMinute else microseconds

/-! ## Counting -/

/-- The cells that hold values, by their lowest values in ascending order, each with
the number of its values. -/
structure Histogram where
  cells : List (Nat × Nat)
  deriving DecidableEq, Inhabited

namespace Histogram

/-- A histogram of no values. -/
def empty : Histogram := ⟨[]⟩

/-- Count one more value in a cell. -/
def increment (cell : Nat) : List (Nat × Nat) → List (Nat × Nat)
  | [] => [(cell, 1)]
  | (other, count) :: cells =>
      if cell < other then (cell, 1) :: (other, count) :: cells
      else if cell = other then (other, count + 1) :: cells
      else (other, count) :: increment cell cells

/-- Count a measured number of microseconds. -/
def record (histogram : Histogram) (microseconds : Nat) : Histogram :=
  ⟨increment (cellFloor (counted microseconds)) histogram.cells⟩

/-- Count several measured numbers of microseconds. -/
def ofList (microseconds : List Nat) : Histogram :=
  microseconds.foldl record empty

/-- How many values were counted. -/
def size (histogram : Histogram) : Nat :=
  histogram.cells.foldr (fun (_, count) size => count + size) 0

/-- The lowest value of the first cell. -/
def lowest (histogram : Histogram) : Nat :=
  match histogram.cells.head? with
  | none => 0
  | some (cell, _) => cell

/-- The highest value of the last cell. -/
def highest (histogram : Histogram) : Nat :=
  match histogram.cells.getLast? with
  | none => 0
  | some (cell, _) => cellCeiling cell

/-- The highest value of the first cell at which the running count, so many values
having been passed already, reaches a rank. -/
def scan (rank passed : Nat) : List (Nat × Nat) → Nat
  | [] => 0
  | (cell, count) :: cells =>
      if rank ≤ passed + count then cellCeiling cell
      else scan rank (passed + count) cells

/-- The value at a rank, the first rank being one. -/
def atRank (histogram : Histogram) (rank : Nat) : Nat :=
  scan rank 0 histogram.cells

end Histogram
end Latency
end TransitLoad
