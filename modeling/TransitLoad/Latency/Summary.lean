import TransitLoad.Duration
import TransitLoad.Latency.Histogram

/-!
# Latency summaries

What a report says about the samples of one label: their number, extremes, mean and
percentiles in milliseconds, and all samples in the order of recording.  Everything
but the samples themselves is read off a histogram of whole microseconds.
-/

namespace TransitLoad
namespace Latency

/-- The whole microseconds of a latency, or the largest 64-bit number. -/
def microseconds (latency : Duration) : Nat :=
  min latency.wholeMicroseconds (UInt64.size - 1)

/-- The histogram of some latencies. -/
def histogram (samples : List Duration) : Histogram :=
  .ofList (samples.map microseconds)

/-- The rank of a fraction of all values: the product rounded up, and at least
one. -/
def rankAt (fraction : Binary64) (size : Nat) : Nat :=
  max 1 (fraction * .ofNat size).toRat.ceil.toNat

/-- The fraction of a percentile. -/
def percentile (percent : Nat) : Binary64 := .ofRat ((percent : Rat) / 100)

/-- The extremes and percentiles of a histogram in microseconds. -/
structure Quantiles where
  lowest : Nat
  median : Nat
  ninetyFifth : Nat
  ninetyNinth : Nat
  highest : Nat
  deriving DecidableEq

/-- Read the extremes and percentiles off a histogram. -/
def Histogram.quantiles (histogram : Histogram) : Quantiles :=
  let value (percent : Nat) := histogram.atRank (rankAt (percentile percent) histogram.size)
  ⟨histogram.lowest, value 50, value 95, value 99, histogram.highest⟩

/-- The mean of a histogram in microseconds, every value counting as the middle of
its cell.  Cells are added up in ascending order, each rounded on its own. -/
def Histogram.mean (histogram : Histogram) : Binary64 :=
  let size := Binary64.ofNat histogram.size
  histogram.cells.foldl
    (fun total (cell, count) => total + .ofNat (cellMiddle cell) * .ofNat count / size)
    (.ofNat 0)

/-- A number of microseconds in milliseconds. -/
def inMilliseconds (microseconds : Binary64) : Binary64 := microseconds / .ofNat 1000

/-- What a report says about one label, in milliseconds. -/
structure Summary where
  count : Nat
  lowest : Binary64
  mean : Binary64
  median : Binary64
  ninetyFifth : Binary64
  ninetyNinth : Binary64
  highest : Binary64
  samples : List Binary64
  deriving DecidableEq

/-- The summary of some latencies. -/
def Summary.ofSamples (samples : List Duration) : Summary :=
  let histogram := histogram samples
  let quantiles := histogram.quantiles
  { count := histogram.size
    lowest := inMilliseconds (.ofNat quantiles.lowest)
    mean := inMilliseconds histogram.mean
    median := inMilliseconds (.ofNat quantiles.median)
    ninetyFifth := inMilliseconds (.ofNat quantiles.ninetyFifth)
    ninetyNinth := inMilliseconds (.ofNat quantiles.ninetyNinth)
    highest := inMilliseconds (.ofNat quantiles.highest)
    samples := samples.map Duration.toMilliseconds }

end Latency
end TransitLoad
