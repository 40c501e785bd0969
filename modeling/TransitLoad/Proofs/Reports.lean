import Mathlib.Algebra.Group.Nat.Defs
import Mathlib.Data.Nat.Log
import TransitLoad.Stats

/-!
# Reports do not fail

A histogram is made for a range of values and a number of decimal digits, and making one
may fail: a lowest value of zero, a range too narrow, too many digits.  Counting a value
may fail as well, if the table has no cell for it and none for the highest value of the
range either.  Here both are spelled out.  With the range of latencies, neither happens,
whatever is counted, so that the summaries and the report are what they are without these
checks.
-/

namespace TransitLoad

/-- A fold whose steps do not fail is the fold of what they give. -/
theorem foldlM_eq_ok
    {step : β → α → Except ε β}
    {plain : β → α → β}
    (succeeds : ∀ before value, step before value = .ok (plain before value))
    (values : List α)
    (start : β) :
    values.foldlM step start = .ok (values.foldl plain start) := by
  have same : step = fun before value => pure (plain before value) :=
    funext₂ succeeds
  rw [same]
  exact List.foldlM_pure

namespace Latency

/-! ## Layouts -/

/-- What a histogram is made for: the values between two bounds, told apart by so many
decimal digits. -/
structure Layout where
  lowest : Nat
  highest : Nat
  digits : Nat

/-- Why a histogram cannot be made or used. -/
inductive HistogramError where
  | lowestIsZero
  /-- Twice the lowest value is no number of 64 bits. -/
  | lowestTooHigh
  /-- The highest value is less than twice the lowest. -/
  | rangeTooNarrow
  | tooManyDigits
  /-- The first cells take more than 63 binary digits. -/
  | cellsTooWide
  /-- There is no cell for a value. -/
  | noCell (value : Nat)
  deriving DecidableEq

namespace Layout

/-- How many binary digits the decimal ones take: enough to count to twice the power of
ten. -/
def keptDigits (layout : Layout) : Nat := Nat.clog 2 (2 * 10 ^ layout.digits)

/-- The largest value that a table has a cell for.  A table is doubled until the highest
value fits in. -/
def reach (layout : Layout) : Nat :=
  2 ^ max (layout.keptDigits + layout.lowest.log2) (binaryLength layout.highest) - 1

/-- Check that a histogram can be made; the first problem counts. -/
def check (layout : Layout) : Except HistogramError Unit := do
  if layout.lowest = 0 then throw .lowestIsZero
  if (UInt64.size - 1) / 2 < layout.lowest then throw .lowestTooHigh
  if layout.highest < 2 * layout.lowest then throw .rangeTooNarrow
  if 5 < layout.digits then throw .tooManyDigits
  if 63 < layout.lowest.log2 + layout.keptDigits then throw .cellsTooWide

/-- The value that is counted for a measured one, if there is a cell for it: the value
itself, or the highest one of the range. -/
def counted? (layout : Layout) (value : Nat) : Except HistogramError Nat :=
  if value ≤ layout.reach then .ok value
  else if layout.highest ≤ layout.reach then .ok layout.highest
  else .error (.noCell layout.highest)

theorem lt_two_pow_binaryLength (value : Nat) : value < 2 ^ binaryLength value := by
  rw [binaryLength]
  split_ifs with zero
  · rw [zero]
    exact Nat.one_pos
  · exact Nat.lt_log2_self

/-- There is always a cell for the highest value. -/
theorem highest_le_reach (layout : Layout) : layout.highest ≤ layout.reach := by
  apply Nat.le_sub_one_of_lt
  exact (lt_two_pow_binaryLength layout.highest).trans_le
    (Nat.pow_le_pow_right (by omega) (Nat.le_max_right ..))

/-- Counting never fails. -/
theorem counted?_eq (layout : Layout) (value : Nat) :
    layout.counted? value = .ok (if layout.reach < value then layout.highest else value) := by
  rw [counted?, if_pos layout.highest_le_reach]
  split_ifs <;> first | rfl | omega

/-- The layout for latencies: from a microsecond to a minute, with three digits. -/
def latencies : Layout := ⟨1, oneMinute, 3⟩

theorem check_latencies : latencies.check = .ok () := by decide +kernel

theorem reach_latencies : latencies.reach = tableReach := by decide +kernel

theorem counted?_latencies (value : Nat) : latencies.counted? value = .ok (counted value) := by
  rw [counted?_eq, reach_latencies]
  rfl

end Layout

/-! ## Summaries -/

/-- Count a measured number of microseconds, if there is a cell for it. -/
def Histogram.record?
    (layout : Layout)
    (histogram : Histogram)
    (microseconds : Nat) : Except HistogramError Histogram := do
  let value ← layout.counted? microseconds
  return ⟨increment (cellFloor value) histogram.cells⟩

/-- The histogram of some latencies, if one can be made and can count them. -/
def histogram? (layout : Layout) (samples : List Duration) :
    Except HistogramError Histogram := do
  layout.check
  (samples.map microseconds).foldlM (Histogram.record? layout) .empty

/-- What a histogram and the samples in it say. -/
def Summary.ofHistogram (histogram : Histogram) (samples : List Duration) : Summary :=
  { count := histogram.size
    lowest := inMilliseconds (.ofNat histogram.quantiles.lowest)
    mean := inMilliseconds histogram.mean
    median := inMilliseconds (.ofNat histogram.quantiles.median)
    ninetyFifth := inMilliseconds (.ofNat histogram.quantiles.ninetyFifth)
    ninetyNinth := inMilliseconds (.ofNat histogram.quantiles.ninetyNinth)
    highest := inMilliseconds (.ofNat histogram.quantiles.highest)
    samples := samples.map Duration.toMilliseconds }

/-- The summary of some latencies, if there is a histogram of them. -/
def Summary.build? (layout : Layout) (samples : List Duration) :
    Except HistogramError Summary := do
  return .ofHistogram (← histogram? layout samples) samples

theorem record?_latencies (histogram : Histogram) (microseconds : Nat) :
    histogram.record? .latencies microseconds = .ok (histogram.record microseconds) := by
  rw [Histogram.record?, Layout.counted?_latencies]
  rfl

theorem histogram?_latencies (samples : List Duration) :
    histogram? .latencies samples = .ok (histogram samples) := by
  rw [histogram?, Layout.check_latencies]
  exact foldlM_eq_ok record?_latencies _ _

theorem build?_latencies (samples : List Duration) :
    Summary.build? .latencies samples = .ok (.ofSamples samples) := by
  rw [Summary.build?, histogram?_latencies]
  rfl

end Latency

/-! ## Reports -/

/-- The report on what has been recorded, if every label can be summed up. -/
def Collector.report?
    (layout : Latency.Layout)
    (collector : Collector) : Except Latency.HistogramError StatsReport :=
  collector.shelves.foldlM
    (fun report (kind, samples) => do
      return report.insert kind.name (← Latency.Summary.build? layout samples.toList))
    ⟨[], collector.failures⟩

/-- A report never fails. -/
theorem Collector.report?_latencies (collector : Collector) :
    collector.report? .latencies = .ok collector.report := by
  apply foldlM_eq_ok
  rintro report ⟨kind, samples⟩
  simp only [Latency.build?_latencies]
  rfl

end TransitLoad
