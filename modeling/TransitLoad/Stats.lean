import TransitLoad.Latency.Summary
import TransitLoad.Resource.Kind

/-!
# Statistics of a test

Walkers record the latencies of successful requests by kind of resource, and count
failed requests.  Nothing recorded is ever removed or changed.  A report summarises
the latencies of every kind that has any.
-/

namespace TransitLoad

/-- What has been recorded: for every kind met so far its latencies in order, and
the number of failures, which starts again after the largest 64-bit number. -/
structure Collector where
  shelves : List (ResourceKind × Array Duration)
  failures : UInt64
  deriving DecidableEq, Inhabited

namespace Collector

/-- Nothing has been recorded. -/
def empty : Collector := ⟨[], 0⟩

/-- Put a latency onto the shelf of its kind, which is made on first use. -/
def shelve (kind : ResourceKind) (latency : Duration) :
    List (ResourceKind × Array Duration) → List (ResourceKind × Array Duration)
  | [] => [(kind, #[latency])]
  | (other, samples) :: shelves =>
      if other = kind then (other, samples.push latency) :: shelves
      else (other, samples) :: shelve kind latency shelves

/-- Record the latency of a request. -/
def record (collector : Collector) (kind : ResourceKind) (latency : Duration) : Collector :=
  { collector with shelves := shelve kind latency collector.shelves }

/-- Count a failed request. -/
def recordFailure (collector : Collector) : Collector :=
  { collector with failures := collector.failures + 1 }

/-- The latencies recorded for a kind, in order. -/
def samples (collector : Collector) (kind : ResourceKind) : List Duration :=
  match collector.shelves.lookup kind with
  | some samples => samples.toList
  | none => []

end Collector

/-! ## Reports -/

/-- The report on a test: a summary for every label, ordered by label, and the
number of failures. -/
structure StatsReport where
  labels : List (String × Latency.Summary)
  failures : UInt64
  deriving DecidableEq

namespace StatsReport

/-- Put a summary under its label, in the place of an earlier one. -/
def insertLabel (label : String) (summary : Latency.Summary) :
    List (String × Latency.Summary) → List (String × Latency.Summary)
  | [] => [(label, summary)]
  | (other, otherSummary) :: labels =>
      if label < other then (label, summary) :: (other, otherSummary) :: labels
      else if label = other then (label, summary) :: labels
      else (other, otherSummary) :: insertLabel label summary labels

/-- Add a label to a report. -/
def insert (report : StatsReport) (label : String) (summary : Latency.Summary) : StatsReport :=
  { report with labels := insertLabel label summary report.labels }

/-- The summary for a kind of resource. -/
def label? (report : StatsReport) (kind : ResourceKind) : Option Latency.Summary :=
  report.labels.lookup kind.name

end StatsReport

/-- The report on what has been recorded. -/
def Collector.report (collector : Collector) : StatsReport :=
  collector.shelves.foldl
    (fun report (kind, samples) => report.insert kind.name (.ofSamples samples.toList))
    ⟨[], collector.failures⟩

end TransitLoad
