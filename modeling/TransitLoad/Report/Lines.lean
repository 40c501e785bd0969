import TransitLoad.Decimal.Text
import TransitLoad.Run.Summary

/-!
# The report in lines

What the log says at the end of a test: how the walkers fared and the latencies of
every label, rounded to two places.  All samples follow outside of the log, rounded
to three places, with the number of failures.
-/

namespace TransitLoad

/-- A line across the page. -/
def rule (length : Nat) : String := "".pushn '═' length

/-- The lines about one label. -/
def Latency.Summary.lines (label : String) (summary : Latency.Summary) : List String :=
  let milliseconds := Decimal.fixedText 2
  ["",
    s!"{label} Latency (ms, {summary.count} samples):",
    "  Min:    " ++ milliseconds summary.lowest,
    "  Mean:   " ++ milliseconds summary.mean,
    "  p50:    " ++ milliseconds summary.median,
    "  p95:    " ++ milliseconds summary.ninetyFifth,
    "  p99:    " ++ milliseconds summary.ninetyNinth,
    "  Max:    " ++ milliseconds summary.highest]

namespace RunSummary

/-- The heading of the report. -/
def headingLines : List String :=
  ["╔" ++ rule 60 ++ "╗",
    "║                    LOAD TEST SUMMARY                       ║",
    "╚" ++ rule 60 ++ "╝"]

/-- The lines about the walkers. -/
def walkerLines (summary : RunSummary) : List String :=
  ["",
    "Walker Metrics:",
    s!"  Spawned:             {summary.spawned}",
    s!"  Completed:           {summary.completed}",
    s!"  Aborted:             {summary.aborted}",
    s!"  Panicked:            {summary.panicked}",
    s!"  Peak Concurrency:    {summary.peakConcurrency}/{summary.maxConcurrency}",
    s!"  Elapsed:             {summary.elapsedMilliseconds}ms",
    s!"  Failed Requests:     {summary.stats.failures}"]

/-- The lines about all labels. -/
def latencyLines (summary : RunSummary) : List String :=
  match summary.stats.labels with
  | [] => ["", "Latency: no data"]
  | labels => labels.flatMap fun (label, latencies) => latencies.lines label

/-- The report as lines of the log. -/
def logLines (summary : RunSummary) : List LogLine :=
  (headingLines ++ summary.walkerLines ++ summary.latencyLines ++ ["", rule 59]).map fun message =>
    ⟨.info, .report, message⟩

/-- The samples of a label on one line. -/
def sampleLine (label : String) (latencies : Latency.Summary) : String :=
  let samples := latencies.samples.map fun sample => Decimal.fixedText 3 sample ++ "ms"
  label ++ " [" ++ " ".intercalate samples ++ "]\n"

/-- What is printed whatever the log shows: all samples and the number of failures. -/
def sampleText (summary : RunSummary) : String :=
  String.join (summary.stats.labels.map fun (label, latencies) => sampleLine label latencies) ++
    s!"failures {summary.stats.failures}\n"

end RunSummary
end TransitLoad
