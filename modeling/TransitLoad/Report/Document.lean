import TransitLoad.Files.Storage
import TransitLoad.Json.Number
import TransitLoad.Run.Summary
import TransitLoad.Text.Quoted

/-!
# The report as a document

The result of a test as a JSON object.  The outcomes of single walks are no part of
it.  The document is stored under a path, and the log says so.
-/

namespace TransitLoad

/-- What the report says about one label. -/
def Latency.Summary.document (summary : Latency.Summary) : Json.Value :=
  .object [
    ("count", .ofNat summary.count),
    ("min_ms", .ofBinary64 summary.lowest),
    ("mean_ms", .ofBinary64 summary.mean),
    ("p50_ms", .ofBinary64 summary.median),
    ("p95_ms", .ofBinary64 summary.ninetyFifth),
    ("p99_ms", .ofBinary64 summary.ninetyNinth),
    ("max_ms", .ofBinary64 summary.highest),
    ("samples_ms", .list (summary.samples.map .ofBinary64))]

/-- What the report says about the statistics. -/
def StatsReport.document (report : StatsReport) : Json.Value :=
  .object [
    ("labels", .object (report.labels.map fun (label, latencies) => (label, latencies.document))),
    ("failures", .ofNat report.failures.toNat)]

namespace RunSummary

/-- The result of a test as an object. -/
def document (summary : RunSummary) : Json.Value :=
  .object [
    ("walkers_spawned", .ofNat summary.spawned),
    ("walks_completed", .ofNat summary.completed),
    ("walks_aborted", .ofNat summary.aborted),
    ("walks_panicked", .ofNat summary.panicked),
    ("max_concurrency", .ofNat summary.maxConcurrency),
    ("peak_concurrency", .ofNat summary.peakConcurrency),
    ("elapsed_ms", .ofNat summary.elapsedMilliseconds),
    ("stats", summary.stats.document)]

/-- The bytes of the document. -/
def documentBytes (summary : RunSummary) : List UInt8 := summary.document.bytes 0

end RunSummary

/-! ## Storing -/

/-- The parts of the text that a store error shows, the general one first. -/
def StoreError.messages : StoreError → List String
  | .directory path cause =>
      ["Failed to create directory " ++ Text.quoted path, cause.message]
  | .file path cause => ["Failed to write report to " ++ Text.quoted path, cause.message]

/-- The line of the log that says where the report is. -/
def reportStoredLine (path : String) : LogLine :=
  ⟨.info, .report, "Report written to " ++ Text.quoted path⟩

/-- Store the document of a result. -/
def RunSummary.store
    [Monad m]
    (summary : RunSummary)
    (storage : Storage m)
    (path : String) : m (Except StoreError LogLine) := do
  match ← storage.store path summary.documentBytes with
  | .ok () => return .ok (reportStoredLine path)
  | .error error => return .error error

end TransitLoad
