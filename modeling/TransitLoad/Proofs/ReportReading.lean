import Mathlib.Data.List.Forall2
import Mathlib.Data.List.Nodup
import TransitLoad.Proofs.JsonUnambiguity
import TransitLoad.Proofs.StoredFiles
import TransitLoad.Proofs.WrittenNumbers
import TransitLoad.Report.Document

/-!
# The report reads back

The document of a result is a JSON text that says what the result says, and nothing else:
the members that belong there, each once, under their names; counts as they are; labels
letter by letter; floating point numbers bit by bit, and the samples in their order.
What the bytes say is read off the tree that they spell, and they spell no other.
-/

namespace TransitLoad
namespace Json

/-! ## What a tree tells -/

namespace Tree

/-- A tree tells a count: a number without sign, point and exponent, of that value. -/
def TellsCount (count : Nat) (tree : Tree) : Prop :=
  ∃ numeral, tree = .number numeral ∧ numeral.isWhole = true ∧ numeral.isNegative = false ∧
    numeral.coefficient = count

/-- A tree tells a floating point number: a number that is read as that one. -/
def TellsNumber (number : Binary64) (tree : Tree) : Prop :=
  ∃ numeral, tree = .number numeral ∧ numeral.toBinary64 = number

/-- A tree tells floating point numbers: a list with as many numbers, in the same order. -/
def TellsNumbers (numbers : List Binary64) (tree : Tree) : Prop :=
  ∃ elements, tree = .list elements ∧ List.Forall₂ TellsNumber numbers elements

/-- A tree tells members: an object with these names, each of them once, and under each
name what belongs there. -/
def TellsMembers (expected : List (String × (Tree → Prop))) (tree : Tree) : Prop :=
  ∃ members, tree = .object members ∧ (members.map Prod.fst).Nodup ∧
    List.Forall₂ (fun (name, tells) (content, value) => content = codes name ∧ tells value)
      expected members

end Tree

/-! ## Values that are written and tell something -/

/-- A value that can be written and whose tree tells something. -/
def Value.Tells (tells : Tree → Prop) (value : Value) : Prop :=
  value.IsWritable ∧ tells value.tree

theorem Value.Tells.ofNat (count : Nat) : (Value.ofNat count).Tells (Tree.TellsCount count) := by
  refine ⟨.number (spellsNumeral_ofNat count), _, ?_, rfl, rfl, coefficient_ofNat count⟩
  rw [Value.ofNat, Value.tree]

theorem Value.Tells.ofBinary64
    {number : Binary64}
    (finite : number.isFinite = true) :
    (Value.ofBinary64 number).Tells (Tree.TellsNumber number) := by
  rw [Value.ofBinary64, if_pos finite]
  refine ⟨.number (ofBinary64_reads finite).1, _, ?_, toBinary64_ofBinary64 finite⟩
  rw [Value.tree]

theorem Value.Tells.list
    {numbers : List Binary64}
    (finite : ∀ number ∈ numbers, number.isFinite = true) :
    (Value.list (numbers.map .ofBinary64)).Tells (Tree.TellsNumbers numbers) := by
  have each : ∀ number ∈ numbers, (Value.ofBinary64 number).Tells (Tree.TellsNumber number) :=
    fun number present => .ofBinary64 (finite number present)
  constructor
  · exact .list (List.forall_mem_map.mpr fun number present => (each number present).1)
  · refine ⟨elementTrees (numbers.map .ofBinary64), ?_, ?_⟩
    · rw [Value.tree]
    rw [elementTrees_eq_map, List.map_map, List.forall₂_map_right_iff, List.forall₂_same]
    exact fun number present => (each number present).2

/-- An object tells members if its members tell what belongs under their names. -/
theorem Value.Tells.object
    {expected : List (String × (Tree → Prop))}
    (distinct : (members.map Prod.fst).Nodup)
    (each : List.Forall₂ (fun (name, tells) (content, value) =>
      content = name ∧ Value.Tells tells value) expected members) :
    (Value.object members).Tells (Tree.TellsMembers expected) := by
  constructor
  · apply Value.IsWritable.object
    clear distinct
    induction each with
    | nil => nofun
    | cons told _ hypothesis => exact List.forall_mem_cons.mpr ⟨told.2.1, hypothesis⟩
  · refine ⟨memberTrees members, ?_, ?_, ?_⟩
    · rw [Value.tree]
    · have names : (memberTrees members).map Prod.fst = (members.map Prod.fst).map codes := by
        rw [memberTrees_eq_map, List.map_map, List.map_map]
        rfl
      rw [names]
      exact distinct.map fun _ _ same => codes_injective same
    · rw [memberTrees_eq_map, List.forall₂_map_right_iff]
      exact each.imp fun _ _ told => ⟨congrArg codes told.1, told.2.2⟩

end Json

open Json

/-! ## The report -/

/-- What the document says about one label. -/
def Latency.Summary.IsToldBy (summary : Latency.Summary) : Tree → Prop :=
  Tree.TellsMembers [
    ("count", Tree.TellsCount summary.count),
    ("min_ms", Tree.TellsNumber summary.lowest),
    ("mean_ms", Tree.TellsNumber summary.mean),
    ("p50_ms", Tree.TellsNumber summary.median),
    ("p95_ms", Tree.TellsNumber summary.ninetyFifth),
    ("p99_ms", Tree.TellsNumber summary.ninetyNinth),
    ("max_ms", Tree.TellsNumber summary.highest),
    ("samples_ms", Tree.TellsNumbers summary.samples)]

/-- What the document says about the statistics: every label, and the failures. -/
def StatsReport.IsToldBy (report : StatsReport) : Tree → Prop :=
  Tree.TellsMembers [
    ("labels", Tree.TellsMembers (report.labels.map fun (label, latencies) =>
      (label, latencies.IsToldBy))),
    ("failures", Tree.TellsCount report.failures.toNat)]

/-- What the document says about a test.  The outcomes are not told. -/
def RunSummary.IsToldBy (summary : RunSummary) : Tree → Prop :=
  Tree.TellsMembers [
    ("walkers_spawned", Tree.TellsCount summary.spawned),
    ("walks_completed", Tree.TellsCount summary.completed),
    ("walks_aborted", Tree.TellsCount summary.aborted),
    ("walks_panicked", Tree.TellsCount summary.panicked),
    ("max_concurrency", Tree.TellsCount summary.maxConcurrency),
    ("peak_concurrency", Tree.TellsCount summary.peakConcurrency),
    ("elapsed_ms", Tree.TellsCount summary.elapsedMilliseconds),
    ("stats", summary.stats.IsToldBy)]

/-- The floating point numbers of a summary, its samples included. -/
def Latency.Summary.numbers (summary : Latency.Summary) : List Binary64 :=
  [summary.lowest, summary.mean, summary.median, summary.ninetyFifth, summary.ninetyNinth,
    summary.highest] ++ summary.samples

theorem Latency.Summary.tells_document
    {summary : Latency.Summary}
    (finite : ∀ number ∈ summary.numbers, number.isFinite = true) :
    summary.document.Tells summary.IsToldBy := by
  rw [numbers, List.forall_mem_append] at finite
  obtain ⟨figures, samples⟩ := finite
  simp only [List.forall_mem_cons] at figures
  obtain ⟨lowest, mean, median, ninetyFifth, ninetyNinth, highest, _⟩ := figures
  exact Value.Tells.object (by simp)
    (.cons ⟨rfl, .ofNat _⟩ <| .cons ⟨rfl, .ofBinary64 lowest⟩ <|
      .cons ⟨rfl, .ofBinary64 mean⟩ <| .cons ⟨rfl, .ofBinary64 median⟩ <|
      .cons ⟨rfl, .ofBinary64 ninetyFifth⟩ <| .cons ⟨rfl, .ofBinary64 ninetyNinth⟩ <|
      .cons ⟨rfl, .ofBinary64 highest⟩ <| .cons ⟨rfl, .list samples⟩ .nil)

theorem StatsReport.tells_document
    {report : StatsReport}
    (distinct : (report.labels.map Prod.fst).Nodup)
    (finite : ∀ label ∈ report.labels, ∀ number ∈ label.2.numbers, number.isFinite = true) :
    report.document.Tells report.IsToldBy := by
  have labels : (Value.object (report.labels.map fun (label, latencies) =>
      (label, latencies.document))).Tells
      (Tree.TellsMembers (report.labels.map fun (label, latencies) =>
        (label, latencies.IsToldBy))) := by
    apply Value.Tells.object
    · rw [List.map_map]
      exact distinct
    · rw [List.forall₂_map_left_iff, List.forall₂_map_right_iff, List.forall₂_same]
      exact fun label present => ⟨rfl, Latency.Summary.tells_document (finite label present)⟩
  exact Value.Tells.object (by simp)
    (.cons ⟨rfl, labels⟩ <| .cons ⟨rfl, .ofNat _⟩ .nil)

namespace RunSummary

theorem tells_document
    {summary : RunSummary}
    (distinct : (summary.stats.labels.map Prod.fst).Nodup)
    (finite : ∀ label ∈ summary.stats.labels,
      ∀ number ∈ label.2.numbers, number.isFinite = true) :
    summary.document.Tells summary.IsToldBy :=
  Value.Tells.object (by simp)
    (.cons ⟨rfl, .ofNat _⟩ <| .cons ⟨rfl, .ofNat _⟩ <|
      .cons ⟨rfl, .ofNat _⟩ <| .cons ⟨rfl, .ofNat _⟩ <|
      .cons ⟨rfl, .ofNat _⟩ <| .cons ⟨rfl, .ofNat _⟩ <|
      .cons ⟨rfl, .ofNat _⟩ <|
      .cons ⟨rfl, StatsReport.tells_document distinct finite⟩ .nil)

/-- The document of a result spells one tree, and that tree says what the result says. -/
theorem exists_isToldBy
    {summary : RunSummary}
    (distinct : (summary.stats.labels.map Prod.fst).Nodup)
    (finite : ∀ label ∈ summary.stats.labels,
      ∀ number ∈ label.2.numbers, number.isFinite = true) :
    ∃ tree, summary.IsToldBy tree ∧
      ∀ other, SpellsBody other summary.documentBytes ↔ other = tree := by
  obtain ⟨writable, told⟩ := tells_document distinct finite
  have spelled : SpellsBody summary.document.tree summary.documentBytes := by
    have alone := SpellsBody.alone .nil (writable.spells 0) .nil
    rwa [List.nil_append, List.append_nil] at alone
  refine ⟨summary.document.tree, told, fun other => ⟨spelled.unique, ?_⟩⟩
  rintro rfl
  exact spelled

/-- What is read under the path of a stored result is its document. -/
theorem file?_of_store
    {summary : RunSummary}
    (stored : summary.store Folder.storage path earlier = (.ok line, later)) :
    later.file? path = some summary.documentBytes := by
  simp only [store, bind, StateT.bind] at stored
  split at stored
  next result left written =>
    split at stored
    next =>
      obtain rfl : left = later := (Prod.mk.inj stored).2
      exact Folder.file?_of_store written
    next => cases stored

/-- The report reads back: if no label occurs twice and the numbers are finite, then what
is read under the path of a stored result is a JSON text, which can be read in one way only,
and so it says what the result says. -/
theorem report_reads_back
    {summary : RunSummary}
    (distinct : (summary.stats.labels.map Prod.fst).Nodup)
    (finite : ∀ label ∈ summary.stats.labels,
      ∀ number ∈ label.2.numbers, number.isFinite = true) :
    (∃ tree, summary.IsToldBy tree ∧
      ∀ other, SpellsBody other summary.documentBytes ↔ other = tree) ∧
    ∀ path earlier line later,
      summary.store Folder.storage path earlier = (.ok line, later) →
        later.file? path = some summary.documentBytes :=
  ⟨exists_isToldBy distinct finite, fun _ _ _ _ => file?_of_store⟩

/-- A result with the largest count, a label of a quote, a backslash, a line break, another
control character and letters beyond ASCII, a label without letters and without samples, and
numbers at both ends of the range, minus zero among them. -/
def awkward : RunSummary where
  spawned := 18446744073709551615
  completed := 0
  aborted := 0
  panicked := 0
  maxConcurrency := 1
  peakConcurrency := 1
  elapsedMilliseconds := 0
  stats := {
    labels := [
      ("", ⟨0, ⟨0⟩, ⟨0⟩, ⟨0⟩, ⟨0⟩, ⟨0⟩, ⟨0⟩, []⟩),
      ("\"\\\n\x01é🚌", ⟨18446744073709551615, ⟨1⟩, ⟨0x3ff8000000000000⟩,
        ⟨0x3fb999999999999a⟩, ⟨0x44b52d02c7e14af6⟩, ⟨0x8000000000000000⟩, ⟨0x7fefffffffffffff⟩,
        [⟨1⟩, ⟨0x7fefffffffffffff⟩, ⟨0x8000000000000000⟩]⟩)]
    failures := 18446744073709551615 }
  outcomes := []

/-- Nothing is in the way of a file in an empty folder. -/
theorem store_empty (summary : RunSummary) :
    summary.store Folder.storage "report.json" .empty =
      (.ok (reportStoredLine "report.json"),
        Folder.empty.put ["report.json"] (.file summary.documentBytes)) := by
  have relative : "report.json".startsWith "/" = false := by simp
  have followed : Folder.empty.follow "report.json" = .ok ⟨[], "report.json", false⟩ := by
    simp only [Folder.follow, relative]
    rfl
  have written (bytes : List UInt8) : Folder.empty.writeFile "report.json" bytes =
      .ok (Folder.empty.put ["report.json"] (.file bytes)) := by
    simp only [Folder.writeFile, followed]
    rfl
  have nested : Folder.storage.ensureNested (StoragePath.parents "report.json") .empty =
      (.ok (), .empty) := rfl
  have put : Folder.storage.writeFile "report.json" summary.documentBytes .empty =
      (.ok (), Folder.empty.put ["report.json"] (.file summary.documentBytes)) := by
    simp only [Folder.storage, Folder.attempt, written]
  simp only [store, Storage.store, bind, StateT.bind, nested, put]
  rfl

theorem report_reads_back_awkward :
    (awkward.stats.labels.map Prod.fst).Nodup ∧
    (∀ label ∈ awkward.stats.labels, ∀ number ∈ label.2.numbers, number.isFinite = true) ∧
    (∃ tree, awkward.IsToldBy tree ∧
      ∀ other, SpellsBody other awkward.documentBytes ↔ other = tree) ∧
    ∃ line later, awkward.store Folder.storage "report.json" .empty = (.ok line, later) ∧
      later.file? "report.json" = some awkward.documentBytes := by
  have distinct : (awkward.stats.labels.map Prod.fst).Nodup := by simp [awkward]
  have finite : ∀ label ∈ awkward.stats.labels,
      ∀ number ∈ label.2.numbers, number.isFinite = true := by decide
  obtain ⟨told, kept⟩ := report_reads_back distinct finite
  exact ⟨distinct, finite, told, _, _, awkward.store_empty,
    kept _ _ _ _ awkward.store_empty⟩

end RunSummary
end TransitLoad
