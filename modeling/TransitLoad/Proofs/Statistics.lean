import TransitLoad.Proofs.StopAccounts
import TransitLoad.Proofs.Timelines

/-!
# What is left in the statistics

The statistics of a test are made from the notes of its walkers, one after another.
Failures add up; and where only stops are sampled, their latencies are the only shelf,
in the order of recording.  A summary counts every latency that it is made from.
-/

namespace TransitLoad

namespace Latency

/-! ## Counting -/

namespace Histogram

theorem size_increment (cell : Nat) (cells : List (Nat × Nat)) :
    size ⟨increment cell cells⟩ = size ⟨cells⟩ + 1 := by
  induction cells with
  | nil => rfl
  | cons entry cells hypothesis =>
      obtain ⟨other, count⟩ := entry
      simp only [increment]
      split_ifs
      · exact Nat.add_comm 1 _
      · simp only [size, List.foldr_cons]
        omega
      · simp only [size, List.foldr_cons] at hypothesis ⊢
        omega

theorem size_foldl_record (microseconds : List Nat) (histogram : Histogram) :
    (microseconds.foldl record histogram).size = histogram.size + microseconds.length := by
  induction microseconds generalizing histogram with
  | nil => rfl
  | cons first microseconds hypothesis =>
      have recorded : (histogram.record first).size = histogram.size + 1 :=
        size_increment _ histogram.cells
      rw [List.foldl_cons, hypothesis, recorded, List.length_cons]
      omega

end Histogram

/-- A summary counts all of its samples. -/
theorem Summary.count_ofSamples (samples : List Duration) :
    (ofSamples samples).count = samples.length := by
  change (Histogram.ofList (samples.map microseconds)).size = samples.length
  rw [Histogram.ofList, Histogram.size_foldl_record, List.length_map]
  exact Nat.zero_add _

end Latency

/-! ## Recording -/

namespace Collector

/-- The shelves of a collector that only stops were recorded in. -/
def stopShelves : List Duration → List (ResourceKind × Array Duration)
  | [] => []
  | latencies => [(.stop, latencies.toArray)]

theorem shelve_stopShelves (latency : Duration) (latencies : List Duration) :
    shelve .stop latency (stopShelves latencies) = stopShelves (latencies ++ [latency]) := by
  cases latencies with
  | nil => rfl
  | cons first latencies => simp [stopShelves, shelve]

/-- The latencies of stops among some notes, which are put on the shelf in order. -/
theorem shelves_foldl_take
    {entries : List WalkNote}
    {collector : Collector}
    (stopsOnly : ∀ kind latency, .sample kind latency ∈ entries → kind = .stop)
    (shelves : collector.shelves = stopShelves latencies) :
    (entries.foldl take collector).shelves =
      stopShelves (latencies ++ (entries.filterMap WalkNote.sample?).map Prod.snd) := by
  induction entries generalizing collector latencies with
  | nil => simpa using shelves
  | cons entry entries hypothesis =>
      have laterStopsOnly : ∀ kind latency, .sample kind latency ∈ entries → kind = .stop :=
        fun kind latency present => stopsOnly kind latency (List.mem_cons_of_mem _ present)
      rw [List.foldl_cons]
      cases entry with
      | sample kind latency =>
          cases stopsOnly kind latency (List.mem_cons_self ..)
          have shelved : (collector.take (.sample .stop latency)).shelves =
              stopShelves (latencies ++ [latency]) := by
            rw [← shelve_stopShelves, ← shelves]
            rfl
          rw [hypothesis laterStopsOnly shelved, List.append_assoc]
          rfl
      | failure => exact hypothesis laterStopsOnly shelves
      | fetching => exact hypothesis laterStopsOnly shelves
      | noStops => exact hypothesis laterStopsOnly shelves
      | moved => exact hypothesis laterStopsOnly shelves
      | stopped => exact hypothesis laterStopsOnly shelves

/-- Failures add up, to a number of 64 bits. -/
theorem failures_foldl_take (entries : List WalkNote) (collector : Collector) :
    (entries.foldl take collector).failures =
      collector.failures + UInt64.ofNat (entries.count .failure) := by
  induction entries generalizing collector with
  | nil => simp
  | cons entry entries hypothesis =>
      rw [List.foldl_cons, hypothesis]
      cases entry with
      | failure =>
          rw [List.count_cons_self, UInt64.ofNat_add, UInt64.add_comm (UInt64.ofNat _),
            ← UInt64.add_assoc]
          rfl
      | sample | fetching | noStops | moved | stopped =>
          rw [List.count_cons_of_ne (by simp)]
          rfl

/-- The report on stops alone has one label if there were any, and none otherwise. -/
theorem labels_report
    {collector : Collector}
    (shelves : collector.shelves = stopShelves latencies) :
    collector.report.labels =
      if latencies = [] then [] else [(ResourceKind.stop.name, .ofSamples latencies)] := by
  rw [report, shelves]
  cases latencies with
  | nil => rfl
  | cons first latencies => rfl

theorem failures_report (collector : Collector) :
    collector.report.failures = collector.failures := by
  have kept (shelves : List (ResourceKind × Array Duration)) (report : StatsReport) :
      (shelves.foldl (fun report (shelf : ResourceKind × Array Duration) =>
        report.insert shelf.1.name (.ofSamples shelf.2.toList)) report).failures =
      report.failures := by
    induction shelves generalizing report with
    | nil => rfl
    | cons shelf shelves hypothesis => exact hypothesis _
  exact kept collector.shelves ⟨[], collector.failures⟩

end Collector

/-- The statistics of a test are those of the notes of its walkers. -/
theorem RunState.collected_eq (state : RunState) :
    state.collected = state.walkNotes.foldl Collector.take .empty := by
  rw [collected, walkNotes, ← Array.foldl_toList]
  generalize state.notes.toList = notes
  generalize Collector.empty = collector
  induction notes generalizing collector with
  | nil => rfl
  | cons note notes hypothesis =>
      rw [List.foldl_cons, hypothesis]
      cases note with
      | walk entry => rfl
      | begun | tick | draining => rfl

end TransitLoad
