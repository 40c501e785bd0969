import TransitLoad.Proofs.ConcurrentWriters

/-!
# The order of recording

To count one value and then another leaves the same cells as to count them the other way
around, so a histogram does not know the order of what it counted.  Everything in a summary
but the samples themselves is read off the histogram, the mean to its last bit, and the
samples stand in the order in which they were recorded.

Concurrent writers that take turns in another way therefore leave reports that differ in
the order of samples at most.
-/

namespace TransitLoad
namespace Latency

/-! ## Counting in another order -/

namespace Histogram

theorem increment_of_lt
    (before : cell < other)
    (count : Nat)
    (cells : List (Nat × Nat)) :
    increment cell ((other, count) :: cells) = (cell, 1) :: (other, count) :: cells := by
  rw [increment, if_pos before]

theorem increment_self (cell count : Nat) (cells : List (Nat × Nat)) :
    increment cell ((cell, count) :: cells) = (cell, count + 1) :: cells := by
  rw [increment, if_neg (Nat.lt_irrefl cell), if_pos rfl]

theorem increment_of_gt
    (after : other < cell)
    (count : Nat)
    (cells : List (Nat × Nat)) :
    increment cell ((other, count) :: cells) = (other, count) :: increment cell cells := by
  rw [increment, if_neg after.not_gt, if_neg after.ne']

/-- Counting in two cells leaves the same cells either way, whatever cells there are. -/
theorem increment_comm (first second : Nat) (cells : List (Nat × Nat)) :
    increment second (increment first cells) = increment first (increment second cells) := by
  -- The smaller cell comes to its place first; where it does, the larger one goes past it.
  wlog before : first < second generalizing first second
  · rcases Nat.lt_or_eq_of_le (Nat.not_lt.mp before) with after | same
    · exact (this second first after).symm
    · rw [same]
  induction cells with
  | nil => exact (increment_of_gt before 1 []).trans (increment_of_lt before 1 []).symm
  | cons entry cells hypothesis =>
      obtain ⟨cell, count⟩ := entry
      rcases Nat.lt_trichotomy second cell with inFront | rfl | behind
      · rw [increment_of_lt inFront, increment_of_lt (before.trans inFront),
          increment_of_gt before, increment_of_lt inFront, increment_of_lt before]
      · rw [increment_self, increment_of_lt before, increment_of_lt before,
          increment_of_gt before, increment_self]
      · rw [increment_of_gt behind]
        rcases Nat.lt_trichotomy first cell with inFront | rfl | behind'
        · rw [increment_of_lt inFront, increment_of_lt inFront, increment_of_gt before,
            increment_of_gt behind]
        · rw [increment_self, increment_self, increment_of_gt before]
        · rw [increment_of_gt behind', increment_of_gt behind', increment_of_gt behind,
            hypothesis]

theorem record_comm (histogram : Histogram) (first second : Nat) :
    (histogram.record first).record second = (histogram.record second).record first :=
  congrArg Histogram.mk (increment_comm ..)

/-- A histogram does not know the order in which values were counted. -/
theorem ofList_perm
    {measured reordered : List Nat}
    (perm : measured.Perm reordered) :
    ofList measured = ofList reordered :=
  perm.foldl_eq' (fun first _ second _ histogram => histogram.record_comm first second) empty

end Histogram

theorem histogram_perm
    {samples reordered : List Duration}
    (perm : samples.Perm reordered) :
    histogram samples = histogram reordered :=
  Histogram.ofList_perm (perm.map microseconds)

/-! ## Summaries -/

namespace Summary

/-- Two summaries that differ in the order of their samples at most. -/
structure AgreesUpToOrder (summary other : Summary) : Prop where
  count : summary.count = other.count
  lowest : summary.lowest = other.lowest
  mean : summary.mean = other.mean
  median : summary.median = other.median
  ninetyFifth : summary.ninetyFifth = other.ninetyFifth
  ninetyNinth : summary.ninetyNinth = other.ninetyNinth
  highest : summary.highest = other.highest
  samples : summary.samples.Perm other.samples

theorem ofHistogram_agreesUpToOrder
    {samples reordered : List Duration}
    (perm : samples.Perm reordered)
    (histogram : Histogram) :
    (ofHistogram histogram samples).AgreesUpToOrder (ofHistogram histogram reordered) :=
  ⟨rfl, rfl, rfl, rfl, rfl, rfl, rfl, perm.map Duration.toMilliseconds⟩

/-- Summaries of the same samples in another order differ in nothing but this order. -/
theorem ofSamples_agreesUpToOrder
    {samples reordered : List Duration}
    (perm : samples.Perm reordered) :
    (ofSamples samples).AgreesUpToOrder (ofSamples reordered) := by
  change (ofHistogram (Latency.histogram samples) samples).AgreesUpToOrder
    (ofHistogram (Latency.histogram reordered) reordered)
  rw [histogram_perm perm]
  exact ofHistogram_agreesUpToOrder perm _

end Summary

/-- The order of recording does not show in a summary, however long the samples are.  For the
same samples in another order the summaries can be made, they count the same number and show
the same numbers, the mean included, to the last bit.  Only the samples themselves stand in
the order in which they were recorded: where a sample was moved to, there it is shown. -/
theorem summary_ignores_order
    {samples reordered : List Duration}
    (perm : samples.Perm reordered) :
    ∃ summary other,
      Summary.build? .latencies samples = .ok summary ∧
      Summary.build? .latencies reordered = .ok other ∧
      summary.AgreesUpToOrder other ∧
      summary.samples = samples.map Duration.toMilliseconds ∧
      other.samples = reordered.map Duration.toMilliseconds ∧
      ∀ place place' : Nat, samples[place]? = reordered[place']? →
        summary.samples[place]? = other.samples[place']? := by
  refine ⟨_, _, build?_latencies samples, build?_latencies reordered,
    Summary.ofSamples_agreesUpToOrder perm, rfl, rfl, ?_⟩
  intro place place' moved
  change (samples.map Duration.toMilliseconds)[place]? =
    (reordered.map Duration.toMilliseconds)[place']?
  rw [List.getElem?_map, List.getElem?_map, moved]

/-- No time at all, a time beyond the table, and one beyond a minute. -/
def mixedSamples : List Duration := [.zero, .ofSeconds 70, .ofSeconds 61]

/-- The same samples, recorded in another order. -/
def remixedSamples : List Duration := [.ofSeconds 61, .zero, .ofSeconds 70]

/-- Both orders have the same mean, of a bit more than forty seconds. -/
theorem summary_ignores_order_mixedSamples :
    mixedSamples.Perm remixedSamples ∧
      (Summary.ofSamples mixedSamples).mean = (Summary.ofSamples remixedSamples).mean ∧
      (Summary.ofSamples mixedSamples).mean = ⟨4675776744724497433⟩ ∧
      (Summary.ofSamples mixedSamples).samples = [.ofNat 0, .ofNat 70000, .ofNat 61000] ∧
      (Summary.ofSamples remixedSamples).samples = [.ofNat 61000, .ofNat 0, .ofNat 70000] := by
  have perm : mixedSamples.Perm remixedSamples := by decide
  obtain ⟨summary, other, made, made', agrees, _⟩ := summary_ignores_order perm
  rw [build?_latencies] at made made'
  cases made
  cases made'
  exact ⟨perm, agrees.mean, by decide +kernel, by decide +kernel, by decide +kernel⟩

end Latency

/-! ## Reports -/

namespace Collector

/-- Concurrent writers may take turns in one way or another.  The reports agree: on the
failures, on the labels, and under each label on everything but the order of samples. -/
theorem reports_ignore_turns
    {writers : List (List Update)}
    (merges : Merges writers merged)
    (merges' : Merges writers merged') :
    (merged.foldl apply .empty).report.failures = (merged'.foldl apply .empty).report.failures ∧
      ∀ kind, Option.Rel Latency.Summary.AgreesUpToOrder
        ((merged.foldl apply .empty).report.label? kind)
        ((merged'.foldl apply .empty).report.label? kind) := by
  have perm : merged.Perm merged' := merges.perm_flatten.trans merges'.perm_flatten.symm
  constructor
  · rw [failures_report, failures_report, failures_written, failures_written, perm.count_eq]
  · intro kind
    have reordered : (latencies kind merged).Perm (latencies kind merged') := perm.filterMap _
    rw [(isTidy_foldl_apply isTidy_empty merged).label?_report,
      (isTidy_foldl_apply isTidy_empty merged').label?_report, samples_written, samples_written]
    have both : latencies kind merged = [] ↔ latencies kind merged' = [] := by
      rw [← List.length_eq_zero_iff, ← List.length_eq_zero_iff, reordered.length_eq]
    by_cases nothing : latencies kind merged = []
    · rw [if_pos nothing, if_pos (both.mp nothing)]
      exact .none
    · rw [if_neg nothing, if_neg (mt both.mpr nothing)]
      exact .some (Latency.Summary.ofSamples_agreesUpToOrder reordered)

end Collector
end TransitLoad
