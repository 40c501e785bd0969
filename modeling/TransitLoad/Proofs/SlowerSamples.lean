import TransitLoad.Proofs.OrderStatistics

/-!
# Slower samples

Where every sample takes as long as before or longer, so does every order statistic, and
no extreme and no percentile becomes smaller: cells follow one another in the order of
their values.  There is one exception.  A histogram counts a sample beyond its table at
one minute, although the table itself reaches further; so a sample beyond the table falls
behind a shorter one that is still within it.
-/

namespace TransitLoad
namespace Latency

/-! ## Order -/

theorem orderedInsert_least
    {values : List Nat}
    (least : ∀ other ∈ values, value ≤ other) :
    values.orderedInsert (· ≤ ·) value = value :: values := by
  cases values with
  | nil => rfl
  | cons first values => exact List.orderedInsert_cons_of_le _ _ (least first List.mem_cons_self)

/-- Two sorted lists, one above the other, stay so when a number is put into the lower one
and no smaller one into the upper one. -/
theorem forall₂_orderedInsert
    {lower upper : List Nat}
    (above : List.Forall₂ (· ≤ ·) lower upper)
    (sorted : lower.Pairwise (· ≤ ·))
    (sorted' : upper.Pairwise (· ≤ ·))
    (le : value ≤ value') :
    List.Forall₂ (· ≤ ·) (lower.orderedInsert (· ≤ ·) value)
      (upper.orderedInsert (· ≤ ·) value') := by
  -- The numbers are generalised: where only one of them comes first, the other one goes on
  -- beside the first number of the other list.
  induction above generalizing value value' with
  | nil => exact .cons le .nil
  | @cons first first' lower upper firstLe later hypothesis =>
      obtain ⟨least, sorted⟩ := List.pairwise_cons.mp sorted
      obtain ⟨least', sorted'⟩ := List.pairwise_cons.mp sorted'
      rw [List.orderedInsert_cons, List.orderedInsert_cons]
      split_ifs with before before' before'
      · exact .cons le (.cons firstLe later)
      · have onward := hypothesis sorted sorted' (firstLe.trans (Nat.le_of_not_le before'))
        rw [orderedInsert_least least] at onward
        exact .cons (before.trans firstLe) onward
      · have onward := hypothesis sorted sorted' (le.trans before')
        rw [orderedInsert_least least'] at onward
        exact .cons ((Nat.le_of_not_le before).trans le) onward
      · exact .cons firstLe (hypothesis sorted sorted' le)

theorem forall₂_insertionSort
    {lower upper : List Nat}
    (above : List.Forall₂ (· ≤ ·) lower upper) :
    List.Forall₂ (· ≤ ·) (lower.insertionSort (· ≤ ·)) (upper.insertionSort (· ≤ ·)) := by
  induction above with
  | nil => exact .nil
  | cons le _ hypothesis =>
      exact forall₂_orderedInsert hypothesis (List.pairwise_insertionSort _ _)
        (List.pairwise_insertionSort _ _) le

/-- No order statistic becomes smaller where no value does. -/
theorem orderStatistic_le_orderStatistic
    {lower upper : List Nat}
    (above : List.Forall₂ (· ≤ ·) lower upper)
    (rank : Nat) :
    orderStatistic lower rank ≤ orderStatistic upper rank := by
  have sorted := forall₂_insertionSort above
  have same := sorted.length_eq
  rw [orderStatistic, orderStatistic]
  by_cases inside : rank - 1 < (lower.insertionSort (· ≤ ·)).length
  · have inside' := same ▸ inside
    rw [List.getElem?_eq_getElem inside, List.getElem?_eq_getElem inside']
    exact sorted.get inside inside'
  · rw [List.getElem?_eq_none (Nat.le_of_not_lt inside)]
    exact Nat.zero_le _

/-! ## Cells -/

/-- Whether a longer time is counted no lower than a shorter one, both in microseconds:
unless the shorter one is beyond the cell of a minute and within the table, and the longer
one beyond the table. -/
def KeepsAhead (shorter longer : Nat) : Prop :=
  shorter ≤ cellCeiling oneMinute ∨ tableReach < shorter ∨ longer ≤ tableReach

theorem cellFloor_cellCeiling_oneMinute :
    cellFloor (cellCeiling oneMinute) = cellFloor oneMinute := by decide +kernel

/-- A longer time is counted in no lower cell just if it keeps ahead. -/
theorem cellFloor_counted_le_iff (le : shorter ≤ longer) :
    cellFloor (counted shorter) ≤ cellFloor (counted longer) ↔ KeepsAhead shorter longer := by
  unfold counted KeepsAhead
  split_ifs with beyond beyond' beyond'
  · exact iff_of_true (Nat.le_refl _) (.inr (.inl beyond))
  · exact absurd (beyond.trans_le le) beyond'
  · constructor
    · intro floors
      left
      calc
        shorter ≤ cellCeiling shorter := le_cellCeiling shorter
        _ = cellCeiling (cellFloor shorter) := (cellCeiling_cellFloor shorter).symm
        _ ≤ cellCeiling (cellFloor oneMinute) := cellCeiling_mono floors
        _ = cellCeiling oneMinute := cellCeiling_cellFloor oneMinute
    · rintro (within | past | past)
      · rw [← cellFloor_cellCeiling_oneMinute]
        exact cellFloor_mono within
      · exact absurd past beyond
      · exact absurd past (Nat.not_le.mpr beyond')
  · exact iff_of_true (cellFloor_mono le) (.inr (.inr (Nat.le_of_not_lt beyond')))

theorem forall₂_cellsOf
    {shorter longer : List Nat}
    (paced : List.Forall₂ (fun value value' => value ≤ value' ∧ KeepsAhead value value')
      shorter longer) :
    List.Forall₂ (· ≤ ·) (cellsOf shorter) (cellsOf longer) := by
  refine List.rel_map ?_ paced
  rintro value value' ⟨le, ahead⟩
  exact (cellFloor_counted_le_iff le).mpr ahead

/-! ## Quantiles -/

/-- No extreme and no percentile is above the other one. -/
structure Quantiles.AtMost (quantiles other : Quantiles) : Prop where
  lowest : quantiles.lowest ≤ other.lowest
  median : quantiles.median ≤ other.median
  ninetyFifth : quantiles.ninetyFifth ≤ other.ninetyFifth
  ninetyNinth : quantiles.ninetyNinth ≤ other.ninetyNinth
  highest : quantiles.highest ≤ other.highest

namespace Histogram

/-- Beyond the last rank there is no value. -/
theorem scan_of_lt
    {cells : List (Nat × Nat)}
    (beyond : passed + size ⟨cells⟩ < rank) :
    scan rank passed cells = 0 := by
  induction cells generalizing passed with
  | nil => rfl
  | cons entry cells hypothesis =>
      obtain ⟨cell, count⟩ := entry
      have whole : size ⟨(cell, count) :: cells⟩ = count + size ⟨cells⟩ := rfl
      rw [whole] at beyond
      rw [scan, if_neg (by omega)]
      exact hypothesis (by omega)

theorem atRank_le_atRank
    {shorter longer : List Nat}
    (above : List.Forall₂ (· ≤ ·) (cellsOf shorter) (cellsOf longer))
    (ranked : 0 < rank) :
    (ofList shorter).atRank rank ≤ (ofList longer).atRank rank := by
  have same : shorter.length = longer.length := by simpa [cellsOf] using above.length_eq
  by_cases within : rank ≤ shorter.length
  · rw [atRank_ofList ranked within, atRank_ofList ranked (same ▸ within)]
    exact cellCeiling_mono (orderStatistic_le_orderStatistic above rank)
  · have none : (ofList shorter).atRank rank = 0 := by
      have size : (ofList shorter).size = shorter.length := size_ofList shorter
      have beyond : 0 + (ofList shorter).size < rank := by omega
      exact scan_of_lt beyond
    rw [none]
    exact Nat.zero_le _

theorem quantiles_atMost
    {shorter longer : List Nat}
    (above : List.Forall₂ (· ≤ ·) (cellsOf shorter) (cellsOf longer))
    (nonempty : shorter ≠ []) :
    (ofList shorter).quantiles.AtMost (ofList longer).quantiles := by
  have same : shorter.length = longer.length := by simpa [cellsOf] using above.length_eq
  have nonempty' : longer ≠ [] := by
    rwa [← List.length_pos_iff_ne_nil, ← same, List.length_pos_iff_ne_nil]
  have sizes : (ofList shorter).size = (ofList longer).size := by
    rw [size_ofList, size_ofList, same]
  have percentiles (percent : Nat) :
      (ofList shorter).atRank (rankAt (percentile percent) (ofList shorter).size) ≤
        (ofList longer).atRank (rankAt (percentile percent) (ofList longer).size) := by
    rw [sizes]
    exact atRank_le_atRank above (Nat.le_max_left 1 _)
  constructor
  · change (ofList shorter).lowest ≤ (ofList longer).lowest
    rw [lowest_ofList, lowest_ofList]
    exact orderStatistic_le_orderStatistic above 1
  · exact percentiles 50
  · exact percentiles 95
  · exact percentiles 99
  · change (ofList shorter).highest ≤ (ofList longer).highest
    rw [highest_ofList nonempty, highest_ofList nonempty', same]
    exact cellCeiling_mono (orderStatistic_le_orderStatistic above _)

end Histogram

/-! ## Summaries -/

/-- A sample that takes as long as another one or longer. -/
def IsSlower (sample slower : Duration) : Prop := sample.nanoseconds ≤ slower.nanoseconds

theorem IsSlower.microseconds_le (isSlower : IsSlower sample slower) :
    microseconds sample ≤ microseconds slower :=
  min_le_min_right _ (Nat.div_le_div_right isSlower)

/-- A slower sample, on its own, does not look faster if and only if it keeps ahead. -/
theorem quantiles_single_atMost_iff (isSlower : IsSlower sample slower) :
    (histogram [sample]).quantiles.AtMost (histogram [slower]).quantiles ↔
      KeepsAhead (microseconds sample) (microseconds slower) := by
  constructor
  · intro atMost
    have floors : cellFloor (counted (microseconds sample)) ≤
        cellFloor (counted (microseconds slower)) := atMost.lowest
    exact (cellFloor_counted_le_iff isSlower.microseconds_le).mp floors
  · intro ahead
    apply Histogram.quantiles_atMost _ (List.cons_ne_nil _ _)
    exact forall₂_cellsOf (.cons ⟨isSlower.microseconds_le, ahead⟩ .nil)

/-- Slower samples never look faster where each of them keeps ahead of the one that it is
slower than, however many samples there are and however long they take: none of the
microseconds that a summary shows becomes less. -/
theorem slower_samples_never_look_faster
    {samples slower : List Duration}
    (paced : List.Forall₂ (fun sample slower => IsSlower sample slower ∧
      KeepsAhead (microseconds sample) (microseconds slower)) samples slower)
    (nonempty : samples ≠ []) :
    (Summary.ofSamples samples).Shows (histogram samples).quantiles ∧
      (Summary.ofSamples slower).Shows (histogram slower).quantiles ∧
      (histogram samples).quantiles.AtMost (histogram slower).quantiles := by
  refine ⟨⟨rfl, rfl, rfl, rfl, rfl⟩, ⟨rfl, rfl, rfl, rfl, rfl⟩, ?_⟩
  have measured : samples.map microseconds ≠ [] := by simpa using nonempty
  apply Histogram.quantiles_atMost _ measured
  apply forall₂_cellsOf
  refine List.rel_map ?_ paced
  rintro sample slower ⟨isSlower, ahead⟩
  exact ⟨isSlower.microseconds_le, ahead⟩

/-- Three samples, two of them longer than a minute. -/
def longSamples : List Duration := [.ofSeconds 70, .ofSeconds 61, ⟨1500⟩]

/-- Three slower samples, each beyond the table if the one before was. -/
def longerSamples : List Duration := [.ofSeconds 90, .ofSeconds 67, ⟨1500⟩]

/-- Samples beyond a minute keep ahead of each other within the table, and beyond it. -/
theorem slower_samples_never_look_faster_longSamples :
    List.Forall₂ (fun sample slower => IsSlower sample slower ∧
        KeepsAhead (microseconds sample) (microseconds slower)) longSamples longerSamples ∧
      longSamples ≠ [] ∧
      (histogram longSamples).quantiles = ⟨1, 60030975, 61014015, 61014015, 61014015⟩ ∧
      (histogram longerSamples).quantiles = ⟨1, 60030975, 67010559, 67010559, 67010559⟩ ∧
      Quantiles.AtMost ⟨1, 60030975, 61014015, 61014015, 61014015⟩
        ⟨1, 60030975, 67010559, 67010559, 67010559⟩ := by
  have paced : List.Forall₂ (fun sample slower => IsSlower sample slower ∧
      KeepsAhead (microseconds sample) (microseconds slower)) longSamples longerSamples := by
    unfold longSamples longerSamples IsSlower KeepsAhead
    decide +kernel
  have nonempty : longSamples ≠ [] := List.cons_ne_nil _ _
  have quantiles : (histogram longSamples).quantiles =
      ⟨1, 60030975, 61014015, 61014015, 61014015⟩ := by decide +kernel
  have quantiles' : (histogram longerSamples).quantiles =
      ⟨1, 60030975, 67010559, 67010559, 67010559⟩ := by decide +kernel
  have atMost := (slower_samples_never_look_faster paced nonempty).2.2
  rw [quantiles, quantiles'] at atMost
  exact ⟨paced, nonempty, quantiles, quantiles', atMost⟩

/-- A sample of seventy seconds looks faster than one of sixty-two. -/
theorem slower_sample_looks_faster :
    ¬∀ samples slower : List Duration, List.Forall₂ IsSlower samples slower → samples ≠ [] →
      (histogram samples).quantiles.AtMost (histogram slower).quantiles := by
  intro never
  have isSlower : IsSlower (.ofSeconds 62) (.ofSeconds 70) := by
    unfold IsSlower
    decide
  have atMost := never [.ofSeconds 62] [.ofSeconds 70] (.cons isSlower .nil)
    (List.cons_ne_nil _ _)
  have ahead := (quantiles_single_atMost_iff isSlower).mp atMost
  revert ahead
  unfold KeepsAhead
  decide +kernel

end Latency
end TransitLoad
