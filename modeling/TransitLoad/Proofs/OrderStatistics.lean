import Mathlib.Data.Rat.Floor
import TransitLoad.Proofs.Cells
import TransitLoad.Proofs.RoundingErrors
import TransitLoad.Proofs.Statistics

/-!
# Percentiles as order statistics

The extremes and percentiles of a summary are looked up by rank in the sorted list of
cells.  A rank is a rounded product of a rounded fraction; both roundings together are
too small to move it past a whole number.  So a percentile is the value of its exact
rank, up to the end of its cell.
-/

namespace TransitLoad
namespace Latency

open Binary64

/-! ## Ranks -/

/-- So many hundredths of a size, rounded up. -/
def percentRank (percent size : Nat) : Nat := ⌈(percent * size : Rat) / 100⌉₊

theorem percentRank_bounds (percent size : Nat) :
    percent * size ≤ 100 * percentRank percent size ∧
      100 * percentRank percent size < percent * size + 100 := by
  have nonneg : (0 : Rat) ≤ (percent * size : Rat) / 100 := by positivity
  have above := Nat.le_ceil ((percent * size : Rat) / 100)
  have below := Nat.ceil_lt_add_one nonneg
  rw [← percentRank] at above below
  rw [div_le_iff₀ (by norm_num)] at above
  rw [← sub_lt_iff_lt_add, lt_div_iff₀ (by norm_num)] at below
  have above : percent * size ≤ percentRank percent size * 100 := by exact_mod_cast above
  have below : percentRank percent size * 100 < percent * size + 100 := by
    rw [sub_mul, one_mul, sub_lt_iff_lt_add] at below
    exact_mod_cast below
  omega

/-- The fractions of the percentiles are rounded down, by `2 ^ -54` at most. -/
theorem percentile_bounds :
    ∀ percent ∈ [50, 95, 99], (percentile percent).toRat ≤ (percent : Rat) / 100 ∧
      (percent : Rat) / 100 ≤ (percentile percent).toRat + 1 / 2 ^ 54 := by
  decide +kernel

/-- A product between two whole numbers, and not too close to the lower one, is rounded
to a number between them. -/
theorem ceil_toRat_ofRat
    {product : Rat}
    {whole : Nat}
    (short : whole < 2 ^ 33)
    (above : (whole : Rat) + 1 / 2 ^ 7 ≤ product)
    (below : product ≤ (whole + 1 : Nat)) :
    (ofRat product).toRat.ceil = (whole + 1 : Nat) := by
  have nonneg : 0 ≤ product := by
    have positive : (0 : Rat) ≤ (whole : Rat) + 1 / 2 ^ 7 := by positivity
    exact positive.trans above
  have upper : (ofRat product).toRat ≤ (whole + 1 : Nat) := by
    apply toRat_ofRat_le nonneg below
    exact toRat_ofNat (by unfold fractionCount; omega)
  have lower : ((128 * whole + 1 : Nat) : Rat) / 2 ^ 7 ≤ (ofRat product).toRat := by
    apply le_toRat_ofRat (by positivity)
    · push_cast
      linarith
    · exact toRat_ofRat_div_two_pow (by unfold fractionCount; omega) (by omega)
  apply le_antisymm
  · exact Rat.ceil_le_iff.mpr (by exact_mod_cast upper)
  · by_contra beyond
    have small : (ofRat product).toRat.ceil ≤ (whole : Int) := by
      push_cast at beyond
      omega
    have fits : (ofRat product).toRat ≤ (whole : Int) := Rat.ceil_le_iff.mp small
    push_cast at lower fits
    linarith

theorem percentRank_mono (le : percent ≤ percent') (size : Nat) :
    percentRank percent size ≤ percentRank percent' size := by
  have bounds := percentRank_bounds percent size
  have bounds' := percentRank_bounds percent' size
  have products := Nat.mul_le_mul_right size le
  omega

/-- There is a value at the rank of a percentile. -/
theorem percentRank_within
    (known : percent ∈ [50, 95, 99])
    (nonempty : 0 < size) :
    0 < percentRank percent size ∧ percentRank percent size ≤ size := by
  have percents : 0 < percent ∧ percent ≤ 100 := by
    simp only [List.mem_cons, List.not_mem_nil, or_false] at known
    omega
  have bounds := percentRank_bounds percent size
  have some := Nat.mul_pos percents.1 nonempty
  have all := Nat.mul_le_mul_right size percents.2
  omega

/-- The rank of a percentile is exact as long as there are fewer than `2 ^ 32` values. -/
theorem rankAt_percentile
    (known : percent ∈ [50, 95, 99])
    (nonempty : 0 < size)
    (few : size < 2 ^ 32) :
    rankAt (percentile percent) size = percentRank percent size := by
  obtain ⟨below, above⟩ := percentile_bounds percent known
  obtain ⟨reaches, least⟩ := percentRank_bounds percent size
  obtain ⟨positive, within⟩ := percentRank_within known nonempty
  obtain ⟨whole, rank⟩ := Nat.exists_eq_succ_of_ne_zero positive.ne'
  rw [Nat.succ_eq_add_one] at rank
  rw [rank] at reaches least within
  have sizes : (0 : Rat) ≤ size ∧ (size : Rat) < 2 ^ 32 := ⟨by positivity, by exact_mod_cast few⟩
  have parts : ((100 * whole + 1 : Nat) : Rat) ≤ ((percent * size : Nat) : Rat) := by
    exact_mod_cast (show 100 * whole + 1 ≤ percent * size by omega)
  have total : ((percent * size : Nat) : Rat) ≤ ((100 * (whole + 1) : Nat) : Rat) := by
    exact_mod_cast reaches
  have product : (percentile percent * ofNat size).toRat =
      (ofRat ((percentile percent).toRat * size)).toRat := by
    have exact_size : (ofNat size).toRat = size :=
      toRat_ofNat (by unfold fractionCount; omega)
    rw [← exact_size]
    rfl
  have ceiling : (ofRat ((percentile percent).toRat * size)).toRat.ceil = (whole + 1 : Nat) := by
    have lower := mul_le_mul_of_nonneg_right above sizes.1
    have upper := mul_le_mul_of_nonneg_right below sizes.1
    push_cast at parts total
    apply ceil_toRat_ofRat
    · omega
    · linarith
    · push_cast
      linarith
  rw [rankAt, product, ceiling, rank, Int.toNat_natCast]
  exact Nat.max_eq_right (Nat.le_add_left 1 whole)

/-! ## Order statistics -/

/-- The value of a rank in ascending order, the first rank being one. -/
def orderStatistic (values : List Nat) (rank : Nat) : Nat :=
  (values.insertionSort (· ≤ ·))[rank - 1]?.getD 0

theorem orderStatistic_mono
    {values : List Nat}
    (le : rank ≤ rank')
    (within : rank' ≤ values.length) :
    orderStatistic values rank ≤ orderStatistic values rank' := by
  have sorted := List.pairwise_insertionSort (· ≤ ·) values
  rw [← List.length_insertionSort (· ≤ ·)] at within
  rw [orderStatistic, orderStatistic]
  rcases Nat.lt_or_eq_of_le (Nat.sub_le_sub_right le 1) with before | same
  · have inside' : rank' - 1 < (values.insertionSort (· ≤ ·)).length := by omega
    have inside := before.trans inside'
    rw [List.getElem?_eq_getElem inside, List.getElem?_eq_getElem inside']
    exact List.pairwise_iff_getElem.mp sorted _ _ inside inside' before
  · rw [same]

/-- Where order is kept, the order statistic of what becomes of values is what becomes
of their order statistic. -/
theorem orderStatistic_map
    {values : List Nat}
    {change : Nat → Nat}
    (mono : ∀ smaller larger, smaller ≤ larger → change smaller ≤ change larger)
    (ranked : 0 < rank)
    (within : rank ≤ values.length) :
    orderStatistic (values.map change) rank = change (orderStatistic values rank) := by
  have sorted := (List.pairwise_insertionSort (· ≤ ·) values).map change mono
  have sorted' := List.pairwise_insertionSort (· ≤ ·) (values.map change)
  have perm : ((values.map change).insertionSort (· ≤ ·)).Perm
      ((values.insertionSort (· ≤ ·)).map change) :=
    (List.perm_insertionSort _ _).trans ((List.perm_insertionSort _ _).map change).symm
  have same := List.Perm.eq_of_pairwise (fun _ _ _ _ => Nat.le_antisymm) sorted' sorted perm
  have inside : rank - 1 < (values.insertionSort (· ≤ ·)).length := by
    rw [List.length_insertionSort]
    omega
  rw [orderStatistic, same, List.getElem?_map, orderStatistic, List.getElem?_eq_getElem inside]
  rfl

/-! ## Quantiles -/

/-- The cells of measured values, each by its lowest value. -/
def cellsOf (measured : List Nat) : List Nat :=
  measured.map fun value => cellFloor (counted value)

namespace Histogram

theorem size_ofList (measured : List Nat) : (ofList measured).size = measured.length := by
  rw [ofList, size_foldl_record]
  exact Nat.zero_add _

theorem atRank_ofList
    (ranked : 0 < rank)
    (within : rank ≤ measured.length) :
    (ofList measured).atRank rank = cellCeiling (orderStatistic (cellsOf measured) rank) := by
  have counted : rank ≤ 0 + size (ofList measured) := by
    rw [size_ofList, Nat.zero_add]
    exact within
  obtain ⟨value, found, same⟩ := exists_scan (ofList measured).cells ranked counted
  have listed : (ofList measured).values[rank - 1]? = some value := found
  rw [values_ofList] at listed
  rw [atRank, same, orderStatistic, cellsOf, listed]
  rfl

theorem lowest_ofList (measured : List Nat) :
    (ofList measured).lowest = orderStatistic (cellsOf measured) 1 := by
  rw [lowest_eq (holds_ofList measured).filled, values_ofList]
  rfl

theorem highest_ofList
    (nonempty : measured ≠ []) :
    (ofList measured).highest =
      cellCeiling (orderStatistic (cellsOf measured) measured.length) := by
  have length := List.length_insertionSort (· ≤ ·) (cellsOf measured)
  have whole : (cellsOf measured).length = measured.length := List.length_map _
  have filled : (ofList measured).values ≠ [] := by
    rw [← List.length_pos_iff_ne_nil, values_ofList]
    rw [← List.length_pos_iff_ne_nil] at nonempty
    exact (length.trans whole).symm ▸ nonempty
  rw [highest_eq (holds_ofList measured).filled filled, values_ofList,
    List.getLast?_eq_getElem?, ← cellsOf, length, whole]
  rfl

/-- The quantiles of measured values are the order statistics of their cells: the first
one begins its cell, the others end theirs. -/
theorem quantiles_ofList
    (nonempty : measured ≠ [])
    (few : measured.length < 2 ^ 32) :
    (ofList measured).quantiles =
      { lowest := orderStatistic (cellsOf measured) 1
        median := cellCeiling
          (orderStatistic (cellsOf measured) (percentRank 50 measured.length))
        ninetyFifth := cellCeiling
          (orderStatistic (cellsOf measured) (percentRank 95 measured.length))
        ninetyNinth := cellCeiling
          (orderStatistic (cellsOf measured) (percentRank 99 measured.length))
        highest := cellCeiling (orderStatistic (cellsOf measured) measured.length) } := by
  have some := List.length_pos_iff_ne_nil.mpr nonempty
  have value (percent : Nat) (known : percent ∈ [50, 95, 99]) :
      (ofList measured).atRank (rankAt (percentile percent) (ofList measured).size) =
        cellCeiling (orderStatistic (cellsOf measured) (percentRank percent measured.length)) := by
    have ranks := percentRank_within known some
    rw [size_ofList, rankAt_percentile known some few]
    exact atRank_ofList ranks.1 ranks.2
  simp only [quantiles, lowest_ofList, highest_ofList nonempty, value 50 (by decide),
    value 95 (by decide), value 99 (by decide)]

end Histogram

/-! ## Summaries -/

/-- A number that is a value exactly or a thousandth part of it more at most. -/
structure EndsNear (value shown : Nat) : Prop where
  le : value ≤ shown
  near : shown ≤ value + value / 1024
  same : value < 2048 → shown = value

/-- A number that is a value exactly or a thousandth part of it less at most. -/
structure BeginsNear (value shown : Nat) : Prop where
  near : value - value / 1024 ≤ shown
  le : shown ≤ value
  same : value < 2048 → shown = value

theorem endsNear_cellCeiling (value : Nat) : EndsNear value (cellCeiling value) :=
  ⟨le_cellCeiling value, cellCeiling_le value, cellCeiling_of_lt⟩

theorem beginsNear_cellFloor (value : Nat) : BeginsNear value (cellFloor value) :=
  ⟨sub_le_cellFloor value, cellFloor_le value, cellFloor_of_lt⟩

namespace Quantiles

/-- The quantiles stand in ascending order. -/
structure IsAscending (quantiles : Quantiles) : Prop where
  median : quantiles.lowest ≤ quantiles.median
  ninetyFifth : quantiles.median ≤ quantiles.ninetyFifth
  ninetyNinth : quantiles.ninetyFifth ≤ quantiles.ninetyNinth
  highest : quantiles.ninetyNinth ≤ quantiles.highest

/-- The quantiles are the values of their ranks, up to the width of a cell. -/
structure AreNear (quantiles : Quantiles) (values : List Nat) : Prop where
  lowest : BeginsNear (orderStatistic values 1) quantiles.lowest
  median : EndsNear (orderStatistic values ⌈(values.length : Rat) / 2⌉₊) quantiles.median
  ninetyFifth : EndsNear (orderStatistic values ⌈(95 * values.length : Rat) / 100⌉₊)
    quantiles.ninetyFifth
  ninetyNinth : EndsNear (orderStatistic values ⌈(99 * values.length : Rat) / 100⌉₊)
    quantiles.ninetyNinth
  highest : EndsNear (orderStatistic values values.length) quantiles.highest

end Quantiles

theorem percentRank_fifty (size : Nat) : percentRank 50 size = ⌈(size : Rat) / 2⌉₊ := by
  rw [percentRank]
  congr 1
  push_cast
  ring

theorem Histogram.isAscending_quantiles
    (nonempty : measured ≠ [])
    (few : measured.length < 2 ^ 32) :
    (ofList measured).quantiles.IsAscending := by
  have some := List.length_pos_iff_ne_nil.mpr nonempty
  have whole : (cellsOf measured).length = measured.length := List.length_map _
  have ranks (percent : Nat) (known : percent ∈ [50, 95, 99]) :=
    percentRank_within known some
  have ascends {rank rank' : Nat} (le : rank ≤ rank') (within : rank' ≤ measured.length) :
      orderStatistic (cellsOf measured) rank ≤ orderStatistic (cellsOf measured) rank' :=
    orderStatistic_mono le (whole.symm ▸ within)
  rw [quantiles_ofList nonempty few]
  constructor
  · exact (ascends (ranks 50 (by decide)).1 (ranks 50 (by decide)).2).trans (le_cellCeiling _)
  · apply cellCeiling_mono
    exact ascends (percentRank_mono (by decide) _) (ranks 95 (by decide)).2
  · apply cellCeiling_mono
    exact ascends (percentRank_mono (by decide) _) (ranks 99 (by decide)).2
  · apply cellCeiling_mono
    exact ascends (ranks 99 (by decide)).2 le_rfl

/-- Values of a minute at most are counted in their own cells. -/
theorem cellsOf_of_le
    (short : ∀ value ∈ measured, value ≤ oneMinute) :
    cellsOf measured = measured.map cellFloor := by
  apply List.map_congr_left
  intro value present
  have reached : ¬ tableReach < value :=
    Nat.not_lt_of_le ((short value present).trans (by decide))
  rw [counted, if_neg reached]

theorem Histogram.areNear_quantiles
    (nonempty : measured ≠ [])
    (few : measured.length < 2 ^ 32)
    (short : ∀ value ∈ measured, value ≤ oneMinute) :
    (ofList measured).quantiles.AreNear measured := by
  have some := List.length_pos_iff_ne_nil.mpr nonempty
  have floor {rank : Nat} (ranked : 0 < rank ∧ rank ≤ measured.length) :
      orderStatistic (cellsOf measured) rank = cellFloor (orderStatistic measured rank) := by
    rw [cellsOf_of_le short]
    exact orderStatistic_map (fun _ _ => cellFloor_mono) ranked.1 ranked.2
  have ceiling {rank : Nat} (ranked : 0 < rank ∧ rank ≤ measured.length) :
      EndsNear (orderStatistic measured rank)
        (cellCeiling (orderStatistic (cellsOf measured) rank)) := by
    rw [floor ranked, cellCeiling_cellFloor]
    exact endsNear_cellCeiling _
  rw [quantiles_ofList nonempty few]
  constructor
  · rw [floor ⟨Nat.zero_lt_one, some⟩]
    exact beginsNear_cellFloor _
  · rw [← percentRank_fifty]
    exact ceiling (percentRank_within (by decide) some)
  · exact ceiling (percentRank_within (by decide) some)
  · exact ceiling (percentRank_within (by decide) some)
  · exact ceiling ⟨some, le_rfl⟩

/-- The numbers of a summary are these microseconds in milliseconds. -/
structure Summary.Shows (summary : Summary) (quantiles : Quantiles) : Prop where
  lowest : summary.lowest = inMilliseconds (.ofNat quantiles.lowest)
  median : summary.median = inMilliseconds (.ofNat quantiles.median)
  ninetyFifth : summary.ninetyFifth = inMilliseconds (.ofNat quantiles.ninetyFifth)
  ninetyNinth : summary.ninetyNinth = inMilliseconds (.ofNat quantiles.ninetyNinth)
  highest : summary.highest = inMilliseconds (.ofNat quantiles.highest)

/-- A summary counts all samples and shows microseconds in ascending order, which are
the order statistics of the samples, up to a thousandth part and exactly below `2048`,
unless there is a sample of more than a minute. -/
theorem summary_shows_order_statistics
    {samples : List Duration}
    (nonempty : samples ≠ [])
    (few : samples.length < 2 ^ 32) :
    (Summary.ofSamples samples).count = samples.length ∧
      (Summary.ofSamples samples).samples.length = samples.length ∧
      (Summary.ofSamples samples).Shows (histogram samples).quantiles ∧
      (histogram samples).quantiles.IsAscending ∧
      ((∀ sample ∈ samples, sample.wholeMicroseconds ≤ oneMinute) →
        (histogram samples).quantiles.AreNear (samples.map Duration.wholeMicroseconds)) := by
  have measured : samples.map microseconds ≠ [] := by simpa using nonempty
  have number : (samples.map microseconds).length < 2 ^ 32 := by
    rw [List.length_map]
    exact few
  refine ⟨Summary.count_ofSamples samples, List.length_map _, ⟨rfl, rfl, rfl, rfl, rfl⟩,
    Histogram.isAscending_quantiles measured number, ?_⟩
  intro short
  have same : samples.map microseconds = samples.map Duration.wholeMicroseconds := by
    apply List.map_congr_left
    intro sample present
    exact Nat.min_eq_left ((short sample present).trans (by decide))
  rw [histogram, same]
  rw [same] at measured number
  exact Histogram.areNear_quantiles measured number (List.forall_mem_map.mpr short)

/-- Three samples out of order, one of them with a fraction of a microsecond. -/
def threeSamples : List Duration := [⟨3000999⟩, ⟨1500000⟩, ⟨5000000⟩]

/-- Below `2048` a value is shown as it is, above up to the end of its cell. -/
theorem summary_shows_order_statistics_threeSamples :
    threeSamples ≠ [] ∧ threeSamples.length < 2 ^ 32 ∧
      (∀ sample ∈ threeSamples, sample.wholeMicroseconds ≤ oneMinute) ∧
      (histogram threeSamples).quantiles = ⟨1500, 3001, 5003, 5003, 5003⟩ ∧
      (Summary.ofSamples threeSamples).Shows ⟨1500, 3001, 5003, 5003, 5003⟩ ∧
      Quantiles.AreNear ⟨1500, 3001, 5003, 5003, 5003⟩ [3000, 1500, 5000] := by
  have nonempty : threeSamples ≠ [] := by decide
  have few : threeSamples.length < 2 ^ 32 := by decide
  have short : ∀ sample ∈ threeSamples, sample.wholeMicroseconds ≤ oneMinute := by decide
  have quantiles : (histogram threeSamples).quantiles = ⟨1500, 3001, 5003, 5003, 5003⟩ := by
    decide +kernel
  obtain ⟨_, _, shown, _, near⟩ := summary_shows_order_statistics nonempty few
  rw [quantiles] at shown near
  exact ⟨nonempty, few, short, quantiles, shown, near short⟩

end Latency
end TransitLoad
