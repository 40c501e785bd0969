import Mathlib.Algebra.Group.Nat.Defs
import Mathlib.Data.List.Induction
import Mathlib.Data.List.Sort
import TransitLoad.Latency.Histogram

/-!
# Cells and the values in them

A cell is as wide as its values are long: it begins and ends within a thousandth of
each of them, and cells follow one another in the order of their values.  What a
histogram holds is a sorted list, in which every counted value has become the lowest
one of its cell, and a rank is looked up in this list.
-/

namespace TransitLoad
namespace Latency

/-! ## Widths -/

theorem cellWidth_of_lt (short : value < 2048) : cellWidth value = 1 := by
  have few : droppedDigits value = 0 := by
    rw [droppedDigits, binaryLength]
    split_ifs with zero
    · rfl
    · have := (Nat.log2_lt zero).mpr (show value < 2 ^ 11 from short)
      omega
  rw [cellWidth, few]
  rfl

/-- A value of `2048` or more has so many digits more than eleven. -/
theorem cellWidth_of_le (long : 2048 ≤ value) :
    cellWidth value * 2 ^ 10 = 2 ^ value.log2 := by
  have visible : value ≠ 0 := by omega
  have digits : 11 ≤ value.log2 := (Nat.le_log2 visible).mpr long
  rw [cellWidth, droppedDigits, binaryLength, if_neg visible, Nat.one_shiftLeft, ← Nat.pow_add]
  congr 1
  omega

theorem cellWidth_pos (value : Nat) : 0 < cellWidth value := by
  rw [cellWidth, Nat.one_shiftLeft]
  exact Nat.two_pow_pos _

/-- A cell is no wider than the thousandth part of its values. -/
theorem cellWidth_le (value : Nat) : cellWidth value ≤ value / 1024 + 1 := by
  by_cases short : value < 2048
  · rw [cellWidth_of_lt short]
    exact Nat.le_add_left 1 _
  · have wide := cellWidth_of_le (Nat.le_of_not_lt short)
    have first := Nat.log2_self_le (n := value) (by omega)
    omega

/-- A cell of two or more values begins with all digits of zero but the first one, or
later: no cell goes across a power of two. -/
theorem two_pow_log2_le_cellFloor (long : 2048 ≤ value) :
    2 ^ value.log2 ≤ cellFloor value := by
  have wide := cellWidth_of_le long
  have first := Nat.log2_self_le (n := value) (by omega)
  rw [← wide] at first ⊢
  rw [cellFloor, Nat.mul_comm _ (2 ^ 10)]
  rw [Nat.mul_comm] at first
  exact Nat.mul_le_mul_right _ ((Nat.le_div_iff_mul_le (cellWidth_pos value)).mpr first)

theorem cellWidth_mono (le : value ≤ value') : cellWidth value ≤ cellWidth value' := by
  by_cases short : value < 2048
  · rw [cellWidth_of_lt short]
    exact cellWidth_pos value'
  · have wide := cellWidth_of_le (Nat.le_of_not_lt short)
    have wide' := cellWidth_of_le (le_trans (Nat.le_of_not_lt short) le)
    have digits : value.log2 ≤ value'.log2 :=
      (Nat.le_log2 (by omega)).mpr (le_trans (Nat.log2_self_le (by omega)) le)
    have powers := Nat.pow_le_pow_right (show 0 < 2 by omega) digits
    omega

/-! ## Bounds -/

theorem cellFloor_le (value : Nat) : cellFloor value ≤ value :=
  Nat.div_mul_le_self value (cellWidth value)

theorem lt_cellFloor_add (value : Nat) : value < cellFloor value + cellWidth value := by
  have parts := Nat.div_add_mod' value (cellWidth value)
  have rest := Nat.mod_lt value (cellWidth_pos value)
  rw [cellFloor]
  omega

theorem le_cellCeiling (value : Nat) : value ≤ cellCeiling value := by
  have below := lt_cellFloor_add value
  rw [cellCeiling]
  omega

theorem cellFloor_of_lt (short : value < 2048) : cellFloor value = value := by
  rw [cellFloor, cellWidth_of_lt short, Nat.div_one, Nat.mul_one]

theorem cellCeiling_of_lt (short : value < 2048) : cellCeiling value = value := by
  rw [cellCeiling, cellFloor_of_lt short, cellWidth_of_lt short, Nat.add_sub_cancel]

theorem sub_le_cellFloor (value : Nat) : value - value / 1024 ≤ cellFloor value := by
  have below := lt_cellFloor_add value
  have narrow := cellWidth_le value
  omega

theorem cellCeiling_le (value : Nat) : cellCeiling value ≤ value + value / 1024 := by
  have above := cellFloor_le value
  have narrow := cellWidth_le value
  rw [cellCeiling]
  omega

/-! ## Order -/

/-- Values between a power of two and the next one have cells of one width. -/
theorem cellWidth_eq
    (long : 2048 ≤ value')
    (first : 2 ^ value'.log2 ≤ value)
    (le : value ≤ value') :
    cellWidth value = cellWidth value' := by
  have digits : 11 ≤ value'.log2 := (Nat.le_log2 (by omega)).mpr long
  have power : 2 ^ 11 ≤ 2 ^ value'.log2 := Nat.pow_le_pow_right (by omega) digits
  have same : value.log2 = value'.log2 := by
    refine (Nat.log2_eq_iff (by omega)).mpr ⟨first, ?_⟩
    exact le.trans_lt Nat.lt_log2_self
  have wide := cellWidth_of_le (show 2048 ≤ value by omega)
  have wide' := cellWidth_of_le long
  rw [same] at wide
  omega

theorem cellFloor_mono (le : value ≤ value') : cellFloor value ≤ cellFloor value' := by
  by_cases short : value' < 2048
  · rw [cellFloor_of_lt short, cellFloor_of_lt (le.trans_lt short)]
    exact le
  · have long := Nat.le_of_not_lt short
    by_cases first : 2 ^ value'.log2 ≤ value
    · rw [cellFloor, cellFloor, cellWidth_eq long first le]
      exact Nat.mul_le_mul_right _ (Nat.div_le_div_right le)
    · calc
        cellFloor value ≤ value := cellFloor_le value
        _ ≤ 2 ^ value'.log2 := Nat.le_of_not_le first
        _ ≤ cellFloor value' := two_pow_log2_le_cellFloor long

theorem cellCeiling_mono (le : value ≤ value') : cellCeiling value ≤ cellCeiling value' := by
  have floors := cellFloor_mono le
  have widths := cellWidth_mono le
  rw [cellCeiling, cellCeiling]
  omega

/-- The lowest value of a cell lies in it. -/
theorem cellCeiling_cellFloor (value : Nat) :
    cellCeiling (cellFloor value) = cellCeiling value := by
  by_cases short : value < 2048
  · rw [cellFloor_of_lt short]
  · have long := Nat.le_of_not_lt short
    have width := cellWidth_eq long (two_pow_log2_le_cellFloor long) (cellFloor_le value)
    have floor : cellFloor (cellFloor value) = cellFloor value := by
      rw [cellFloor.eq_1 (cellFloor value), width, cellFloor,
        Nat.mul_div_cancel _ (cellWidth_pos value)]
    rw [cellCeiling, cellCeiling, width, floor]

/-! ## The values of a histogram -/

namespace Histogram

/-- Each cell as often as a value was counted in it, in the order of the cells. -/
def values (histogram : Histogram) : List Nat :=
  histogram.cells.flatMap fun (cell, count) => List.replicate count cell

/-- A histogram that only keeps cells with values. -/
def IsFilled (histogram : Histogram) : Prop :=
  ∀ entry ∈ histogram.cells, 0 < entry.2

theorem isFilled_increment
    {cells : List (Nat × Nat)}
    (filled : IsFilled ⟨cells⟩)
    (cell : Nat) :
    IsFilled ⟨increment cell cells⟩ := by
  induction cells with
  | nil => exact List.forall_mem_singleton.mpr Nat.zero_lt_one
  | cons entry cells hypothesis =>
      obtain ⟨other, count⟩ := entry
      obtain ⟨first, others⟩ := List.forall_mem_cons.mp filled
      rw [increment]
      split_ifs with before same
      · exact List.forall_mem_cons.mpr ⟨Nat.zero_lt_one, filled⟩
      · exact List.forall_mem_cons.mpr ⟨Nat.succ_pos count, others⟩
      · exact List.forall_mem_cons.mpr ⟨first, hypothesis others⟩

/-- Values of smaller cells stand before a value that is put in. -/
theorem orderedInsert_replicate_append
    (before : other < cell)
    (count : Nat)
    (values : List Nat) :
    (List.replicate count other ++ values).orderedInsert (· ≤ ·) cell =
      List.replicate count other ++ values.orderedInsert (· ≤ ·) cell := by
  induction count with
  | zero => rfl
  | succ count hypothesis =>
      rw [List.replicate_succ, List.cons_append,
        List.orderedInsert_of_not_le _ _ (Nat.not_le_of_lt before), hypothesis, List.cons_append]

/-- To count a value is to put its cell into the sorted list. -/
theorem values_increment
    {cells : List (Nat × Nat)}
    (filled : IsFilled ⟨cells⟩)
    (cell : Nat) :
    values ⟨increment cell cells⟩ = (values ⟨cells⟩).orderedInsert (· ≤ ·) cell := by
  induction cells with
  | nil => rfl
  | cons entry cells hypothesis =>
      obtain ⟨other, count⟩ := entry
      obtain ⟨first, others⟩ := List.forall_mem_cons.mp filled
      obtain ⟨count, rfl⟩ := Nat.exists_eq_succ_of_ne_zero (Nat.pos_iff_ne_zero.mp first)
      have front : values ⟨(other, count + 1) :: cells⟩ =
          other :: (List.replicate count other ++ values ⟨cells⟩) := rfl
      rw [increment]
      split_ifs with before same
      · rw [front, List.orderedInsert_cons, if_pos before.le]
        rfl
      · subst same
        rw [front, List.orderedInsert_cons, if_pos le_rfl]
        rfl
      · have after : other < cell := by omega
        have passed := orderedInsert_replicate_append after (count + 1) (values ⟨cells⟩)
        rw [← hypothesis others] at passed
        exact passed.symm

/-- A histogram that holds these values and no others. -/
structure Holds (histogram : Histogram) (measured : List Nat) : Prop where
  /-- Every cell has a value. -/
  filled : histogram.IsFilled
  /-- The cells stand in ascending order. -/
  sorted : histogram.values.Pairwise (· ≤ ·)
  /-- Each value is counted in its cell. -/
  perm : histogram.values.Perm (measured.map fun value => cellFloor (counted value))

theorem Holds.record
    {histogram : Histogram}
    (holds : histogram.Holds measured)
    (microseconds : Nat) :
    (histogram.record microseconds).Holds (measured ++ [microseconds]) := by
  have inserted : (histogram.record microseconds).values =
      histogram.values.orderedInsert (· ≤ ·) (cellFloor (counted microseconds)) :=
    values_increment holds.filled _
  constructor
  · exact isFilled_increment holds.filled _
  · rw [inserted]
    exact holds.sorted.orderedInsert _ _
  · rw [inserted, List.map_append]
    refine (List.perm_orderedInsert _ _ _).trans ?_
    exact (holds.perm.cons _).trans (List.perm_append_singleton _ _).symm

theorem holds_ofList (measured : List Nat) : (ofList measured).Holds measured := by
  induction measured using List.reverseRecOn with
  | nil => exact ⟨nofun, .nil, .nil⟩
  | append_singleton measured microseconds hypothesis =>
      rw [ofList, List.foldl_append]
      exact hypothesis.record microseconds

/-- What a histogram holds is what was measured, by cells and in ascending order. -/
theorem values_ofList (measured : List Nat) :
    (ofList measured).values =
      (measured.map fun value => cellFloor (counted value)).insertionSort (· ≤ ·) := by
  have holds := holds_ofList measured
  have sorted := List.pairwise_insertionSort (· ≤ ·)
    (measured.map fun value => cellFloor (counted value))
  apply List.Perm.eq_of_pairwise _ holds.sorted sorted
  · exact holds.perm.trans (List.perm_insertionSort _ _).symm
  · exact fun _ _ _ _ => Nat.le_antisymm

/-! ## Looking up -/

/-- The running count reaches a rank in the cell that has it in the sorted list. -/
theorem exists_scan
    (cells : List (Nat × Nat))
    (begun : passed < rank)
    (within : rank ≤ passed + size ⟨cells⟩) :
    ∃ value, (values ⟨cells⟩)[rank - passed - 1]? = some value ∧
      scan rank passed cells = cellCeiling value := by
  induction cells generalizing passed with
  | nil => exact absurd within (Nat.not_le_of_lt begun)
  | cons entry cells hypothesis =>
      obtain ⟨cell, count⟩ := entry
      have parts : values ⟨(cell, count) :: cells⟩ =
          List.replicate count cell ++ values ⟨cells⟩ := rfl
      have whole : size ⟨(cell, count) :: cells⟩ = count + size ⟨cells⟩ := rfl
      rw [parts, scan]
      split_ifs with reached
      · refine ⟨cell, ?_, rfl⟩
        rw [List.getElem?_append_left (by rw [List.length_replicate]; omega),
          List.getElem?_replicate, if_pos (by omega)]
      · rw [whole] at within
        have onward : passed + count < rank := by omega
        obtain ⟨value, found, same⟩ := hypothesis onward (by omega)
        refine ⟨value, ?_, same⟩
        rw [List.getElem?_append_right (by rw [List.length_replicate]; omega),
          List.length_replicate, ← found]
        congr 1
        omega

/-- The lowest value is the first one of the sorted list. -/
theorem lowest_eq
    {histogram : Histogram}
    (filled : histogram.IsFilled) :
    histogram.lowest = histogram.values[0]?.getD 0 := by
  obtain ⟨cells⟩ := histogram
  cases cells with
  | nil => rfl
  | cons entry cells =>
      obtain ⟨cell, count⟩ := entry
      have first := (List.forall_mem_cons.mp filled).1
      obtain ⟨count, rfl⟩ := Nat.exists_eq_succ_of_ne_zero (Nat.pos_iff_ne_zero.mp first)
      rfl

/-- The highest value ends the cell of the last one of the sorted list. -/
theorem highest_eq
    {histogram : Histogram}
    (filled : histogram.IsFilled)
    (nonempty : histogram.values ≠ []) :
    histogram.highest = cellCeiling (histogram.values.getLast?.getD 0) := by
  obtain ⟨cells⟩ := histogram
  obtain rfl | ⟨cells, ⟨cell, count⟩, rfl⟩ := List.eq_nil_or_concat' cells
  · exact absurd rfl nonempty
  · have last := filled (cell, count) (List.mem_append_right _ List.mem_cons_self)
    have found : (List.replicate count cell).getLast? = some cell := by
      rw [List.getLast?_replicate, if_neg (Nat.pos_iff_ne_zero.mp last)]
    have parts : values ⟨cells ++ [(cell, count)]⟩ =
        values ⟨cells⟩ ++ List.replicate count cell := by
      rw [values, List.flatMap_append, List.flatMap_singleton]
      rfl
    rw [parts, List.getLast?_append, found, highest, List.getLast?_concat]
    rfl

end Histogram

end Latency
end TransitLoad
