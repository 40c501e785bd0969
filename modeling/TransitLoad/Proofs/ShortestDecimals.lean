import TransitLoad.Decimal.Shortest
import TransitLoad.Proofs.RoundingTies

/-!
# Shortest decimals round back

Exactly the quotients of the rounding interval of a number are rounded to it.  The search for
the shortest decimal ends in that interval: as soon as the grid has seventeen digits, its
spacing is less than the width of the interval, and then one of the two points next to the
number lies inside.
-/

namespace TransitLoad
namespace Decimal

open Binary64

/-! ## Rounding intervals -/

theorem finestScale_pos : 0 < 10 ^ finestPlace := Nat.pow_pos (by decide)

theorem intervalDenominator_pos : 0 < intervalDenominator :=
  Nat.mul_pos two_pos unitsPerOne_pos

/-- The interval of a number reaches down to half of the gap below it. -/
theorem lowest_roundingInterval (magnitude : Nat) :
    (roundingInterval (magnitude + 1)).lowest =
      (2 * unitsOfMagnitude magnitude + gap magnitude) * 10 ^ finestPlace := by
  simp only [roundingInterval, Nat.add_sub_cancel, unitsOfMagnitude_succ, Nat.pow_eq]
  ring

theorem value_roundingInterval (magnitude : Nat) :
    (roundingInterval magnitude).value =
      2 * unitsOfMagnitude magnitude * 10 ^ finestPlace := by
  simp only [roundingInterval, Nat.pow_eq]

/-- The interval of a number reaches up to half of the gap above it. -/
theorem highest_roundingInterval (magnitude : Nat) :
    (roundingInterval magnitude).highest =
      (2 * unitsOfMagnitude magnitude + gap magnitude) * 10 ^ finestPlace := by
  simp only [roundingInterval, unitsOfMagnitude_succ, Nat.pow_eq]
  ring

namespace RoundingInterval

variable {interval : RoundingInterval}

theorem contains_of_between
    (above : interval.lowest < parts * intervalDenominator)
    (below : parts * intervalDenominator < interval.highest) :
    interval.contains parts = true := by
  simp [contains, above, above.le, below, below.le]

/-- What lies in an interval lies between its ends, and on an end only if it is closed. -/
theorem bounds_of_contains
    (contained : interval.contains parts = true) :
    interval.lowest ≤ parts * intervalDenominator ∧
      parts * intervalDenominator ≤ interval.highest ∧
      (interval.isClosed = true ∨ interval.lowest < parts * intervalDenominator ∧
        parts * intervalDenominator < interval.highest) := by
  rw [contains] at contained
  split_ifs at contained with closed
  · simp only [Bool.and_eq_true, decide_eq_true_eq] at contained
    exact ⟨contained.1, contained.2, .inl closed⟩
  · simp only [Bool.and_eq_true, decide_eq_true_eq] at contained
    exact ⟨contained.1.le, contained.2.le, .inr contained⟩

end RoundingInterval

/-- What lies in the interval of a number is rounded to it. -/
theorem nearestMagnitude_of_contains
    {magnitude : Nat}
    (positive : 0 < magnitude)
    (finite : magnitude < infiniteMagnitude)
    (contained : (roundingInterval magnitude).contains parts = true) :
    nearestMagnitude parts (10 ^ finestPlace) = magnitude := by
  obtain ⟨lowest, highest, ends⟩ := RoundingInterval.bounds_of_contains contained
  obtain ⟨magnitude, rfl⟩ := Nat.exists_eq_add_one.mpr positive
  have position : parts * intervalDenominator = 2 * (parts * unitsPerOne) := by
    rw [intervalDenominator]
    ring
  rw [lowest_roundingInterval, highest_roundingInterval, position] at ends
  rw [lowest_roundingInterval, position] at lowest
  rw [highest_roundingInterval, position] at highest
  have scale := finestScale_pos
  have finite' : magnitude < infiniteMagnitude := Nat.lt_of_succ_lt finite
  have closed (isClosed : (roundingInterval (magnitude + 1)).isClosed = true) :
      (magnitude + 1) % 2 = 0 := of_decide_eq_true isClosed
  rcases Nat.lt_or_eq_of_le lowest with above | half
  · rcases Nat.lt_or_eq_of_le highest with below | half
    · exact Nat.le_antisymm (nearestMagnitude_le_of_lt below)
        (lt_nearestMagnitude_of_lt scale finite' above)
    · have even := closed (ends.resolve_right fun inside => inside.2.ne half)
      rw [nearestMagnitude_of_half scale finite half, even]
  · have even := closed (ends.resolve_right fun inside => inside.1.ne half)
    rw [nearestMagnitude_of_half scale finite' half.symm]
    omega

/-- What lies in the interval of a number is positive. -/
theorem pos_of_contains
    {magnitude : Nat}
    (positive : 0 < magnitude)
    (contained : (roundingInterval magnitude).contains parts = true) :
    0 < parts := by
  obtain ⟨lowest, _⟩ := RoundingInterval.bounds_of_contains contained
  obtain ⟨magnitude, rfl⟩ := Nat.exists_eq_add_one.mpr positive
  rw [lowest_roundingInterval] at lowest
  have some : 0 < (2 * unitsOfMagnitude magnitude + gap magnitude) * 10 ^ finestPlace :=
    Nat.mul_pos (Nat.add_pos_right _ (gap_pos magnitude)) finestScale_pos
  exact Nat.pos_of_mul_pos_right (some.trans_le lowest)

/-- What lies in the interval of a finite number is less than `10 ^ 400`. -/
theorem lt_of_contains
    {magnitude : Nat}
    (finite : magnitude < infiniteMagnitude)
    (contained : (roundingInterval magnitude).contains parts = true) :
    parts < 10 ^ (finestPlace + 400) := by
  obtain ⟨_, highest, _⟩ := RoundingInterval.bounds_of_contains contained
  have greatest : 2 * unitsOfMagnitude infiniteMagnitude * 10 ^ finestPlace <
      10 ^ (finestPlace + 400) * intervalDenominator := by
    decide +kernel
  have here := unitsOfMagnitude_mono finite.le
  have next := unitsOfMagnitude_mono (Nat.succ_le_of_lt finite)
  rw [Nat.succ_eq_add_one, unitsOfMagnitude_succ] at next
  have sizes : (2 * unitsOfMagnitude magnitude + gap magnitude) * 10 ^ finestPlace ≤
      2 * unitsOfMagnitude infiniteMagnitude * 10 ^ finestPlace :=
    Nat.mul_le_mul_right _ (by omega)
  rw [highest_roundingInterval] at highest
  exact Nat.lt_of_mul_lt_mul_right (highest.trans_lt (sizes.trans_lt greatest))

/-! ## The search -/

namespace RoundingInterval

variable {interval : RoundingInterval}

/-- What is found on a grid lies in the interval. -/
theorem contains_of_nearestOnGrid?
    (found : interval.nearestOnGrid? tieRule step = some parts) :
    interval.contains parts = true := by
  simp only [nearestOnGrid?] at found
  split at found
  case h_1 below above =>
    split at found
    · obtain rfl := Option.some.inj found
      exact below
    split at found
    · obtain rfl := Option.some.inj found
      exact above
    split at found
    · obtain rfl := Option.some.inj found
      exact below
    · obtain rfl := Option.some.inj found
      exact above
  case h_2 below above =>
    obtain rfl := Option.some.inj found
    exact below
  case h_3 below above =>
    obtain rfl := Option.some.inj found
    exact above
  case h_4 => nomatch found

/-- A grid is searched in vain only if neither neighbour lies in the interval. -/
theorem not_contains_of_nearestOnGrid?
    (missed : interval.nearestOnGrid? tieRule step = none) :
    let below := interval.value / (intervalDenominator * step) * step
    interval.contains below = false ∧ interval.contains (below + step) = false := by
  simp only [nearestOnGrid?] at missed
  split at missed
  case h_1 => split_ifs at missed
  case h_2 => nomatch missed
  case h_3 => nomatch missed
  case h_4 below above => exact ⟨below, above⟩

/-- The search ends in the interval if it comes to a grid that is not searched in vain. -/
theorem contains_firstOnGrids
    (reached : skipped < grids)
    (found : interval.nearestOnGrid? tieRule (step / 10 ^ skipped) ≠ none) :
    interval.contains (interval.firstOnGrids tieRule step grids) = true := by
  induction grids generalizing step skipped with
  | zero => exact absurd reached (Nat.not_lt_zero _)
  | succ grids hypothesis =>
      rw [firstOnGrids]
      split
      next parts here => exact contains_of_nearestOnGrid? here
      next missed =>
        cases skipped with
        | zero =>
            rw [Nat.pow_zero, Nat.div_one] at found
            exact absurd missed found
        | succ skipped =>
            apply hypothesis (Nat.lt_of_succ_lt_succ reached)
            rwa [Nat.div_div_eq_div_mul, ← Nat.pow_succ']

/-- A grid whose spacing is less than the width of the interval is not searched in vain. -/
theorem nearestOnGrid?_ne_none
    (above : interval.lowest < interval.value)
    (below : interval.value < interval.highest)
    (positive : 0 < step)
    (fine : interval.lowest + intervalDenominator * step < interval.highest) :
    interval.nearestOnGrid? tieRule step ≠ none := by
  intro missed
  obtain ⟨missedBelow, missedAbove⟩ := not_contains_of_nearestOnGrid? missed
  have spacing := Nat.mul_pos intervalDenominator_pos positive
  have parts := Nat.div_add_mod interval.value (intervalDenominator * step)
  have rest := Nat.mod_lt interval.value spacing
  set quotient := interval.value / (intervalDenominator * step)
  have position : quotient * step * intervalDenominator =
      intervalDenominator * step * quotient := by ring
  have position' : (quotient * step + step) * intervalDenominator =
      intervalDenominator * step * quotient + intervalDenominator * step := by ring
  -- if neither neighbour lies inside, the interval lies between them
  have low : ¬ interval.lowest < quotient * step * intervalDenominator := fun inside =>
    Bool.false_ne_true (missedBelow.symm.trans (contains_of_between inside (by omega)))
  have high : ¬ (quotient * step + step) * intervalDenominator < interval.highest := fun inside =>
    Bool.false_ne_true (missedAbove.symm.trans (contains_of_between (by omega) inside))
  omega

end RoundingInterval

/-! ## Seventeen digits -/

/-- A number is less than so many times the gaps on both of its sides as seventeen digits
tell apart. -/
theorem two_mul_units_lt (magnitude : Nat) :
    2 * unitsOfMagnitude (magnitude + 1) < (gap magnitude + gap (magnitude + 1)) * 10 ^ 16 := by
  obtain ⟨count, _, units, few, _⟩ := exists_gaps magnitude
  have positive := gap_pos magnitude
  have wider := gap_mono (Nat.le_add_right magnitude 1)
  have narrow := Nat.mul_le_mul_right (gap magnitude) (Nat.succ_le_of_lt few)
  rw [units]
  rw [Nat.succ_eq_add_one, fractionCount] at narrow
  omega

/-- A grid of seventeen digits is not searched in vain. -/
theorem nearestOnGrid?_roundingInterval_ne_none
    {magnitude : Nat}
    (positive : 0 < magnitude)
    (spaced : 0 < step)
    (fine : intervalDenominator * step * 10 ^ 16 ≤ (roundingInterval magnitude).value) :
    (roundingInterval magnitude).nearestOnGrid? tieRule step ≠ none := by
  obtain ⟨magnitude, rfl⟩ := Nat.exists_eq_add_one.mpr positive
  have lowest : (roundingInterval (magnitude + 1)).lowest + gap magnitude * 10 ^ finestPlace =
      (roundingInterval (magnitude + 1)).value := by
    rw [lowest_roundingInterval, value_roundingInterval, unitsOfMagnitude_succ]
    ring
  have highest : (roundingInterval (magnitude + 1)).value +
      gap (magnitude + 1) * 10 ^ finestPlace = (roundingInterval (magnitude + 1)).highest := by
    rw [value_roundingInterval, highest_roundingInterval]
    ring
  have width : 0 < gap magnitude * 10 ^ finestPlace :=
    Nat.mul_pos (gap_pos _) finestScale_pos
  have width' : 0 < gap (magnitude + 1) * 10 ^ finestPlace :=
    Nat.mul_pos (gap_pos _) finestScale_pos
  have narrow : intervalDenominator * step <
      (gap magnitude + gap (magnitude + 1)) * 10 ^ finestPlace := by
    have scaled : intervalDenominator * step * 10 ^ 16 <
        (gap magnitude + gap (magnitude + 1)) * 10 ^ finestPlace * 10 ^ 16 := by
      calc
        intervalDenominator * step * 10 ^ 16 ≤
            2 * unitsOfMagnitude (magnitude + 1) * 10 ^ finestPlace := by
          rw [← value_roundingInterval]
          exact fine
        _ < (gap magnitude + gap (magnitude + 1)) * 10 ^ 16 * 10 ^ finestPlace :=
          Nat.mul_lt_mul_of_pos_right (two_mul_units_lt magnitude) finestScale_pos
        _ = (gap magnitude + gap (magnitude + 1)) * 10 ^ finestPlace * 10 ^ 16 := by ring
    exact Nat.lt_of_mul_lt_mul_right scaled
  rw [Nat.add_mul] at narrow
  exact RoundingInterval.nearestOnGrid?_ne_none (by omega) (by omega) spaced (by omega)

/-- Every positive number has seventeen digits before the end of the finest place. -/
theorem le_value_roundingInterval
    {magnitude : Nat}
    (positive : 0 < magnitude) :
    10 ^ 16 ≤ (roundingInterval magnitude).value / intervalDenominator := by
  have least : 10 ^ 16 * unitsPerOne ≤ 10 ^ finestPlace := by decide +kernel
  have size : 1 ≤ unitsOfMagnitude magnitude := unitsOfMagnitude_mono positive
  rw [Nat.le_div_iff_mul_le intervalDenominator_pos, value_roundingInterval]
  calc
    10 ^ 16 * intervalDenominator = 2 * 1 * (10 ^ 16 * unitsPerOne) := by
      rw [intervalDenominator]
      ring
    _ ≤ 2 * unitsOfMagnitude magnitude * 10 ^ finestPlace :=
      Nat.mul_le_mul (Nat.mul_le_mul_left 2 size) least

/-- What the search for the shortest decimal ends with lies in the interval. -/
theorem exists_ofMagnitude_eq
    {magnitude : Nat}
    (tieRule : TieRule)
    (positive : 0 < magnitude) :
    ∃ parts, ofMagnitude tieRule magnitude = ofParts parts ∧
      (roundingInterval magnitude).contains parts = true := by
  refine ⟨_, rfl, ?_⟩
  set whole := (roundingInterval magnitude).value / intervalDenominator with wholeEq
  have large : 10 ^ 16 ≤ whole := le_value_roundingInterval positive
  obtain ⟨length, digits⟩ : ∃ length, (Nat.toDigits 10 whole).length = length + 17 := by
    apply Nat.exists_eq_add_of_le'
    by_contra short
    exact absurd ((Nat.length_toDigits_le_iff (by decide) (by decide)).mp
      (Nat.le_of_lt_succ (Nat.not_le.mp short))) (Nat.not_lt.mpr large)
  have leading : 10 ^ (length + 16) ≤ whole := by
    by_contra small
    have := (Nat.length_toDigits_le_iff (by decide) (by omega)).mpr (Nat.not_le.mp small)
    omega
  have step : Nat.pow 10 (length + 17 - 1) / 10 ^ 16 = 10 ^ length := by
    rw [Nat.add_sub_assoc (by decide), Nat.pow_eq, Nat.pow_add,
      Nat.mul_div_cancel _ (by decide)]
  rw [digits]
  -- the seventeenth grid is reached after sixteen coarser ones
  refine RoundingInterval.contains_firstOnGrids (by decide : 16 < 17) ?_
  rw [step]
  apply nearestOnGrid?_roundingInterval_ne_none positive (Nat.pow_pos (by decide))
  calc
    intervalDenominator * 10 ^ length * 10 ^ 16 =
        10 ^ (length + 16) * intervalDenominator := by
      rw [Nat.pow_add]
      ring
    _ ≤ whole * intervalDenominator := Nat.mul_le_mul_right _ leading
    _ ≤ (roundingInterval magnitude).value := Nat.div_mul_le_self _ _

end Decimal
end TransitLoad
