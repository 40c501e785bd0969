import Mathlib.Algebra.Order.Field.Rat
import Mathlib.Data.Nat.Log
import Mathlib.Tactic.Linarith
import Mathlib.Tactic.Ring
import TransitLoad.Binary64

/-!
# Rounding keeps order

A rational is rounded by rounding a quotient to a whole number of parts, the parts
being as wide as the quotient is long.  Neither a change of the quotient nor the
change of width at a power of two turns the order of two rationals around, so a
bound that is itself a number bounds every rounded value below it.
-/

namespace TransitLoad

/-! ## Quotients -/

theorem roundQuotient_of_below
    (below : 2 * (numerator % denominator) < denominator) :
    roundQuotient numerator denominator = numerator / denominator := by
  simp [roundQuotient, below]

theorem roundQuotient_of_above
    (above : denominator < 2 * (numerator % denominator)) :
    roundQuotient numerator denominator = numerator / denominator + 1 := by
  have notBelow : ¬2 * (numerator % denominator) < denominator := by omega
  simp [roundQuotient, notBelow, above]

theorem roundQuotient_of_tie
    (tie : 2 * (numerator % denominator) = denominator) :
    roundQuotient numerator denominator =
      numerator / denominator + numerator / denominator % 2 := by
  simp [roundQuotient, tie]

theorem div_le_roundQuotient (numerator denominator : Nat) :
    numerator / denominator ≤ roundQuotient numerator denominator := by
  simp only [roundQuotient]
  split_ifs <;> omega

theorem roundQuotient_le_div_add_one (numerator denominator : Nat) :
    roundQuotient numerator denominator ≤ numerator / denominator + 1 := by
  simp only [roundQuotient]
  split_ifs <;> omega

/-- Equal whole parts leave the order to the remainders. -/
theorem mod_mul_le_mod_mul
    {numerator denominator numerator' denominator' : Nat}
    (sameWhole : numerator / denominator = numerator' / denominator')
    (le : numerator * denominator' ≤ numerator' * denominator) :
    numerator % denominator * denominator' ≤ numerator' % denominator' * denominator := by
  have split := Nat.div_add_mod numerator denominator
  have split' := Nat.div_add_mod numerator' denominator'
  rw [← sameWhole] at split'
  rw [← split, ← split', Nat.add_mul, Nat.add_mul] at le
  have wholes : denominator * (numerator / denominator) * denominator' =
      denominator' * (numerator / denominator) * denominator := by ring
  omega

/-- Rounding a quotient keeps order. -/
theorem roundQuotient_mono
    {numerator denominator numerator' denominator' : Nat}
    (positive : 0 < denominator)
    (positive' : 0 < denominator')
    (le : numerator * denominator' ≤ numerator' * denominator) :
    roundQuotient numerator denominator ≤ roundQuotient numerator' denominator' := by
  have wholes : numerator / denominator ≤ numerator' / denominator' := by
    rw [Nat.le_div_iff_mul_le positive']
    by_contra beyond
    have whole := Nat.div_mul_le_self numerator denominator
    nlinarith
  rcases Nat.lt_or_eq_of_le wholes with less | same
  · calc
      roundQuotient numerator denominator ≤ numerator / denominator + 1 :=
        roundQuotient_le_div_add_one numerator denominator
      _ ≤ numerator' / denominator' := less
      _ ≤ roundQuotient numerator' denominator' :=
        div_le_roundQuotient numerator' denominator'
  · have remainders := mod_mul_le_mod_mul same le
    rcases lt_trichotomy (2 * (numerator % denominator)) denominator with
      below | tie | above
    · rw [roundQuotient_of_below below, same]
      exact div_le_roundQuotient numerator' denominator'
    · rw [roundQuotient_of_tie tie, same]
      have notBelow' : denominator' ≤ 2 * (numerator' % denominator') := by
        by_contra below'
        nlinarith
      rcases Nat.lt_or_eq_of_le notBelow' with above' | tie'
      · rw [roundQuotient_of_above above']
        omega
      · rw [roundQuotient_of_tie tie'.symm]
    · have above' : denominator' < 2 * (numerator' % denominator') := by
        by_contra notAbove'
        nlinarith
      rw [roundQuotient_of_above above, roundQuotient_of_above above', same]

theorem roundQuotient_mul (whole : Nat) (positive : 0 < denominator) :
    roundQuotient (whole * denominator) denominator = whole := by
  rw [roundQuotient_of_below (by simpa using positive), Nat.mul_div_cancel _ positive]

namespace Binary64

/-! ## Magnitudes -/

/-- The binary places that a quotient loses when it is rounded. -/
def lostPlaces (numerator denominator : Nat) : Nat :=
  (numerator * unitsPerOne / denominator).log2 - 52

/-- What is left of a quotient when it is rounded. -/
def keptParts (numerator denominator : Nat) : Nat :=
  roundQuotient (numerator * unitsPerOne)
    (denominator * 2 ^ lostPlaces numerator denominator)

theorem nearestMagnitude_eq (numerator denominator : Nat) :
    nearestMagnitude numerator denominator =
      min infiniteMagnitude
        (lostPlaces numerator denominator * fractionCount +
          keptParts numerator denominator) := by
  simp only [nearestMagnitude, lostPlaces, keptParts, Nat.shiftLeft_eq]

theorem lostPlaces_mono
    {numerator denominator numerator' denominator' : Nat}
    (positive : 0 < denominator)
    (positive' : 0 < denominator')
    (le : numerator * denominator' ≤ numerator' * denominator) :
    lostPlaces numerator denominator ≤ lostPlaces numerator' denominator' := by
  have wholes : numerator * unitsPerOne / denominator ≤
      numerator' * unitsPerOne / denominator' := by
    rw [Nat.le_div_iff_mul_le positive']
    by_contra beyond
    have whole := Nat.div_mul_le_self (numerator * unitsPerOne) denominator
    have scaled : numerator * unitsPerOne * denominator' ≤
        numerator' * unitsPerOne * denominator := by
      calc
        numerator * unitsPerOne * denominator' =
            numerator * denominator' * unitsPerOne := by ring
        _ ≤ numerator' * denominator * unitsPerOne := Nat.mul_le_mul_right _ le
        _ = numerator' * unitsPerOne * denominator := by ring
    nlinarith
  unfold lostPlaces
  rw [Nat.log2_eq_log_two, Nat.log2_eq_log_two]
  exact Nat.sub_le_sub_right (Nat.log_mono_right wholes) 52

theorem keptParts_le (numerator denominator : Nat) :
    keptParts numerator denominator ≤ 2 * fractionCount := by
  set whole := numerator * unitsPerOne / denominator with wholeEq
  have short : whole < 2 ^ (whole.log2 + 1) := Nat.lt_log2_self
  have places : whole.log2 + 1 ≤ lostPlaces numerator denominator + 53 := by
    unfold lostPlaces
    rw [← wholeEq]
    omega
  have parts : numerator * unitsPerOne /
      (denominator * 2 ^ lostPlaces numerator denominator) < 2 * fractionCount := by
    rw [← Nat.div_div_eq_div_mul, ← wholeEq,
      Nat.div_lt_iff_lt_mul (Nat.two_pow_pos _)]
    calc
      whole < 2 ^ (whole.log2 + 1) := short
      _ ≤ 2 ^ (lostPlaces numerator denominator + 53) :=
        Nat.pow_le_pow_right (by decide) places
      _ = 2 * fractionCount * 2 ^ lostPlaces numerator denominator := by
        rw [Nat.pow_add, Nat.mul_comm]
        rfl
  unfold keptParts
  have := roundQuotient_le_div_add_one (numerator * unitsPerOne)
    (denominator * 2 ^ lostPlaces numerator denominator)
  omega

theorem le_keptParts
    (lost : 0 < lostPlaces numerator denominator) :
    fractionCount ≤ keptParts numerator denominator := by
  set whole := numerator * unitsPerOne / denominator with wholeEq
  have places : lostPlaces numerator denominator + 52 = whole.log2 := by
    unfold lostPlaces at lost ⊢
    rw [← wholeEq] at lost ⊢
    omega
  have nonzero : whole ≠ 0 := by
    intro zero
    rw [zero] at places
    simp at places
  have long : 2 ^ whole.log2 ≤ whole := Nat.log2_self_le nonzero
  have parts : fractionCount ≤ numerator * unitsPerOne /
      (denominator * 2 ^ lostPlaces numerator denominator) := by
    rw [← Nat.div_div_eq_div_mul, ← wholeEq,
      Nat.le_div_iff_mul_le (Nat.two_pow_pos _)]
    calc
      fractionCount * 2 ^ lostPlaces numerator denominator =
          2 ^ (lostPlaces numerator denominator + 52) := by
        rw [Nat.pow_add, Nat.mul_comm]
        rfl
      _ = 2 ^ whole.log2 := by rw [places]
      _ ≤ whole := long
  exact parts.trans (div_le_roundQuotient _ _)

/-- Rounding a quotient to the bits of a magnitude keeps order. -/
theorem nearestMagnitude_mono
    {numerator denominator numerator' denominator' : Nat}
    (positive : 0 < denominator)
    (positive' : 0 < denominator')
    (le : numerator * denominator' ≤ numerator' * denominator) :
    nearestMagnitude numerator denominator ≤ nearestMagnitude numerator' denominator' := by
  rw [nearestMagnitude_eq, nearestMagnitude_eq]
  apply min_le_min_left
  rcases Nat.lt_or_eq_of_le (lostPlaces_mono positive positive' le) with fewer | same
  · have few := keptParts_le numerator denominator
    have many := le_keptParts (Nat.lt_of_le_of_lt (Nat.zero_le _) fewer)
    have places := Nat.mul_le_mul_right fractionCount fewer
    rw [Nat.succ_mul] at places
    omega
  · rw [← same]
    apply Nat.add_le_add_left
    unfold keptParts
    rw [← same]
    apply roundQuotient_mono (Nat.mul_pos positive (Nat.two_pow_pos _))
      (Nat.mul_pos positive' (Nat.two_pow_pos _))
    calc
      numerator * unitsPerOne *
          (denominator' * 2 ^ lostPlaces numerator denominator) =
          numerator * denominator' *
            (unitsPerOne * 2 ^ lostPlaces numerator denominator) := by ring
      _ ≤ numerator' * denominator *
            (unitsPerOne * 2 ^ lostPlaces numerator denominator) :=
        Nat.mul_le_mul_right _ le
      _ = numerator' * unitsPerOne *
          (denominator * 2 ^ lostPlaces numerator denominator) := by ring

theorem nearestMagnitude_le (numerator denominator : Nat) :
    nearestMagnitude numerator denominator ≤ infiniteMagnitude :=
  min_le_left _ _

/-- More bits below the sign stand for a larger size. -/
theorem unitsOfMagnitude_mono
    {smaller larger : Nat}
    (le : smaller ≤ larger) :
    unitsOfMagnitude smaller ≤ unitsOfMagnitude larger := by
  have positive : 0 < fractionCount := by decide
  simp only [unitsOfMagnitude, Nat.shiftLeft_eq]
  split_ifs with small large
  · exact le
  · have shown := Nat.le_mul_of_pos_right
      (fractionCount + larger % fractionCount)
      (Nat.two_pow_pos (larger / fractionCount - 1))
    omega
  · omega
  · have exponents : smaller / fractionCount ≤ larger / fractionCount :=
      Nat.div_le_div_right le
    have least : 0 < smaller / fractionCount := Nat.div_pos (by omega) positive
    rcases Nat.lt_or_eq_of_le exponents with less | same
    · calc
        (fractionCount + smaller % fractionCount) * 2 ^ (smaller / fractionCount - 1) ≤
            fractionCount * 2 * 2 ^ (smaller / fractionCount - 1) := by
          apply Nat.mul_le_mul_right
          have := Nat.mod_lt smaller positive
          omega
        _ = fractionCount * 2 ^ (smaller / fractionCount) := by
          rw [Nat.mul_assoc, ← Nat.pow_succ', Nat.succ_eq_add_one,
            Nat.sub_add_cancel least]
        _ ≤ fractionCount * 2 ^ (larger / fractionCount - 1) :=
          Nat.mul_le_mul_left _ (Nat.pow_le_pow_right (by decide) (by omega))
        _ ≤ (fractionCount + larger % fractionCount) *
            2 ^ (larger / fractionCount - 1) :=
          Nat.mul_le_mul_right _ (Nat.le_add_right _ _)
    · have wholes := Nat.div_add_mod smaller fractionCount
      have wholes' := Nat.div_add_mod larger fractionCount
      rw [← same] at wholes' ⊢
      apply Nat.mul_le_mul_right
      omega

/-! ## Rounded rationals -/

theorem ofRat_bits (nonneg : 0 ≤ value) :
    (ofRat value).bits.toNat = nearestMagnitude value.num.natAbs value.den := by
  have bounded := nearestMagnitude_le value.num.natAbs value.den
  simp only [infiniteMagnitude, fractionCount] at bounded
  simp only [ofRat, not_lt.mpr nonneg, if_false, UInt64.toNat_ofNat']
  apply Nat.mod_eq_of_lt
  omega

theorem magnitude_ofRat (nonneg : 0 ≤ value) :
    (ofRat value).magnitude = nearestMagnitude value.num.natAbs value.den := by
  have bounded := nearestMagnitude_le value.num.natAbs value.den
  simp only [infiniteMagnitude, fractionCount] at bounded
  rw [magnitude, ofRat_bits nonneg]
  apply Nat.mod_eq_of_lt
  unfold signBit
  omega

theorem isNegative_ofRat (nonneg : 0 ≤ value) : (ofRat value).isNegative = false := by
  have bounded := nearestMagnitude_le value.num.natAbs value.den
  simp only [infiniteMagnitude, fractionCount] at bounded
  rw [isNegative, ofRat_bits nonneg, decide_eq_false_iff_not]
  unfold signBit
  omega

/-- Rounding keeps the order of two rationals from zero on. -/
theorem magnitude_ofRat_mono
    {smaller larger : Rat}
    (nonneg : 0 ≤ smaller)
    (le : smaller ≤ larger) :
    (ofRat smaller).magnitude ≤ (ofRat larger).magnitude := by
  rw [magnitude_ofRat nonneg, magnitude_ofRat (nonneg.trans le)]
  apply nearestMagnitude_mono smaller.den_pos larger.den_pos
  have crossed := Rat.le_iff smaller larger |>.mp le
  have numerator := Rat.num_nonneg.mpr nonneg
  have numerator' := Rat.num_nonneg.mpr (nonneg.trans le)
  zify
  rwa [abs_of_nonneg numerator, abs_of_nonneg numerator']

theorem toRat_ofRat (nonneg : 0 ≤ value) :
    (ofRat value).toRat = ((ofRat value).units : Rat) / (unitsPerOne : Rat) := by
  simp [toRat, isNegative_ofRat nonneg]

theorem toRat_ofRat_nonneg (nonneg : 0 ≤ value) : 0 ≤ (ofRat value).toRat := by
  rw [toRat_ofRat nonneg]
  exact div_nonneg (Nat.cast_nonneg _) (Nat.cast_nonneg _)

theorem units_ofRat_mono
    {smaller larger : Rat}
    (nonneg : 0 ≤ smaller)
    (le : smaller ≤ larger) :
    (ofRat smaller).units ≤ (ofRat larger).units :=
  unitsOfMagnitude_mono (magnitude_ofRat_mono nonneg le)

/-- A rational stays below a bound when it is rounded, if the bound is a number. -/
theorem toRat_ofRat_le
    {value bound : Rat}
    (nonneg : 0 ≤ value)
    (le : value ≤ bound)
    (exact_bound : (ofRat bound).toRat = bound) :
    (ofRat value).toRat ≤ bound := by
  rw [← exact_bound, toRat_ofRat nonneg, toRat_ofRat (nonneg.trans le)]
  apply div_le_div_of_nonneg_right _ (Nat.cast_nonneg _)
  exact_mod_cast units_ofRat_mono nonneg le

/-- A rational stays above a bound when it is rounded, if the bound is a number. -/
theorem le_toRat_ofRat
    {value bound : Rat}
    (nonneg : 0 ≤ bound)
    (le : bound ≤ value)
    (exact_bound : (ofRat bound).toRat = bound) :
    bound ≤ (ofRat value).toRat := by
  rw [← exact_bound, toRat_ofRat nonneg, toRat_ofRat (nonneg.trans le)]
  apply div_le_div_of_nonneg_right _ (Nat.cast_nonneg _)
  exact_mod_cast units_ofRat_mono nonneg le

end Binary64
end TransitLoad
