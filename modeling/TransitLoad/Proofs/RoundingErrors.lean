import TransitLoad.Proofs.Rounding

/-!
# Rounding errors

Between a number and the next larger one lies a gap, and the gaps do not shrink as the
numbers grow.  A rounded quotient is off by half of a gap at most, so a rational that
exceeds a number by less than half of the gap above it is not rounded beyond that number.
-/

namespace TransitLoad

/-- A rounded quotient exceeds the quotient by a half at most. -/
theorem two_mul_roundQuotient_le (numerator denominator : Nat) :
    2 * (denominator * roundQuotient numerator denominator) ≤ 2 * numerator + denominator := by
  have parts := Nat.div_add_mod numerator denominator
  rcases lt_trichotomy (2 * (numerator % denominator)) denominator with below | tie | above
  · rw [roundQuotient_of_below below]
    omega
  · rw [roundQuotient_of_tie tie, Nat.mul_add]
    have even : denominator * (numerator / denominator % 2) ≤ denominator * 1 :=
      Nat.mul_le_mul_left _ (by omega)
    omega
  · rw [roundQuotient_of_above above, Nat.mul_add]
    rcases Nat.eq_zero_or_pos denominator with rfl | positive
    · simp
    · have small := Nat.mod_lt numerator positive
      omega

namespace Binary64

/-- One is a power of two; that it is the 1074th need not be evaluated. -/
theorem exists_unitsPerOne_eq : ∃ places, places = 1074 ∧ unitsPerOne = 2 ^ places := by
  obtain ⟨places, same⟩ : ∃ places, places = 1074 := ⟨_, rfl⟩
  exact ⟨places, same, by rw [unitsPerOne, ← same, Nat.one_shiftLeft]⟩

theorem unitsPerOne_pos : 0 < unitsPerOne := by
  obtain ⟨places, _, unit⟩ := exists_unitsPerOne_eq
  rw [unit]
  exact Nat.two_pow_pos places

theorem two_mul_fractionCount_mul (places : Nat) :
    2 * fractionCount * 2 ^ places = 2 ^ (53 + places) := by
  rw [Nat.pow_add]
  rfl

/-! ## Gaps -/

/-- How many units lie between a magnitude and the next one. -/
def gap (magnitude : Nat) : Nat := 2 ^ (magnitude / fractionCount - 1)

theorem gap_pos (magnitude : Nat) : 0 < gap magnitude := Nat.two_pow_pos _

theorem gap_mono
    {smaller larger : Nat}
    (le : smaller ≤ larger) :
    gap smaller ≤ gap larger :=
  Nat.pow_le_pow_right (by decide) (Nat.sub_le_sub_right (Nat.div_le_div_right le) 1)

/-- A magnitude that is put together from parts stands for the parts, each as wide as
the lost places say. -/
theorem unitsOfMagnitude_parts
    (few : kept ≤ 2 * fractionCount)
    (full : places = 0 ∨ fractionCount ≤ kept) :
    unitsOfMagnitude (places * fractionCount + kept) = kept * 2 ^ places := by
  have positive : 0 < fractionCount := by decide
  have split (carry : Nat) (lt : carry < fractionCount) (whole : Nat) :
      unitsOfMagnitude ((whole + 1) * fractionCount + carry) =
        (fractionCount + carry) * 2 ^ whole := by
    have exponent : ((whole + 1) * fractionCount + carry) / fractionCount = whole + 1 := by
      rw [Nat.mul_comm, Nat.mul_add_div positive, Nat.div_eq_of_lt lt, Nat.add_zero]
    have fraction : ((whole + 1) * fractionCount + carry) % fractionCount = carry := by
      rw [Nat.mul_comm, Nat.mul_add_mod, Nat.mod_eq_of_lt lt]
    have large : ¬(whole + 1) * fractionCount + carry < fractionCount := by
      rw [Nat.succ_mul]
      omega
    rw [unitsOfMagnitude, if_neg large, exponent, fraction, Nat.shiftLeft_eq,
      Nat.add_sub_cancel]
  rcases Nat.lt_or_ge kept fractionCount with small | large
  · obtain rfl : places = 0 := full.resolve_right (Nat.not_le.mpr small)
    rw [Nat.zero_mul, Nat.zero_add, Nat.pow_zero, Nat.mul_one, unitsOfMagnitude, if_pos small]
  · obtain ⟨carry, rfl⟩ := Nat.exists_eq_add_of_le large
    rcases Nat.lt_or_ge carry fractionCount with inside | carried
    · rw [← split carry inside places, Nat.succ_mul, Nat.add_assoc]
    · obtain rfl : carry = fractionCount := by omega
      have twice := split 0 positive (places + 1)
      rw [Nat.add_zero, Nat.add_zero, Nat.pow_succ] at twice
      rw [show places * fractionCount + (fractionCount + fractionCount) =
          (places + 1 + 1) * fractionCount by ring, twice]
      ring

/-- A magnitude in the parts that rounding puts it together from. -/
theorem exists_parts (magnitude : Nat) :
    ∃ places kept, magnitude = places * fractionCount + kept ∧ kept < 2 * fractionCount ∧
      (places = 0 ∨ fractionCount ≤ kept) ∧ gap magnitude = 2 ^ places := by
  have positive : 0 < fractionCount := by decide
  rcases Nat.lt_or_ge magnitude fractionCount with small | large
  · refine ⟨0, magnitude, by omega, by omega, .inl rfl, ?_⟩
    rw [gap, Nat.div_eq_of_lt small]
  · obtain ⟨places, exponent⟩ := Nat.exists_eq_add_of_le'
      (Nat.div_pos large positive : 1 ≤ magnitude / fractionCount)
    have split := Nat.div_add_mod magnitude fractionCount
    have fraction := Nat.mod_lt magnitude positive
    rw [exponent, Nat.mul_comm, Nat.succ_mul] at split
    refine ⟨places, fractionCount + magnitude % fractionCount, by omega, by omega,
      .inr (Nat.le_add_right _ _), ?_⟩
    rw [gap, exponent, Nat.add_sub_cancel]

/-- A magnitude and the next one, counted in gaps. -/
theorem exists_gaps (magnitude : Nat) :
    ∃ count, unitsOfMagnitude magnitude = count * gap magnitude ∧
      unitsOfMagnitude (magnitude + 1) = (count + 1) * gap magnitude ∧
      count < 2 * fractionCount ∧ (fractionCount ≤ magnitude → fractionCount ≤ count) := by
  obtain ⟨places, kept, parts, few, full, width⟩ := exists_parts magnitude
  have here := unitsOfMagnitude_parts few.le full
  have next : unitsOfMagnitude (places * fractionCount + (kept + 1)) = (kept + 1) * 2 ^ places :=
    unitsOfMagnitude_parts few (full.imp_right Nat.le_succ_of_le)
  rw [← Nat.add_assoc, ← parts] at next
  rw [← parts] at here
  refine ⟨kept, width ▸ here, width ▸ next, few, fun normal => ?_⟩
  rcases full with rfl | many
  · omega
  · exact many

theorem unitsOfMagnitude_succ (magnitude : Nat) :
    unitsOfMagnitude (magnitude + 1) = unitsOfMagnitude magnitude + gap magnitude := by
  obtain ⟨count, here, next, _⟩ := exists_gaps magnitude
  rw [here, next, Nat.succ_mul]

/-! ## Rounded quotients -/

/-- A rounded quotient is off by half of the places that it lost at most. -/
theorem units_nearestMagnitude_le (numerator denominator : Nat) :
    2 * (denominator * unitsOfMagnitude (nearestMagnitude numerator denominator)) ≤
      2 * (numerator * unitsPerOne) + denominator * 2 ^ lostPlaces numerator denominator := by
  have full : lostPlaces numerator denominator = 0 ∨
      fractionCount ≤ keptParts numerator denominator :=
    (Nat.eq_zero_or_pos _).imp_right le_keptParts
  calc
    2 * (denominator * unitsOfMagnitude (nearestMagnitude numerator denominator)) ≤
        2 * (denominator * (keptParts numerator denominator *
          2 ^ lostPlaces numerator denominator)) := by
      rw [← unitsOfMagnitude_parts (keptParts_le numerator denominator) full,
        nearestMagnitude_eq]
      exact Nat.mul_le_mul_left _ (Nat.mul_le_mul_left _
        (unitsOfMagnitude_mono (Nat.min_le_right _ _)))
    _ = 2 * (denominator * 2 ^ lostPlaces numerator denominator *
          keptParts numerator denominator) := by ring
    _ ≤ 2 * (numerator * unitsPerOne) +
          denominator * 2 ^ lostPlaces numerator denominator :=
      two_mul_roundQuotient_le _ _

/-- A quotient loses no more places than it is long. -/
theorem lostPlaces_le
    (short : numerator * unitsPerOne < 2 * fractionCount * 2 ^ places * denominator) :
    lostPlaces numerator denominator ≤ places := by
  have positive : 0 < denominator := by
    rcases Nat.eq_zero_or_pos denominator with rfl | positive
    · omega
    · exact positive
  have whole : numerator * unitsPerOne / denominator < 2 ^ (53 + places) := by
    rwa [Nat.div_lt_iff_lt_mul positive, ← two_mul_fractionCount_mul]
  unfold lostPlaces
  rcases Nat.eq_zero_or_pos (numerator * unitsPerOne / denominator) with none | some
  · rw [none]
    simp
  · have := (Nat.log2_lt some.ne').mpr whole
    omega

/-- A quotient that exceeds a magnitude by less than half of the gap above it is not
rounded beyond that magnitude. -/
theorem nearestMagnitude_le_of_lt
    {magnitude : Nat}
    (below : 2 * (numerator * unitsPerOne) <
      (2 * unitsOfMagnitude magnitude + gap magnitude) * denominator) :
    nearestMagnitude numerator denominator ≤ magnitude := by
  by_contra beyond
  have reached := unitsOfMagnitude_mono (Nat.not_le.mp beyond)
  rw [Nat.succ_eq_add_one, unitsOfMagnitude_succ] at reached
  have places : lostPlaces numerator denominator ≤ magnitude / fractionCount - 1 := by
    apply lostPlaces_le
    obtain ⟨count, here, _, few, _⟩ := exists_gaps magnitude
    have long : 2 * unitsOfMagnitude magnitude + gap magnitude ≤
        2 * (2 * fractionCount * gap magnitude) := by
      have := Nat.mul_le_mul_right (gap magnitude) few
      rw [Nat.succ_mul] at this
      omega
    have := below.trans_le (Nat.mul_le_mul_right denominator long)
    rw [Nat.mul_assoc 2] at this
    exact Nat.lt_of_mul_lt_mul_left this
  have width : 2 ^ lostPlaces numerator denominator ≤ gap magnitude :=
    Nat.pow_le_pow_right (by decide) places
  have error := units_nearestMagnitude_le numerator denominator
  have moved := Nat.mul_le_mul_left denominator reached
  have wide := Nat.mul_le_mul_left denominator width
  nlinarith

/-! ## Rounded rationals -/

theorem mul_den_eq_natAbs
    {value : Rat}
    (nonneg : 0 ≤ value) :
    value * value.den = value.num.natAbs := by
  rw [Rat.mul_den_eq_num, Nat.cast_natAbs, abs_of_nonneg (Rat.num_nonneg.mpr nonneg)]

/-- A rational is rounded to no larger magnitude than one that it exceeds by less than
half of the gap. -/
theorem magnitude_ofRat_le_of_lt
    {value : Rat}
    {magnitude : Nat}
    (nonneg : 0 ≤ value)
    (below : 2 * (value * unitsPerOne) <
      2 * (unitsOfMagnitude magnitude : Rat) + (gap magnitude : Rat)) :
    (ofRat value).magnitude ≤ magnitude := by
  rw [magnitude_ofRat nonneg]
  apply nearestMagnitude_le_of_lt
  have denominator : (0 : Rat) < value.den := by exact_mod_cast value.den_pos
  have numerator := mul_den_eq_natAbs nonneg
  have scaled := mul_lt_mul_of_pos_right below denominator
  have exchange : 2 * (value * (unitsPerOne : Rat)) * value.den =
      2 * ((value.num.natAbs : Rat) * unitsPerOne) := by
    rw [← numerator]
    ring
  rw [exchange] at scaled
  exact_mod_cast scaled

/-- A rational is rounded to no larger magnitude than one that it does not exceed. -/
theorem magnitude_ofRat_le
    {value : Rat}
    {magnitude : Nat}
    (nonneg : 0 ≤ value)
    (le : value * unitsPerOne ≤ unitsOfMagnitude magnitude) :
    (ofRat value).magnitude ≤ magnitude := by
  apply magnitude_ofRat_le_of_lt nonneg
  have positive : (0 : Rat) < gap magnitude := by exact_mod_cast gap_pos magnitude
  linarith

theorem toRat_ofRat_mul_unitsPerOne (nonneg : 0 ≤ value) :
    (ofRat value).toRat * unitsPerOne = unitsOfMagnitude (ofRat value).magnitude := by
  have positive : (unitsPerOne : Rat) ≠ 0 := by exact_mod_cast unitsPerOne_pos.ne'
  rw [toRat_ofRat nonneg, div_mul_cancel₀ _ positive, units]

/-- Quotients that are equal have the same nearest magnitude. -/
theorem nearestMagnitude_congr
    {numerator denominator numerator' denominator' : Nat}
    (positive : 0 < denominator)
    (positive' : 0 < denominator')
    (same : numerator * denominator' = numerator' * denominator) :
    nearestMagnitude numerator denominator = nearestMagnitude numerator' denominator' :=
  Nat.le_antisymm
    (nearestMagnitude_mono positive positive' same.le)
    (nearestMagnitude_mono positive' positive same.ge)

/-- A whole number of at most fifty-three places stands for itself, wherever its point
is put. -/
theorem unitsOfMagnitude_nearestMagnitude
    (short : value < 2 * fractionCount)
    (unit : unitsPerOne = 2 ^ rest * 2 ^ shift)
    (few : rest ≤ 2045) :
    unitsOfMagnitude (nearestMagnitude value (2 ^ shift)) = value * 2 ^ rest := by
  have lost : lostPlaces value (2 ^ shift) ≤ rest := by
    apply lostPlaces_le
    rw [unit, Nat.mul_assoc]
    exact Nat.mul_lt_mul_of_pos_right short (Nat.mul_pos (Nat.two_pow_pos _) (Nat.two_pow_pos _))
  obtain ⟨further, restEq⟩ := Nat.exists_eq_add_of_le lost
  have scaled : value * unitsPerOne =
      value * 2 ^ further * (2 ^ shift * 2 ^ lostPlaces value (2 ^ shift)) := by
    have powers : 2 ^ rest = 2 ^ lostPlaces value (2 ^ shift) * 2 ^ further := by
      rw [← Nat.pow_add, ← restEq]
    rw [unit, powers]
    ring
  have kept : keptParts value (2 ^ shift) = value * 2 ^ further := by
    rw [keptParts, scaled,
      roundQuotient_mul _ (Nat.mul_pos (Nat.two_pow_pos _) (Nat.two_pow_pos _))]
  have parts := keptParts_le value (2 ^ shift)
  have finite : lostPlaces value (2 ^ shift) * fractionCount + keptParts value (2 ^ shift) ≤
      infiniteMagnitude := by
    calc
      lostPlaces value (2 ^ shift) * fractionCount + keptParts value (2 ^ shift) ≤
          rest * fractionCount + 2 * fractionCount :=
        Nat.add_le_add (Nat.mul_le_mul_right _ lost) parts
      _ = (rest + 2) * fractionCount := (Nat.add_mul ..).symm
      _ ≤ 2047 * fractionCount := Nat.mul_le_mul_right _ (by omega)
  rw [nearestMagnitude_eq, Nat.min_eq_right finite,
    unitsOfMagnitude_parts parts ((Nat.eq_zero_or_pos _).imp_right le_keptParts), kept,
    Nat.mul_assoc, ← Nat.pow_add, Nat.add_comm, ← restEq]

/-- Binary fractions of at most fifty-three places are not rounded. -/
theorem toRat_ofRat_div_two_pow
    (short : value < 2 * fractionCount)
    (few : shift ≤ 1074) :
    (ofRat ((value : Rat) / 2 ^ shift)).toRat = (value : Rat) / 2 ^ shift := by
  obtain ⟨places, placesEq, unit⟩ := exists_unitsPerOne_eq
  obtain ⟨rest, restEq⟩ := Nat.exists_eq_add_of_le (placesEq ▸ few)
  rw [restEq, Nat.add_comm, Nat.pow_add] at unit
  have units := unitsOfMagnitude_nearestMagnitude short unit (by omega)
  have shifted : (0 : Rat) < 2 ^ shift := by positivity
  have nonneg : 0 ≤ (value : Rat) / 2 ^ shift := div_nonneg (Nat.cast_nonneg _) shifted.le
  have crossed : ((value : Rat) / 2 ^ shift).num.natAbs * 2 ^ shift =
      value * ((value : Rat) / 2 ^ shift).den := by
    have numerator := mul_den_eq_natAbs nonneg
    have exchanged : ((value : Rat) / 2 ^ shift).num.natAbs * (2 ^ shift : Rat) =
        value * ((value : Rat) / 2 ^ shift).den := by
      rw [← numerator, mul_right_comm, div_mul_cancel₀ _ shifted.ne']
    exact_mod_cast exchanged
  have positive : (unitsPerOne : Rat) ≠ 0 := by exact_mod_cast unitsPerOne_pos.ne'
  rw [← mul_left_inj' positive, toRat_ofRat_mul_unitsPerOne nonneg, magnitude_ofRat nonneg,
    nearestMagnitude_congr (Rat.den_pos _) (Nat.two_pow_pos shift) crossed, units, unit]
  push_cast
  rw [← mul_assoc, mul_right_comm, div_mul_cancel₀ _ shifted.ne']

/-- Whole numbers of at most fifty-three places are not rounded. -/
theorem toRat_ofNat (short : value < 2 * fractionCount) : (ofNat value).toRat = value := by
  have whole := toRat_ofRat_div_two_pow short (Nat.zero_le 1074)
  rwa [pow_zero, div_one] at whole

/-- A rational below one is not rounded up by more than `2 ^ -54`. -/
theorem toRat_ofRat_le_add
    {value : Rat}
    (nonneg : 0 ≤ value)
    (lt : value < 1) :
    (ofRat value).toRat ≤ value + 1 / 18014398509481984 := by
  have numerator : value * value.den = (value.num.natAbs : Rat) := mul_den_eq_natAbs nonneg
  have denominator : (0 : Rat) < value.den := by exact_mod_cast value.den_pos
  have proper : value.num.natAbs < value.den := by
    have scaled := mul_lt_mul_of_pos_right lt denominator
    rw [numerator, one_mul] at scaled
    exact_mod_cast scaled
  obtain ⟨places, placesEq, unit⟩ := exists_unitsPerOne_eq
  obtain ⟨rest, restEq⟩ : ∃ rest, places = 53 + (rest + 1) := ⟨1020, placesEq⟩
  have lost : lostPlaces value.num.natAbs value.den ≤ rest + 1 := by
    apply lostPlaces_le
    rw [two_mul_fractionCount_mul, ← restEq, ← unit, Nat.mul_comm unitsPerOne]
    exact Nat.mul_lt_mul_of_pos_right proper unitsPerOne_pos
  have error : 2 * (value.den *
        unitsOfMagnitude (nearestMagnitude value.num.natAbs value.den)) ≤
      2 * (value.num.natAbs * unitsPerOne) + value.den * 2 ^ (rest + 1) :=
    (units_nearestMagnitude_le _ _).trans (Nat.add_le_add_left (Nat.mul_le_mul_left _
      (Nat.pow_le_pow_right (by decide) lost)) _)
  have unitEq : (unitsPerOne : Rat) = 2 ^ rest * 18014398509481984 := by
    rw [unit, restEq]
    push_cast
    ring
  have positive : (0 : Rat) < 2 ^ rest := by positivity
  have errorRat : 2 * ((value.den : Rat) *
        unitsOfMagnitude (nearestMagnitude value.num.natAbs value.den)) ≤
      2 * (value * value.den * unitsPerOne) + value.den * 2 ^ (rest + 1) := by
    rw [numerator]
    exact_mod_cast error
  have divided : (unitsOfMagnitude (nearestMagnitude value.num.natAbs value.den) : Rat) ≤
      value * unitsPerOne + 2 ^ rest := by
    apply le_of_mul_le_mul_left _ (mul_pos two_pos denominator)
    calc
      _ = 2 * ((value.den : Rat) *
          unitsOfMagnitude (nearestMagnitude value.num.natAbs value.den)) := by ring
      _ ≤ _ := errorRat
      _ = 2 * (value.den : Rat) * (value * unitsPerOne + 2 ^ rest) := by ring
  have unitPos : (0 : Rat) < unitsPerOne := by exact_mod_cast unitsPerOne_pos
  apply le_of_mul_le_mul_right _ unitPos
  rw [toRat_ofRat_mul_unitsPerOne nonneg, magnitude_ofRat nonneg]
  refine divided.trans (le_of_eq ?_)
  rw [add_mul, unitEq]
  ring

/-- A number that shrinks by one part in `2 ^ 53` is rounded to a smaller magnitude. -/
theorem magnitude_ofRat_le_of_shrunk
    {value : Rat}
    {magnitude : Nat}
    (normal : fractionCount ≤ magnitude)
    (nonneg : 0 ≤ value)
    (shrunk : value * unitsPerOne * 9007199254740992 ≤
      unitsOfMagnitude (magnitude + 1) * 9007199254740991) :
    (ofRat value).magnitude ≤ magnitude := by
  apply magnitude_ofRat_le_of_lt nonneg
  obtain ⟨count, here, next, _, many⟩ := exists_gaps magnitude
  have positive : (0 : Rat) < gap magnitude := by exact_mod_cast gap_pos magnitude
  have large : (4503599627370496 : Rat) ≤ count := by exact_mod_cast many normal
  rw [next] at shrunk
  rw [here]
  push_cast at shrunk ⊢
  nlinarith [mul_le_mul_of_nonneg_left large positive.le]

end Binary64
end TransitLoad
