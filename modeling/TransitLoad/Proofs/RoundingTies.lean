import TransitLoad.Proofs.RoundingErrors

/-!
# Rounding ties

A quotient between two neighbouring numbers is rounded to the one whose half of the gap it
lies in, and from half way to the even one.  So a number is what all quotients between the
middles of the gaps on both of its sides are rounded to, and an even number is what the
middles themselves are rounded to.
-/

namespace TransitLoad

/-- A rounded quotient falls short of the quotient by a half at most. -/
theorem two_mul_le_roundQuotient
    (numerator : Nat)
    (positive : 0 < denominator) :
    2 * numerator ≤ 2 * (denominator * roundQuotient numerator denominator) + denominator := by
  have parts := Nat.div_add_mod numerator denominator
  rcases lt_trichotomy (2 * (numerator % denominator)) denominator with below | tie | above
  · rw [roundQuotient_of_below below]
    omega
  · rw [roundQuotient_of_tie tie, Nat.mul_add]
    omega
  · rw [roundQuotient_of_above above, Nat.mul_add]
    have small := Nat.mod_lt numerator positive
    omega

/-- From half way a quotient is rounded to the even neighbour. -/
theorem roundQuotient_of_half
    (positive : 0 < denominator)
    (half : 2 * numerator = (2 * whole + 1) * denominator) :
    roundQuotient numerator denominator = whole + whole % 2 := by
  have doubled : (2 * whole + 1) * denominator = 2 * (whole * denominator) + denominator := by ring
  have quotient : numerator / denominator = whole := by
    apply Nat.div_eq_of_lt_le
    · omega
    · rw [Nat.succ_mul]
      omega
  have parts := Nat.div_add_mod numerator denominator
  rw [quotient, Nat.mul_comm] at parts
  have tie : 2 * (numerator % denominator) = denominator := by omega
  rw [roundQuotient_of_tie tie, quotient]

namespace Binary64

/-- A quotient loses at least as many places as its length asks for. -/
theorem le_lostPlaces
    (positive : 0 < denominator)
    (long : fractionCount * 2 ^ places * denominator ≤ numerator * unitsPerOne) :
    places ≤ lostPlaces numerator denominator := by
  have whole : 2 ^ (52 + places) ≤ numerator * unitsPerOne / denominator := by
    rw [Nat.le_div_iff_mul_le positive, Nat.pow_add]
    exact long
  have nonzero := (Nat.lt_of_lt_of_le (Nat.two_pow_pos _) whole).ne'
  have := (Nat.le_log2 nonzero).mpr whole
  unfold lostPlaces
  omega

/-- A quotient half way between a magnitude and the next one is rounded to the even one of
them. -/
theorem nearestMagnitude_of_half
    {magnitude : Nat}
    (positive : 0 < denominator)
    (finite : magnitude < infiniteMagnitude)
    (half : 2 * (numerator * unitsPerOne) =
      (2 * unitsOfMagnitude magnitude + gap magnitude) * denominator) :
    nearestMagnitude numerator denominator = magnitude + magnitude % 2 := by
  obtain ⟨places, kept, parts, few, full, width⟩ := exists_parts magnitude
  have units : unitsOfMagnitude magnitude = kept * 2 ^ places := by
    rw [parts, unitsOfMagnitude_parts few.le full]
  have halves : 2 * (numerator * unitsPerOne) = (2 * kept + 1) * (denominator * 2 ^ places) := by
    rw [half, units, width]
    ring
  have broad : 0 < denominator * 2 ^ places := Nat.mul_pos positive (Nat.two_pow_pos _)
  have lost : lostPlaces numerator denominator = places := by
    apply Nat.le_antisymm
    · apply lostPlaces_le
      have doubled : 2 * (numerator * unitsPerOne) <
          2 * (2 * fractionCount * 2 ^ places * denominator) := by
        rw [halves]
        calc
          (2 * kept + 1) * (denominator * 2 ^ places) <
              2 * (2 * fractionCount) * (denominator * 2 ^ places) :=
            Nat.mul_lt_mul_of_pos_right (by omega) broad
          _ = 2 * (2 * fractionCount * 2 ^ places * denominator) := by ring
      exact Nat.lt_of_mul_lt_mul_left doubled
    · rcases full with rfl | many
      · exact Nat.zero_le _
      · apply le_lostPlaces positive
        have doubled : 2 * (fractionCount * 2 ^ places * denominator) ≤
            2 * (numerator * unitsPerOne) := by
          rw [halves]
          calc
            2 * (fractionCount * 2 ^ places * denominator) =
                2 * fractionCount * (denominator * 2 ^ places) := by ring
            _ ≤ (2 * kept + 1) * (denominator * 2 ^ places) :=
              Nat.mul_le_mul_right _ (by omega)
        exact Nat.le_of_mul_le_mul_left doubled two_pos
  have rounded : keptParts numerator denominator = kept + kept % 2 := by
    rw [keptParts, lost, roundQuotient_of_half broad halves]
  have even : magnitude % 2 = kept % 2 := by
    rw [parts, fractionCount]
    omega
  rw [nearestMagnitude_eq, lost, rounded, ← even, ← Nat.add_assoc, ← parts]
  exact Nat.min_eq_right (by omega)

/-- A quotient that is rounded to a number lies no more than half of a gap above it. -/
theorem le_units_nearestMagnitude
    (positive : 0 < denominator)
    (finite : nearestMagnitude numerator denominator < infiniteMagnitude) :
    2 * (numerator * unitsPerOne) ≤
      (2 * unitsOfMagnitude (nearestMagnitude numerator denominator) +
        gap (nearestMagnitude numerator denominator)) * denominator := by
  have full : lostPlaces numerator denominator = 0 ∨
      fractionCount ≤ keptParts numerator denominator :=
    (Nat.eq_zero_or_pos _).imp_right le_keptParts
  have parts : nearestMagnitude numerator denominator =
      lostPlaces numerator denominator * fractionCount + keptParts numerator denominator := by
    rw [nearestMagnitude_eq] at finite ⊢
    omega
  have units : unitsOfMagnitude (nearestMagnitude numerator denominator) =
      keptParts numerator denominator * 2 ^ lostPlaces numerator denominator := by
    rw [parts, unitsOfMagnitude_parts (keptParts_le _ _) full]
  have width : 2 ^ lostPlaces numerator denominator ≤
      gap (nearestMagnitude numerator denominator) := by
    apply Nat.pow_le_pow_right two_pos
    rcases full with none | many
    · rw [none]
      exact Nat.zero_le _
    · have exponent : lostPlaces numerator denominator + 1 ≤
          nearestMagnitude numerator denominator / fractionCount := by
        rw [Nat.le_div_iff_mul_le (by decide), Nat.succ_mul, parts]
        omega
      omega
  calc
    2 * (numerator * unitsPerOne) ≤
        2 * (denominator * 2 ^ lostPlaces numerator denominator *
          keptParts numerator denominator) +
            denominator * 2 ^ lostPlaces numerator denominator :=
      two_mul_le_roundQuotient _ (Nat.mul_pos positive (Nat.two_pow_pos _))
    _ = (2 * unitsOfMagnitude (nearestMagnitude numerator denominator) +
          2 ^ lostPlaces numerator denominator) * denominator := by
      rw [units]
      ring
    _ ≤ _ := Nat.mul_le_mul_right _ (Nat.add_le_add_left width _)

/-- A quotient that exceeds a magnitude by more than half of the gap above it is rounded
beyond that magnitude. -/
theorem lt_nearestMagnitude_of_lt
    {magnitude : Nat}
    (positive : 0 < denominator)
    (finite : magnitude < infiniteMagnitude)
    (above : (2 * unitsOfMagnitude magnitude + gap magnitude) * denominator <
      2 * (numerator * unitsPerOne)) :
    magnitude < nearestMagnitude numerator denominator := by
  by_contra short
  have reached := Nat.not_lt.mp short
  have error := le_units_nearestMagnitude positive (Nat.lt_of_le_of_lt reached finite)
  have size := unitsOfMagnitude_mono reached
  have width := gap_mono reached
  have moved := Nat.mul_le_mul_right denominator
    (Nat.add_le_add (Nat.mul_le_mul_left 2 size) width)
  omega

end Binary64

end TransitLoad
