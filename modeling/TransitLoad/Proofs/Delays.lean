import Mathlib.Algebra.Order.Field.Basic
import Mathlib.Tactic.NormNum
import TransitLoad.Proofs.RoundingErrors
import TransitLoad.Settings.Basic

/-!
# Delays

Whatever range a delay is drawn from, no draw of it ends in a fault, and the delay lies
within the range.  A spread may be rounded up when it is turned into seconds, but the
largest fraction is one part in `2 ^ 53` short of one, and that is enough for its share
of the spread to be rounded to less than the spread again.  Whether a draw takes words
depends on the range alone, and how many it takes does not depend on their values.
-/

namespace TransitLoad

namespace Generator

/-- The generator after so many words were taken. -/
def skip (generator : Generator) (words : Nat) : Generator :=
  { generator with position := generator.position + words }

@[simp] theorem skip_zero (generator : Generator) : generator.skip 0 = generator := rfl

@[simp] theorem skip_skip (generator : Generator) (first second : Nat) :
    (generator.skip first).skip second = generator.skip (first + second) := by
  simp [skip, Nat.add_assoc]

/-- The largest fraction. -/
def largestFraction : Rat := 9007199254740991 / 9007199254740992

/-- A fraction is not negative and no more than the largest. -/
theorem nextFraction_toRat (generator : Generator) :
    0 ≤ generator.nextFraction.1.toRat ∧
      generator.nextFraction.1.toRat ≤ largestFraction := by
  have nonneg : (0 : Rat) ≤
      ((generator.nextLong.1.toNat / 2048 : Nat) : Rat) / (9007199254740992 : Nat) :=
    div_nonneg (Nat.cast_nonneg _) (Nat.cast_nonneg _)
  have le : ((generator.nextLong.1.toNat / 2048 : Nat) : Rat) / (9007199254740992 : Nat) ≤
      largestFraction := by
    apply div_le_div_of_nonneg_right _ (Nat.cast_nonneg _)
    have bound := generator.nextLong.1.toNat_lt
    exact_mod_cast (by omega : generator.nextLong.1.toNat / 2048 ≤ 9007199254740991)
  exact ⟨Binary64.toRat_ofRat_nonneg nonneg,
    Binary64.toRat_ofRat_le nonneg le (by decide +kernel)⟩

end Generator

namespace Duration

open Binary64

/-! ## Seconds -/

/-- The part of a duration beyond its whole seconds, in seconds. -/
def subsecond (duration : Duration) : Rat := (duration.subsecondNanoseconds : Rat) / 1000000000

theorem subsecond_nonneg (duration : Duration) : 0 ≤ duration.subsecond :=
  div_nonneg (Nat.cast_nonneg _) (by decide)

theorem subsecond_le (duration : Duration) : duration.subsecond ≤ 999999999 / 1000000000 := by
  apply div_le_div_of_nonneg_right _ (by decide)
  have below := Nat.mod_lt duration.nanoseconds (by decide : 0 < 1000000000)
  exact_mod_cast Nat.le_pred_of_lt below

theorem wholeSeconds_add_subsecond (duration : Duration) :
    (duration.wholeSeconds + duration.subsecond) * 1000000000 =
      (duration.nanoseconds : Rat) := by
  have parts := Nat.div_add_mod duration.nanoseconds 1000000000
  rw [add_mul, subsecond, div_mul_cancel₀ _ (by decide), wholeSeconds, subsecondNanoseconds,
    mul_comm]
  exact_mod_cast parts

theorem toSeconds_eq (duration : Duration) :
    duration.toSeconds =
      .ofRat ((Binary64.ofNat duration.wholeSeconds).toRat +
        (Binary64.ofRat duration.subsecond).toRat) := by
  have short : duration.subsecondNanoseconds < 2 * fractionCount :=
    (Nat.mod_lt _ (by decide)).trans (by decide)
  have billion : (Binary64.ofNat 1000000000).toRat = 1000000000 := by decide +kernel
  have part : Binary64.ofNat duration.subsecondNanoseconds / .ofNat 1000000000 =
      .ofRat duration.subsecond := by
    change Binary64.ofRat (_ / _) = _
    rw [toRat_ofNat short, billion, subsecond]
  rw [toSeconds, part]
  rfl

theorem toRat_ofNat_nonneg (value : Nat) : 0 ≤ (Binary64.ofNat value).toRat :=
  toRat_ofRat_nonneg (Nat.cast_nonneg value)

/-- Rounding adds less than `2 ^ -53` to a duration of less than `2 ^ 53` seconds, which
is half of the gap above one second. -/
theorem toSeconds_lt_of_short
    {duration : Duration}
    {magnitude : Nat}
    (some : 1 ≤ duration.wholeSeconds)
    (short : duration.wholeSeconds < 2 * fractionCount)
    (le : (duration.wholeSeconds + duration.subsecond) * unitsPerOne ≤
      unitsOfMagnitude magnitude) :
    2 * (((Binary64.ofNat duration.wholeSeconds).toRat +
        (Binary64.ofRat duration.subsecond).toRat) * unitsPerOne) <
      2 * (unitsOfMagnitude magnitude : Rat) + gap magnitude := by
  have unit : (0 : Rat) < unitsPerOne := by exact_mod_cast unitsPerOne_pos
  have subsecond_nonneg := duration.subsecond_nonneg
  have part := toRat_ofRat_le_add subsecond_nonneg
    (duration.subsecond_le.trans_lt (by norm_num))
  have one_le : (1 : Rat) ≤ duration.wholeSeconds := by exact_mod_cast some
  have reached : (Binary64.ofRat 1).magnitude ≤ magnitude :=
    magnitude_ofRat_le (by decide) (by nlinarith)
  have width : (unitsPerOne : Rat) < gap magnitude * 9007199254740992 := by
    have narrowest : unitsPerOne < gap (Binary64.ofRat 1).magnitude * 9007199254740992 := by
      decide +kernel
    exact_mod_cast narrowest.trans_le (Nat.mul_le_mul_right _ (gap_mono reached))
  have widened := mul_le_mul_of_nonneg_right (add_le_add_right part
    (duration.wholeSeconds : Rat)) unit.le
  rw [toRat_ofNat short]
  generalize (unitsPerOne : Rat) = unit at *
  linarith

/-- A duration of `2 ^ 53` seconds and more is rounded after its whole seconds were: it
exceeds these by less than one second, half of the gap above `2 ^ 53`. -/
theorem toSeconds_lt_of_long
    {duration : Duration}
    {magnitude : Nat}
    (long : 2 * fractionCount ≤ duration.wholeSeconds)
    (le : (duration.wholeSeconds + duration.subsecond) * unitsPerOne ≤
      unitsOfMagnitude magnitude) :
    2 * (((Binary64.ofNat duration.wholeSeconds).toRat +
        (Binary64.ofRat duration.subsecond).toRat) * unitsPerOne) <
      2 * (unitsOfMagnitude magnitude : Rat) + gap magnitude := by
  have unit : (0 : Rat) < unitsPerOne := by exact_mod_cast unitsPerOne_pos
  have subsecond_nonneg := duration.subsecond_nonneg
  have subsecond_le := duration.subsecond_le
  have part := toRat_ofRat_le_add subsecond_nonneg (subsecond_le.trans_lt (by norm_num))
  have whole_nonneg : (0 : Rat) ≤ duration.wholeSeconds := Nat.cast_nonneg _
  have whole_le : (duration.wholeSeconds : Rat) * unitsPerOne ≤ unitsOfMagnitude magnitude := by
    nlinarith
  have whole : (Binary64.ofNat duration.wholeSeconds).toRat * unitsPerOne ≤
      unitsOfMagnitude magnitude := by
    rw [Binary64.ofNat, toRat_ofRat_mul_unitsPerOne whole_nonneg]
    exact_mod_cast unitsOfMagnitude_mono (magnitude_ofRat_le whole_nonneg whole_le)
  have long_le : (9007199254740992 : Rat) ≤ duration.wholeSeconds := by exact_mod_cast long
  have reached : (Binary64.ofRat 9007199254740992).magnitude ≤ magnitude :=
    magnitude_ofRat_le (by decide) (by nlinarith)
  have width : 2 * (unitsPerOne : Rat) ≤ gap magnitude := by
    have narrowest : 2 * unitsPerOne ≤ gap (Binary64.ofRat 9007199254740992).magnitude := by
      decide +kernel
    exact_mod_cast narrowest.trans (gap_mono reached)
  have below_one : (Binary64.ofRat duration.subsecond).toRat < 1 := by linarith
  have widened := mul_lt_mul_of_pos_right below_one unit
  generalize (unitsPerOne : Rat) = unit at *
  linarith

/-- A duration in seconds is rounded to no larger magnitude than one that it does not
exceed. -/
theorem magnitude_toSeconds_le
    {duration : Duration}
    {magnitude : Nat}
    (le : duration.nanoseconds * unitsPerOne ≤ unitsOfMagnitude magnitude * 1000000000) :
    duration.toSeconds.magnitude ≤ magnitude := by
  have subsecond_nonneg := duration.subsecond_nonneg
  have partNonneg := toRat_ofRat_nonneg subsecond_nonneg
  have sumNonneg := add_nonneg (toRat_ofNat_nonneg duration.wholeSeconds) partNonneg
  have exact_le : (duration.wholeSeconds + duration.subsecond) * unitsPerOne ≤
      unitsOfMagnitude magnitude := by
    have cast : (duration.nanoseconds : Rat) * unitsPerOne ≤
        unitsOfMagnitude magnitude * 1000000000 := by exact_mod_cast le
    rw [← wholeSeconds_add_subsecond] at cast
    linarith
  rw [toSeconds_eq]
  rcases Nat.eq_zero_or_pos duration.wholeSeconds with none | some
  · have zero : (Binary64.ofNat 0).toRat = 0 := toRat_ofNat (by decide)
    rw [none, zero, zero_add]
    rw [none, Nat.cast_zero, zero_add] at exact_le
    apply magnitude_ofRat_le partNonneg
    rw [toRat_ofRat_mul_unitsPerOne subsecond_nonneg]
    exact_mod_cast unitsOfMagnitude_mono (magnitude_ofRat_le subsecond_nonneg exact_le)
  · apply magnitude_ofRat_le_of_lt sumNonneg
    rcases Nat.lt_or_ge duration.wholeSeconds (2 * fractionCount) with short | long
    · exact toSeconds_lt_of_short some short exact_le
    · exact toSeconds_lt_of_long long exact_le

/-- A duration of a nanosecond and more is not among the smallest numbers of seconds,
between which the gaps do not grow. -/
theorem lt_magnitude_toSeconds
    {duration : Duration}
    (some : 0 < duration.nanoseconds) :
    fractionCount < duration.toSeconds.magnitude := by
  have wholeNonneg := toRat_ofNat_nonneg duration.wholeSeconds
  have partNonneg := toRat_ofRat_nonneg duration.subsecond_nonneg
  have least : (1 / 1073741824 : Rat) ≤ (Binary64.ofNat duration.wholeSeconds).toRat +
      (Binary64.ofRat duration.subsecond).toRat := by
    rcases Nat.eq_zero_or_pos duration.wholeSeconds with none | someWhole
    · have present : 1 ≤ duration.subsecondNanoseconds := by
        rw [wholeSeconds] at none
        rw [subsecondNanoseconds]
        omega
      have part : (1 / 1073741824 : Rat) ≤ duration.subsecond := by
        have cast : (1 : Rat) ≤ duration.subsecondNanoseconds := by exact_mod_cast present
        rw [subsecond, le_div_iff₀ (by norm_num)]
        linarith
      have := le_toRat_ofRat (by norm_num) part (by decide +kernel)
      linarith
    · have cast : (1 : Rat) ≤ duration.wholeSeconds := by exact_mod_cast someWhole
      have whole : (1 : Rat) ≤ (Binary64.ofNat duration.wholeSeconds).toRat :=
        le_toRat_ofRat (by norm_num) cast (by decide +kernel)
      have small : (1 / 1073741824 : Rat) ≤ 1 := by norm_num
      linarith
  have normal : fractionCount < (Binary64.ofRat (1 / 1073741824)).magnitude := by
    decide +kernel
  rw [toSeconds_eq]
  exact normal.trans_le (magnitude_ofRat_mono (by norm_num) least)

theorem exists_toSeconds_eq (duration : Duration) :
    ∃ value : Rat, 0 ≤ value ∧ duration.toSeconds = .ofRat value :=
  ⟨_, add_nonneg (toRat_ofNat_nonneg _) (toRat_ofRat_nonneg duration.subsecond_nonneg),
    duration.toSeconds_eq⟩

theorem toSeconds_toRat_nonneg (duration : Duration) : 0 ≤ duration.toSeconds.toRat := by
  obtain ⟨value, nonneg, same⟩ := duration.exists_toSeconds_eq
  rw [same]
  exact toRat_ofRat_nonneg nonneg

theorem toSeconds_toRat_mul_unitsPerOne (duration : Duration) :
    duration.toSeconds.toRat * unitsPerOne =
      unitsOfMagnitude duration.toSeconds.magnitude := by
  obtain ⟨value, nonneg, same⟩ := duration.exists_toSeconds_eq
  rw [same]
  exact toRat_ofRat_mul_unitsPerOne nonneg

theorem magnitude_toSeconds_le_infinite (duration : Duration) :
    duration.toSeconds.magnitude ≤ infiniteMagnitude := by
  obtain ⟨value, nonneg, same⟩ := duration.exists_toSeconds_eq
  rw [same, magnitude_ofRat nonneg]
  exact nearestMagnitude_le _ _

/-! ## Fractions of a duration -/

theorem ofFractionalSeconds?_eq_some
    {seconds : Binary64}
    (finite : seconds.isFinite = true)
    (representable : roundQuotient (seconds.units * 1000000000) unitsPerOne < limit) :
    ofFractionalSeconds? seconds =
      some ⟨roundQuotient (seconds.units * 1000000000) unitsPerOne⟩ := by
  rw [ofFractionalSeconds?, finite, decide_eq_true representable]
  rfl

/-- A fraction of a duration is rounded to fewer seconds than the duration. -/
theorem magnitude_fraction_lt
    {duration : Duration}
    {fraction : Rat}
    (positive : 0 < duration.nanoseconds)
    (nonneg : 0 ≤ fraction)
    (le : fraction ≤ Generator.largestFraction) :
    (Binary64.ofRat (fraction * duration.toSeconds.toRat)).magnitude <
      duration.toSeconds.magnitude := by
  have large := lt_magnitude_toSeconds positive
  have seconds := duration.toSeconds_toRat_mul_unitsPerOne
  obtain ⟨below, belowEq⟩ := Nat.exists_eq_add_one_of_ne_zero (Nat.zero_lt_of_lt large).ne'
  rw [belowEq] at large seconds ⊢
  apply Nat.lt_succ_of_le
  apply magnitude_ofRat_le_of_shrunk (Nat.le_of_lt_succ large)
    (mul_nonneg nonneg duration.toSeconds_toRat_nonneg)
  have shrunk : fraction * 9007199254740992 ≤ 9007199254740991 := by
    rwa [Generator.largestFraction, le_div_iff₀ (by norm_num)] at le
  calc
    fraction * duration.toSeconds.toRat * unitsPerOne * 9007199254740992 =
        fraction * 9007199254740992 * unitsOfMagnitude (below + 1) := by
      rw [mul_assoc fraction, seconds]
      ring
    _ ≤ 9007199254740991 * unitsOfMagnitude (below + 1) :=
      mul_le_mul_of_nonneg_right shrunk (Nat.cast_nonneg _)
    _ = unitsOfMagnitude (below + 1) * 9007199254740991 := mul_comm _ _

/-- What is below the seconds of a duration is shorter than the duration, though these
may have been rounded up. -/
theorem units_lt_of_magnitude_lt
    {duration : Duration}
    {seconds : Binary64}
    (less : seconds.magnitude < duration.toSeconds.magnitude) :
    seconds.units * 1000000000 < duration.nanoseconds * unitsPerOne := by
  by_contra longer
  exact absurd (magnitude_toSeconds_le (Nat.not_lt.mp longer)) (Nat.not_le.mpr less)

/-- A fraction of a duration is a duration again, and no longer. -/
theorem exists_ofFractionalSeconds
    {duration : Duration}
    {fraction : Rat}
    (positive : 0 < duration.nanoseconds)
    (representable : duration.nanoseconds < limit)
    (nonneg : 0 ≤ fraction)
    (le : fraction ≤ Generator.largestFraction) :
    ∃ part, ofFractionalSeconds? (.ofRat (fraction * duration.toSeconds.toRat)) = some part ∧
      part.nanoseconds ≤ duration.nanoseconds := by
  have less := magnitude_fraction_lt positive nonneg le
  generalize Binary64.ofRat (fraction * duration.toSeconds.toRat) = seconds at less
  have finite : seconds.isFinite = true :=
    decide_eq_true (less.trans_le duration.magnitude_toSeconds_le_infinite)
  have part_le : roundQuotient (seconds.units * 1000000000) unitsPerOne ≤
      duration.nanoseconds := by
    rw [← roundQuotient_mul duration.nanoseconds unitsPerOne_pos]
    exact roundQuotient_mono unitsPerOne_pos unitsPerOne_pos
      (Nat.mul_le_mul_right _ (units_lt_of_magnitude_lt less).le)
  exact ⟨_, ofFractionalSeconds?_eq_some finite (part_le.trans_lt representable), part_le⟩

end Duration

namespace DelayRange

/-- Both ends are durations that can be represented. -/
structure IsRepresentable (range : DelayRange) : Prop where
  lower_lt : range.lower.nanoseconds < Duration.limit
  upper_lt : range.upper.nanoseconds < Duration.limit

theorem ofMilliseconds_isRepresentable (lower upper : UInt64) :
    (ofMilliseconds lower.toNat upper.toNat).IsRepresentable := by
  have limitEq : Duration.limit = 18446744073709551616000000000 := by decide
  have lowerBound := lower.toNat_lt
  have upperBound := upper.toNat_lt
  constructor
  · rw [limitEq]
    change 1000000 * lower.toNat < _
    omega
  · rw [limitEq]
    change 1000000 * upper.toNat < _
    omega

/-- How many words a draw takes. -/
def words (range : DelayRange) : Nat :=
  if range.spread = .zero then 0 else 2

/-- The delay that is drawn, and the lower end where none can be represented. -/
def drawn (range : DelayRange) (generator : Generator) : Duration :=
  match (range.sample.from? generator).1 with
  | .ok delay => delay
  | .error _ => range.lower

theorem sample_of_spread_zero
    {range : DelayRange}
    (none : range.spread = .zero)
    (generator : Generator) :
    range.sample.from? generator = (.ok range.lower, generator) := by
  simp only [sample, none, if_true]
  rfl

theorem sample_of_spread
    {range : DelayRange}
    (some : range.spread ≠ .zero)
    (generator : Generator) :
    range.sample.from? generator =
      (range.atFraction generator.nextFraction.1, generator.skip 2) := by
  simp only [sample, some, if_false]
  rfl

theorem atFraction_eq
    {range : DelayRange}
    {fraction : Binary64}
    {part : Duration}
    (partEq : Duration.ofFractionalSeconds?
      (.ofRat (fraction.toRat * range.spread.toSeconds.toRat)) = some part)
    (sumLt : range.lower.nanoseconds + part.nanoseconds < Duration.limit) :
    range.atFraction fraction =
      .ok ⟨range.lower.nanoseconds + part.nanoseconds⟩ := by
  have product : fraction * range.spread.toSeconds =
      .ofRat (fraction.toRat * range.spread.toSeconds.toRat) := rfl
  rw [atFraction, product, partEq]
  simp only [Duration.add?, if_pos sumLt]

/-- At every fraction there is a delay, and it lies within the range. -/
theorem exists_atFraction
    {range : DelayRange}
    (representable : range.IsRepresentable)
    (some : range.spread ≠ .zero)
    {fraction : Binary64}
    (nonneg : 0 ≤ fraction.toRat)
    (le : fraction.toRat ≤ Generator.largestFraction) :
    ∃ delay, range.atFraction fraction = .ok delay ∧
      range.lower.nanoseconds ≤ delay.nanoseconds ∧
      delay.nanoseconds ≤ range.upper.nanoseconds := by
  have spreadEq : range.spread.nanoseconds =
      range.upper.nanoseconds - range.lower.nanoseconds := rfl
  have positive : 0 < range.spread.nanoseconds := by
    by_contra none
    exact some (congrArg Duration.mk (Nat.eq_zero_of_not_pos none))
  have upper_lt := representable.upper_lt
  obtain ⟨part, partEq, partLe⟩ := Duration.exists_ofFractionalSeconds positive
    (by omega) nonneg le
  exact ⟨_, atFraction_eq partEq (by omega), Nat.le_add_right _ _, by
    change range.lower.nanoseconds + part.nanoseconds ≤ _
    omega⟩

/-- A draw never ends in a fault, and takes as many words as the range says. -/
theorem sample_eq_drawn
    {range : DelayRange}
    (representable : range.IsRepresentable)
    (generator : Generator) :
    range.sample.from? generator =
      (.ok (range.drawn generator), generator.skip range.words) := by
  by_cases none : range.spread = .zero
  · simp [drawn, words, none, sample_of_spread_zero none]
  · obtain ⟨nonneg, le⟩ := generator.nextFraction_toRat
    obtain ⟨delay, delayEq, _⟩ := exists_atFraction representable none nonneg le
    simp [drawn, words, none, sample_of_spread none, delayEq]

/-- No drawn delay is below the lower end. -/
theorem lower_le_drawn
    {range : DelayRange}
    (representable : range.IsRepresentable)
    (generator : Generator) :
    range.lower.nanoseconds ≤ (range.drawn generator).nanoseconds := by
  by_cases none : range.spread = .zero
  · simp [drawn, sample_of_spread_zero none]
  · obtain ⟨nonneg, le⟩ := generator.nextFraction_toRat
    obtain ⟨delay, delayEq, lowerLe, _⟩ := exists_atFraction representable none nonneg le
    simpa [drawn, sample_of_spread none, delayEq] using lowerLe

/-- No drawn delay is beyond the upper end, unless both ends are beyond it. -/
theorem drawn_le
    {range : DelayRange}
    (representable : range.IsRepresentable)
    (generator : Generator) :
    (range.drawn generator).nanoseconds ≤
      max range.lower.nanoseconds range.upper.nanoseconds := by
  by_cases none : range.spread = .zero
  · simp [drawn, sample_of_spread_zero none]
  · obtain ⟨nonneg, le⟩ := generator.nextFraction_toRat
    obtain ⟨delay, delayEq, _, leUpper⟩ := exists_atFraction representable none nonneg le
    have drawnEq : range.drawn generator = delay := by
      simp [drawn, sample_of_spread none, delayEq]
    rw [drawnEq]
    exact leUpper.trans (le_max_right _ _)

theorem spread_eq_zero_iff {range : DelayRange} :
    range.spread = .zero ↔ range.upper.nanoseconds ≤ range.lower.nanoseconds := by
  rw [← Nat.sub_eq_zero_iff_le]
  exact ⟨congrArg Duration.nanoseconds, congrArg Duration.mk⟩

/-- A draw comes to a delay, whatever the words are.  From a range that reaches beyond its
lower end it takes one fraction, and the delay lies between the ends; from every other range
it takes nothing, and the delay is the lower end. -/
theorem sample_stays_in_range
    {range : DelayRange}
    (representable : range.IsRepresentable)
    (generator : Generator) :
    ∃ delay after, range.sample.from? generator = (.ok delay, after) ∧
      (range.lower.nanoseconds ≤ range.upper.nanoseconds →
        range.lower.nanoseconds ≤ delay.nanoseconds ∧
          delay.nanoseconds ≤ range.upper.nanoseconds) ∧
      (range.lower.nanoseconds < range.upper.nanoseconds →
        ∃ fraction, Draw.fraction.from? generator = (.ok fraction, after) ∧
          after = generator.skip 2 ∧ 0 ≤ fraction.toRat ∧ fraction.toRat < 1 ∧
          range.atFraction fraction = .ok delay) ∧
      (range.upper.nanoseconds ≤ range.lower.nanoseconds →
        delay = range.lower ∧ after = generator) := by
  by_cases none : range.spread = .zero
  · have flat := spread_eq_zero_iff.mp none
    exact ⟨range.lower, generator, sample_of_spread_zero none generator,
      fun ordered => ⟨Nat.le_refl _, ordered⟩, fun wide => absurd flat (Nat.not_le.mpr wide),
      fun _ => ⟨rfl, rfl⟩⟩
  · obtain ⟨nonneg, le⟩ := generator.nextFraction_toRat
    obtain ⟨delay, delayEq, within⟩ := exists_atFraction representable none nonneg le
    have below : generator.nextFraction.1.toRat < 1 := le.trans_lt (by decide +kernel)
    refine ⟨delay, generator.skip 2, ?_, fun _ => within, fun _ => ?_, fun flat => ?_⟩
    · rw [sample_of_spread none, delayEq]
    · exact ⟨_, rfl, rfl, nonneg, below, delayEq⟩
    · exact absurd (spread_eq_zero_iff.mpr flat) none

/-- The range of all delays that can be represented. -/
def widest : DelayRange := ⟨.zero, ⟨Duration.limit - 1⟩⟩

/-- The largest fraction of the widest range, whose length is rounded up to `2 ^ 64` seconds,
is 2048 seconds short of that. -/
theorem sample_stays_in_range_widest :
    widest.IsRepresentable ∧ ∃ delay after,
      widest.sample.from? ⟨fun _ => 4294967295, 0⟩ = (.ok delay, after) ∧
        delay = .ofSeconds (2 ^ 64 - 2048) ∧
        delay.nanoseconds ≤ widest.upper.nanoseconds ∧
        after = Generator.skip ⟨fun _ => 4294967295, 0⟩ 2 := by
  have representable : widest.IsRepresentable := ⟨by decide, by decide⟩
  have largest : (widest.sample.from? ⟨fun _ => 4294967295, 0⟩).1.toOption =
      some (.ofSeconds (2 ^ 64 - 2048)) := by decide +kernel
  obtain ⟨delay, after, drawn, within, wide, _⟩ :=
    sample_stays_in_range representable ⟨fun _ => 4294967295, 0⟩
  obtain ⟨_, _, taken, _⟩ := wide (by decide)
  rw [drawn] at largest
  exact ⟨representable, delay, after, drawn, Option.some.inj largest, (within (by decide)).2,
    taken⟩

end DelayRange

namespace Settings

theorem spawnDelay_isRepresentable (settings : Settings) :
    settings.spawnDelay.IsRepresentable :=
  DelayRange.ofMilliseconds_isRepresentable settings.minSpawnDelay settings.maxSpawnDelay

theorem actionPause_isRepresentable (settings : Settings) :
    settings.actionPause.IsRepresentable :=
  DelayRange.ofMilliseconds_isRepresentable settings.minActionPause settings.maxActionPause

/-! ## Validity -/

/-- What valid settings keep to. -/
structure IsValid (settings : Settings) : Prop where
  concurrency_pos : 0 < settings.maxConcurrency.toNat
  concurrency_le : settings.maxConcurrency.toNat ≤ concurrencyLimit
  seconds_pos : 0 < settings.durationSeconds.toNat
  seconds_lt : settings.durationSeconds.toNat < clockReach
  tick_pos : 0 < settings.tickInterval.toNat
  spawnDelay_le : settings.minSpawnDelay.toNat ≤ settings.maxSpawnDelay.toNat
  actionPause_le : settings.minActionPause.toNat ≤ settings.maxActionPause.toNat

theorem validate_eq_ok (settings : Settings) :
    settings.validate = .ok () ↔ settings.IsValid := by
  unfold validate
  simp only [bind, Except.bind, throw, throwThe, MonadExceptOf.throw, checkRange]
  constructor
  · intro valid
    split_ifs at valid with noSlots manySlots noTime longTime noTick noDelay noPause
    exact ⟨by omega, by omega, by omega, by omega, by omega, by omega, by omega⟩
  · rintro ⟨slots, countable, time, representable, tick, delay, pause⟩
    simp [slots.ne', countable.not_gt, time.ne', representable.not_ge, tick.ne',
      delay.not_gt, pause.not_gt]

end Settings
end TransitLoad
