import TransitLoad.Json.Number
import TransitLoad.Proofs.JsonWriting
import TransitLoad.Proofs.ShortestDecimals

/-!
# Written numbers read back

A number that is written is a numeral as JSON asks for, without superfluous zeros in front,
and the numeral is read as the very number: a count has the count as its digits, and a
floating point number has the digits of a decimal that is rounded back to it, wherever its
point stands.
-/

namespace TransitLoad
namespace Json

/-! ## Digits -/

/-- Decimal digits, and nothing else. -/
def AreDigitChars (digits : List Char) : Prop := ∀ digit ∈ digits, digit.isDigit = true

theorem toNat_bounds_of_isDigit
    {digit : Char}
    (isDigit : digit.isDigit = true) :
    48 ≤ digit.toNat ∧ digit.toNat ≤ 57 := by
  simp only [Char.isDigit, Bool.and_eq_true, decide_eq_true_eq, ge_iff_le,
    UInt32.le_iff_toNat_le] at isDigit
  exact isDigit

/-- The byte of a digit is its number. -/
theorem toNat_digitByte
    {digit : Char}
    (isDigit : digit.isDigit = true) :
    (UInt8.ofNat digit.toNat).toNat = digit.toNat := by
  have bounds := toNat_bounds_of_isDigit isDigit
  rw [UInt8.toNat_ofNat', Nat.mod_eq_of_lt (by omega)]

theorem areDigits_digitBytes
    {digits : List Char}
    (nonempty : digits ≠ [])
    (areDigits : AreDigitChars digits) :
    AreDigits (digitBytes digits) := by
  refine ⟨by simpa [digitBytes] using nonempty, ?_⟩
  simp only [digitBytes, List.forall_mem_map]
  intro digit present
  have bounds := toNat_bounds_of_isDigit (areDigits digit present)
  simp only [UInt8.le_iff_toNat_le, toNat_digitByte (areDigits digit present), UInt8.reduceToNat]
  exact bounds

/-- Digits that do not start with a zero may stand before a point. -/
theorem areWhole_digitBytes
    {digits : List Char}
    (nonempty : digits ≠ [])
    (areDigits : AreDigitChars digits)
    (noZero : digits.head? ≠ some '0') :
    AreWhole (digitBytes digits) := by
  refine ⟨areDigits_digitBytes nonempty areDigits, fun zero => absurd ?_ noZero⟩
  obtain ⟨first, others, rfl⟩ := List.exists_cons_of_ne_nil nonempty
  have byte : UInt8.ofNat first.toNat = 0x30 := Option.some.inj zero
  have number := toNat_digitByte (areDigits first List.mem_cons_self)
  rw [byte] at number
  rw [List.head?_cons, ← Char.ofNat_toNat first, ← number]
  rfl

/-- So may a lone zero. -/
theorem areWhole_zero : AreWhole [0x30] :=
  ⟨⟨List.cons_ne_nil _ _, by simp⟩, fun _ => rfl⟩

theorem digitsValue_digitBytes
    {digits : List Char}
    (areDigits : AreDigitChars digits) :
    digitsValue (digitBytes digits) = Nat.ofDigitChars 10 digits 0 := by
  have carried (value : Nat) :
      (digitBytes digits).foldl (fun value digit => value * 10 + digitValue digit) value =
        Nat.ofDigitChars 10 digits value := by
    induction digits generalizing value with
    | nil => rfl
    | cons digit digits hypothesis =>
        obtain ⟨first, others⟩ := List.forall_mem_cons.mp areDigits
        rw [Nat.ofDigitChars_cons, ← hypothesis others, digitBytes, List.map_cons,
          List.foldl_cons, digitValue, toNat_digitByte first, Nat.mul_comm]
        rfl
  exact carried 0

theorem areDigitChars_toDigits (value : Nat) : AreDigitChars (Nat.toDigits 10 value) :=
  fun _ => Nat.isDigit_of_mem_toDigits (by decide) (by decide)

/-- The digits of a positive number do not start with a zero. -/
theorem head?_toDigits_ne
    (positive : 0 < value) :
    (Nat.toDigits 10 value).head? ≠ some '0' := by
  induction value using Nat.strongRecOn with
  | ind value hypothesis =>
      rw [Nat.toDigits_eq_if (by decide)]
      split_ifs with small
      · interval_cases value <;> decide
      · have shorter := hypothesis (value / 10) (by omega) (by omega)
        rwa [List.head?_append, Option.or_of_isSome]
        rw [List.isSome_head?]
        exact Nat.toDigits_ne_nil

theorem areWhole_toDigits (value : Nat) : AreWhole (digitBytes (Nat.toDigits 10 value)) := by
  rcases Nat.eq_zero_or_pos value with rfl | positive
  · exact areWhole_zero
  · exact areWhole_digitBytes Nat.toDigits_ne_nil (areDigitChars_toDigits value)
      (head?_toDigits_ne positive)

/-! ## Numerals -/

theorem spellsExponent_bytes
    {exponent : Option Exponent}
    (areDigits : ∀ scale ∈ exponent, AreDigits scale.digits) :
    SpellsExponent exponent (Numeral.exponentBytes exponent) := by
  cases exponent with
  | none => exact .absent
  | some scale =>
      obtain ⟨isNegative, digits⟩ := scale
      have areDigits := areDigits _ rfl
      cases isNegative with
      | false => exact .positive (.inl rfl) areDigits
      | true => exact .negative (.inl rfl) areDigits

/-- A numeral is spelled as it is written if its parts are digits. -/
theorem spellsNumeral_bytes
    {numeral : Numeral}
    (areWhole : AreWhole numeral.whole)
    (point : ∀ digits ∈ numeral.fraction, AreDigits digits)
    (scale : ∀ exponent ∈ numeral.exponent, AreDigits exponent.digits) :
    SpellsNumeral numeral numeral.bytes := by
  obtain ⟨isNegative, whole, fraction, exponent⟩ := numeral
  have scaleSpelled := spellsExponent_bytes scale
  rw [Numeral.bytes, List.append_assoc, List.append_assoc]
  cases fraction with
  | none =>
      cases isNegative with
      | false => exact .positive areWhole .absent scaleSpelled
      | true => exact .negative areWhole .absent scaleSpelled
  | some digits =>
      have pointSpelled := SpellsFraction.present (point digits rfl)
      cases isNegative with
      | false => exact .positive areWhole pointSpelled scaleSpelled
      | true => exact .negative areWhole pointSpelled scaleSpelled

/-! ## Counts -/

theorem utf8_toString (value : Nat) :
    utf8 (toString value) = digitBytes (Nat.toDigits 10 value) := by
  have alone : ∀ digit ∈ Nat.toDigits 10 value,
      String.utf8EncodeChar digit = [UInt8.ofNat digit.toNat] := by
    intro digit present
    have bounds := toNat_bounds_of_isDigit (areDigitChars_toDigits value digit present)
    exact utf8EncodeChar_of_lt (by omega)
  rw [utf8_eq_flatMap, Nat.toString_eq_ofList_toDigits, String.toList_ofList,
    List.flatMap_congr alone, digitBytes, List.map_eq_flatMap]

theorem spellsNumeral_ofNat (value : Nat) :
    SpellsNumeral (.ofNat value) (Numeral.ofNat value).bytes := by
  refine spellsNumeral_bytes ?_ nofun nofun
  rw [Numeral.ofNat, utf8_toString]
  exact areWhole_toDigits value

/-- The numeral of a count is read as that count. -/
theorem coefficient_ofNat (value : Nat) : (Numeral.ofNat value).coefficient = value := by
  rw [Numeral.coefficient, Numeral.ofNat, Option.getD_none, List.append_nil, utf8_toString,
    digitsValue_digitBytes (areDigitChars_toDigits value), Nat.ofDigitChars_ten_toDigits]

/-! ## Decimals -/

/-- A decimal that stands for so many parts: its digits do not start with a zero, and with
so many zeros after them they are the digits of the parts. -/
structure CountsParts (decimal : Decimal) (parts zeros : Nat) : Prop where
  areDigits : AreDigitChars decimal.digits
  nonempty : decimal.digits ≠ []
  noZero : decimal.digits.head? ≠ some '0'
  point : decimal.point + Decimal.finestPlace = decimal.digits.length + zeros
  value : Nat.ofDigitChars 10 decimal.digits 0 * 10 ^ zeros = parts

/-- What is left without the zeros at the end, and how many there were. -/
theorem exists_zeros (digits : List Char) :
    ∃ zeros, digits =
      (digits.reverse.dropWhile (· == '0')).reverse ++ List.replicate zeros '0' := by
  have zeros : ∀ digit ∈ digits.reverse.takeWhile (· == '0'), digit = '0' := by
    intro digit present
    have zero := List.mem_takeWhile_imp present
    simpa using zero
  refine ⟨(digits.reverse.takeWhile (· == '0')).length, ?_⟩
  rw [← List.reverse_replicate, ← List.eq_replicate_of_mem zeros, ← List.reverse_append,
    List.takeWhile_append_dropWhile, List.reverse_reverse]

theorem exists_countsParts_ofParts
    (positive : 0 < parts) :
    ∃ zeros, CountsParts (Decimal.ofParts parts) parts zeros := by
  obtain ⟨zeros, split⟩ := exists_zeros (Nat.toDigits 10 parts)
  set significant := ((Nat.toDigits 10 parts).reverse.dropWhile (· == '0')).reverse with same
  have decimal : Decimal.ofParts parts =
      ⟨significant, ((Nat.toDigits 10 parts).length : Int) - Decimal.finestPlace⟩ := rfl
  have value : Nat.ofDigitChars 10 significant 0 * 10 ^ zeros = parts := by
    have all : Nat.ofDigitChars 10 (Nat.toDigits 10 parts) 0 = parts :=
      Nat.ofDigitChars_ten_toDigits
    rwa [split, Nat.ofDigitChars_append, Nat.ofDigitChars_replicate_zero, Nat.mul_comm] at all
  have nonempty : significant ≠ [] := by
    intro none
    rw [none, Nat.ofDigitChars_nil, Nat.zero_mul] at value
    exact positive.ne value
  have inside : ∀ digit ∈ significant, digit ∈ Nat.toDigits 10 parts := by
    intro digit present
    rw [split]
    exact List.mem_append_left _ present
  refine ⟨zeros, ?_⟩
  rw [decimal]
  refine ⟨fun digit present => areDigitChars_toDigits parts digit (inside digit present),
    nonempty, ?_, ?_, value⟩
  · have noZero := head?_toDigits_ne positive
    rwa [split, List.head?_append, Option.or_of_isSome (List.isSome_head?.mpr nonempty)] at noZero
  · have length := congrArg List.length split
    rw [List.length_append, List.length_replicate] at length
    rw [Int.sub_add_cancel, length]
    push_cast
    rfl

/-! ## Floating point numbers -/

namespace Numeral

/-- A numeral that stands for so many parts. -/
def ReadsAsParts (numeral : Numeral) (parts : Nat) : Prop :=
  ∃ places : Nat, numeral.power + Decimal.finestPlace = places ∧
    numeral.coefficient * 10 ^ places = parts

/-- Nothing but the parts decides which number is nearest. -/
theorem ReadsAsParts.nearestMagnitude_eq
    {numeral : Numeral}
    (reads : numeral.ReadsAsParts parts)
    (positive : 0 < parts)
    (small : parts < 10 ^ (Decimal.finestPlace + 400)) :
    numeral.nearestMagnitude =
      Binary64.nearestMagnitude parts (10 ^ Decimal.finestPlace) := by
  obtain ⟨places, shift, value⟩ := reads
  have scale := Decimal.finestScale_pos
  have some : 0 < numeral.coefficient :=
    Nat.pos_of_mul_pos_right (value ▸ positive)
  have few : places < Decimal.finestPlace + 400 := by
    apply (Nat.pow_lt_pow_iff_right (by decide : 1 < 10)).mp
    calc
      10 ^ places ≤ numeral.coefficient * 10 ^ places := Nat.le_mul_of_pos_left _ some
      _ < 10 ^ (Decimal.finestPlace + 400) := value ▸ small
  have finest : Decimal.finestPlace = 341 := rfl
  rw [Numeral.nearestMagnitude]
  simp only [Nat.pow_eq]
  -- neither of the sizes that are out of reach is met
  rw [if_neg (by omega), if_neg (by omega)]
  split_ifs with whole
  · apply Binary64.nearestMagnitude_congr one_pos scale
    obtain rfl : places = numeral.power.toNat + Decimal.finestPlace := by omega
    rw [← value, Nat.pow_add]
    ring
  · apply Binary64.nearestMagnitude_congr (Nat.pow_pos (by decide)) scale
    have finer : Decimal.finestPlace = places + (-numeral.power).toNat := by omega
    rw [← value, finer, Nat.pow_add]
    ring

end Numeral

theorem digitBytes_append (left right : List Char) :
    digitBytes (left ++ right) = digitBytes left ++ digitBytes right :=
  List.map_append

theorem AreDigitChars.append
    {left right : List Char}
    (areDigits : AreDigitChars left)
    (areDigits' : AreDigitChars right) :
    AreDigitChars (left ++ right) :=
  List.forall_mem_append.mpr ⟨areDigits, areDigits'⟩

theorem areDigitChars_zeros (count : Nat) : AreDigitChars (Decimal.zeros count) := by
  intro digit present
  rw [List.eq_of_mem_replicate present]
  rfl

/-- Zeros in front do not count. -/
theorem ofDigitChars_zeros_append (count : Nat) (digits : List Char) :
    Nat.ofDigitChars 10 (Decimal.zeros count ++ digits) 0 = Nat.ofDigitChars 10 digits 0 := by
  rw [Nat.ofDigitChars_append, Decimal.zeros, Nat.ofDigitChars_replicate_zero, Nat.mul_zero]

/-- Digits before and after a point that stand for so many parts. -/
structure PlacesPoint (sides : List Char × List Char) (parts : Nat) : Prop where
  areWhole : AreWhole (digitBytes sides.1)
  nonempty : sides.2 ≠ []
  areDigits : AreDigitChars (sides.1 ++ sides.2)
  value : ∃ places, places + sides.2.length = Decimal.finestPlace ∧
    Nat.ofDigitChars 10 (sides.1 ++ sides.2) 0 * 10 ^ places = parts

namespace CountsParts

variable {decimal : Decimal}

/-- The first digits, and what else is written before the point, do not start with a zero. -/
theorem areWhole_take
    (counts : CountsParts decimal parts zeros)
    (some : 0 < place)
    (further : List Char)
    (areDigits : AreDigitChars further) :
    AreWhole (digitBytes (decimal.digits.take place ++ further)) := by
  have noZero := counts.noZero
  have taken : AreDigitChars (decimal.digits.take place) :=
    fun digit present => counts.areDigits digit (List.mem_of_mem_take present)
  obtain ⟨place, rfl⟩ := Nat.exists_eq_add_one.mpr some
  obtain ⟨first, others, digits⟩ := List.exists_cons_of_ne_nil counts.nonempty
  rw [digits] at noZero taken ⊢
  exact areWhole_digitBytes (List.cons_ne_nil _ _) (taken.append areDigits) noZero

/-- All digits stand behind the point. -/
theorem placesPoint_front
    (counts : CountsParts decimal parts zeros)
    (front : decimal.point ≤ 0) :
    PlacesPoint (['0'], Decimal.zeros (-decimal.point).toNat ++ decimal.digits) parts := by
  have finest : Decimal.finestPlace = 341 := rfl
  have point := counts.point
  have areDigits := (areDigitChars_zeros (-decimal.point).toNat).append counts.areDigits
  refine ⟨areWhole_zero, List.append_ne_nil_of_right_ne_nil _ counts.nonempty,
    (areDigitChars_zeros 1).append areDigits, zeros, ?_, ?_⟩
  · rw [List.length_append, Decimal.zeros, List.length_replicate]
    omega
  · rw [show ['0'] = Decimal.zeros 1 from rfl, ofDigitChars_zeros_append,
      ofDigitChars_zeros_append, counts.value]

/-- The point stands between two digits. -/
theorem placesPoint_inside
    {place : Nat}
    (counts : CountsParts decimal parts zeros)
    (point : decimal.point = place)
    (some : 0 < place)
    (inside : place < decimal.digits.length) :
    PlacesPoint (decimal.digits.take place, decimal.digits.drop place) parts := by
  have shift := counts.point
  refine ⟨?_, ?_, ?_, zeros, ?_, ?_⟩
  · have areWhole := counts.areWhole_take some [] nofun
    rwa [List.append_nil] at areWhole
  · rw [ne_eq, List.drop_eq_nil_iff]
    omega
  · rw [List.take_append_drop]
    exact counts.areDigits
  · rw [List.length_drop]
    omega
  · rw [List.take_append_drop, counts.value]

/-- Zeros fill the places up to the point. -/
theorem placesPoint_beyond
    {place : Nat}
    (counts : CountsParts decimal parts zeros)
    (point : decimal.point = place)
    (some : 0 < place)
    (beyond : decimal.digits.length ≤ place) :
    PlacesPoint
      (decimal.digits.take place ++ Decimal.zeros (place - decimal.digits.length), ['0'])
      parts := by
  have shift := counts.point
  have filled := areDigitChars_zeros (place - decimal.digits.length)
  have taken : decimal.digits.take place = decimal.digits := List.take_of_length_le beyond
  refine ⟨counts.areWhole_take some _ filled, List.cons_ne_nil _ _, ?_,
    Decimal.finestPlace - 1, rfl, ?_⟩
  · rw [taken]
    exact (counts.areDigits.append filled).append (areDigitChars_zeros 1)
  · have places : zeros = place - decimal.digits.length + 1 + (Decimal.finestPlace - 1) := by
      have finest : Decimal.finestPlace = 341 := rfl
      omega
    rw [taken, ← counts.value, Nat.ofDigitChars_append, Nat.ofDigitChars_append,
      show ['0'] = List.replicate 1 '0' from rfl, Decimal.zeros,
      Nat.ofDigitChars_replicate_zero, Nat.ofDigitChars_replicate_zero, places,
      Nat.pow_add, Nat.pow_add]
    ring

/-- Wherever its point stands, a decimal around its point stands for its parts. -/
theorem placesPoint_positional
    (counts : CountsParts decimal parts zeros) :
    PlacesPoint decimal.positional parts := by
  rw [Decimal.positional]
  split_ifs with front
  · exact counts.placesPoint_front front
  obtain ⟨place, point⟩ := Int.eq_ofNat_of_zero_le (Int.not_le.mp front).le
  simp only [point, Int.toNat_natCast]
  have some : 0 < place := by omega
  rcases Nat.lt_or_ge place decimal.digits.length with inside | beyond
  · have behind : (decimal.digits.drop place).isEmpty = false := by
      rw [List.isEmpty_eq_false_iff, ne_eq, List.drop_eq_nil_iff]
      omega
    rw [behind, if_neg Bool.false_ne_true, Nat.sub_eq_zero_of_le inside.le, Decimal.zeros,
      List.replicate_zero, List.append_nil]
    exact counts.placesPoint_inside point some inside
  · rw [List.drop_eq_nil_of_le beyond, List.isEmpty_nil, if_pos rfl]
    exact counts.placesPoint_beyond point some beyond

end CountsParts

/-- A decimal around its point is a numeral, and stands for the same parts. -/
theorem positionalNumeral_reads
    {decimal : Decimal}
    (isNegative : Bool)
    (places : PlacesPoint decimal.positional parts) :
    SpellsNumeral (positionalNumeral isNegative decimal)
        (positionalNumeral isNegative decimal).bytes ∧
      (positionalNumeral isNegative decimal).ReadsAsParts parts := by
  obtain ⟨areWhole, nonempty, areDigits, places, shift, value⟩ := places
  obtain ⟨_, areDigits'⟩ := List.forall_mem_append.mp areDigits
  constructor
  · refine spellsNumeral_bytes areWhole ?_ nofun
    rintro _ ⟨⟩
    exact areDigits_digitBytes nonempty areDigits'
  · refine ⟨places, ?_, ?_⟩
    · have length : (digitBytes decimal.positional.2).length = decimal.positional.2.length :=
        List.length_map _
      simp only [positionalNumeral, Numeral.power, Option.getD_some, length]
      omega
    · simp only [positionalNumeral, Numeral.coefficient, Option.getD_some]
      rw [← digitBytes_append, digitsValue_digitBytes areDigits, value]

theorem coefficient_scientificNumeral
    {decimal : Decimal}
    (isNegative : Bool)
    (areDigits : AreDigitChars decimal.digits) :
    (scientificNumeral isNegative decimal).coefficient =
      Nat.ofDigitChars 10 decimal.digits 0 := by
  have fraction : (scientificNumeral isNegative decimal).fraction.getD [] =
      digitBytes (decimal.digits.drop 1) := by
    rw [scientificNumeral]
    cases decimal.digits.drop 1 <;> rfl
  rw [Numeral.coefficient, fraction, scientificNumeral, ← digitBytes_append,
    List.take_append_drop, digitsValue_digitBytes areDigits]

/-- The digits of the exponent and its sign are read as the exponent. -/
theorem power_scientificNumeral (isNegative : Bool) (decimal : Decimal) :
    (scientificNumeral isNegative decimal).power =
      decimal.exponent - (decimal.digits.drop 1).length := by
  have length : ((scientificNumeral isNegative decimal).fraction.getD []).length =
      (decimal.digits.drop 1).length := by
    rw [scientificNumeral]
    cases decimal.digits.drop 1 with
    | nil => rfl
    | cons => exact List.length_map _
  have digits := digitsValue_digitBytes (areDigitChars_toDigits decimal.exponent.natAbs)
  rw [Nat.ofDigitChars_ten_toDigits] at digits
  rw [Numeral.power, length, scientificNumeral]
  rcases Int.lt_or_le decimal.exponent 0 with negative | positive
  · simp only [negative, decide_true, digits]
    omega
  · simp only [Int.not_lt.mpr positive, decide_false, digits]
    omega

/-- A decimal with an exponent is a numeral, and stands for the same parts. -/
theorem scientificNumeral_reads
    {decimal : Decimal}
    (isNegative : Bool)
    (counts : CountsParts decimal parts zeros) :
    SpellsNumeral (scientificNumeral isNegative decimal)
        (scientificNumeral isNegative decimal).bytes ∧
      (scientificNumeral isNegative decimal).ReadsAsParts parts := by
  obtain ⟨first, others, digits⟩ := List.exists_cons_of_ne_nil counts.nonempty
  have shift := counts.point
  constructor
  · obtain ⟨isDigit, areDigits⟩ := List.forall_mem_cons.mp (digits ▸ counts.areDigits)
    have alone : AreWhole (digitBytes [first]) :=
      ⟨areDigits_digitBytes (List.cons_ne_nil _ _) (List.forall_mem_singleton.mpr isDigit),
        fun zero => congrArg ([·]) (Option.some.inj zero)⟩
    rw [scientificNumeral, digits]
    refine spellsNumeral_bytes alone ?_ ?_
    · cases others with
      | nil => nofun
      | cons second others =>
          rintro _ ⟨⟩
          exact areDigits_digitBytes (List.cons_ne_nil _ _) areDigits
    · rintro _ ⟨⟩
      exact areDigits_digitBytes Nat.toDigits_ne_nil (areDigitChars_toDigits _)
  · refine ⟨zeros, ?_, ?_⟩
    · rw [power_scientificNumeral, Decimal.exponent, digits, List.drop_one, List.tail_cons]
      rw [digits, List.length_cons] at shift
      omega
    · rw [coefficient_scientificNumeral isNegative counts.areDigits, counts.value]

/-- The numeral of a floating point number is spelled as it is written, and the magnitude
nearest to it is that of the number. -/
theorem ofBinary64_reads
    {number : Binary64}
    (finite : number.isFinite = true) :
    SpellsNumeral (.ofBinary64 number) (Numeral.ofBinary64 number).bytes ∧
      (Numeral.ofBinary64 number).nearestMagnitude = number.magnitude := by
  rcases Nat.eq_zero_or_pos number.magnitude with zero | positive
  · have written : Numeral.ofBinary64 number =
        ⟨number.isNegative, [0x30], some [0x30], none⟩ := by
      rw [Numeral.ofBinary64, Decimal.shortest, if_pos zero]
      rfl
    rw [written, zero]
    constructor
    · refine spellsNumeral_bytes areWhole_zero ?_ nofun
      rintro _ ⟨⟩
      exact areWhole_zero.1
    · rw [Numeral.nearestMagnitude]
      exact if_pos (.inl rfl)
  · have finite' : number.magnitude < Binary64.infiniteMagnitude := of_decide_eq_true finite
    obtain ⟨parts, decimal, contained⟩ := Decimal.exists_ofMagnitude_eq .even positive
    have some := Decimal.pos_of_contains positive contained
    have small := Decimal.lt_of_contains finite' contained
    have nearest := Decimal.nearestMagnitude_of_contains positive finite' contained
    obtain ⟨zeros, counts⟩ := exists_countsParts_ofParts some
    have shortest : Decimal.shortest .even number = Decimal.ofParts parts := by
      rw [Decimal.shortest, if_neg positive.ne', decimal]
    have written : SpellsNumeral (.ofBinary64 number) (Numeral.ofBinary64 number).bytes ∧
        (Numeral.ofBinary64 number).ReadsAsParts parts := by
      rw [Numeral.ofBinary64, shortest]
      split_ifs
      · exact positionalNumeral_reads _ counts.placesPoint_positional
      · exact scientificNumeral_reads _ counts
    exact ⟨written.1, (written.2.nearestMagnitude_eq some small).trans nearest⟩

theorem isNegative_ofBinary64 (number : Binary64) :
    (Numeral.ofBinary64 number).isNegative = number.isNegative := by
  rw [Numeral.ofBinary64]
  split_ifs <;> rfl

/-- Sign and magnitude make up a number. -/
theorem toNat_bits (number : Binary64) :
    number.bits.toNat =
      if number.isNegative then Binary64.signBit + number.magnitude else number.magnitude := by
  have range := number.bits.toNat_lt
  unfold Binary64.isNegative Binary64.magnitude Binary64.signBit
  split_ifs with negative
  · have := of_decide_eq_true negative
    omega
  · have := of_decide_eq_false (Bool.eq_false_iff.mpr negative)
    omega

/-- A finite floating point number is read back from what is written for it. -/
theorem toBinary64_ofBinary64
    {number : Binary64}
    (finite : number.isFinite = true) :
    (Numeral.ofBinary64 number).toBinary64 = number := by
  rw [Numeral.toBinary64, isNegative_ofBinary64, (ofBinary64_reads finite).2, ← toNat_bits,
    UInt64.ofNat_toNat]

end Json
end TransitLoad
