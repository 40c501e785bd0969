import Mathlib.Data.List.TakeWhile
import Mathlib.Tactic.IntervalCases
import TransitLoad.Proofs.JsonText

/-!
# Reading spelled tokens

The readers of tokens return what the bytes in front spell and leave what follows.
A numeral must end where it is spelled to end; a quoted text ends by itself.
-/

namespace TransitLoad
namespace Json

/-! ## Blanks -/

theorem AreBlanks.isBlank
    {bytes : List UInt8}
    (blank : AreBlanks bytes) :
    ∀ byte ∈ bytes, isBlank byte = true := by
  intro byte present
  rcases blank byte present with rfl | rfl | rfl | rfl <;> rfl

theorem dropBlanks_append
    (blank : AreBlanks bytes)
    (rest : List UInt8) :
    dropBlanks (bytes ++ rest) = dropBlanks rest :=
  List.dropWhile_append_of_pos blank.isBlank

theorem dropBlanks_eq_nil
    (blank : AreBlanks bytes) :
    dropBlanks bytes = [] :=
  List.dropWhile_eq_nil_iff.mpr blank.isBlank

theorem dropBlanks_cons
    (visible : isBlank byte = false)
    (rest : List UInt8) :
    dropBlanks (byte :: rest) = byte :: rest := by
  rw [dropBlanks, List.dropWhile_cons, visible]
  rfl

theorem AreBlanks.nil : AreBlanks [] := nofun

/-! ## Numerals -/

/-- Nothing that could carry on a numeral. -/
def EndsNumeral (rest : List UInt8) : Prop :=
  ∀ byte ∈ rest.head?, isDigit byte = false ∧ byte ≠ 0x2e ∧ byte ≠ 0x65 ∧ byte ≠ 0x45

theorem isDigit_iff (byte : UInt8) : isDigit byte = true ↔ 0x30 ≤ byte ∧ byte ≤ 0x39 := by
  simp [isDigit]

theorem readDigits?_append
    (areDigits : AreDigits digits)
    (ends : ∀ byte ∈ rest.head?, isDigit byte = false) :
    readDigits? (digits ++ rest) = some (digits, rest) := by
  have each : ∀ digit ∈ digits, isDigit digit = true :=
    fun digit present => (isDigit_iff digit).mpr (areDigits.2 digit present)
  have passed : rest.takeWhile isDigit = [] ∧ rest.dropWhile isDigit = rest := by
    cases rest with
    | nil => exact ⟨rfl, rfl⟩
    | cons byte rest => simp [ends byte rfl]
  rw [readDigits?, List.takeWhile_append_of_pos each, List.dropWhile_append_of_pos each,
    passed.1, passed.2, List.append_nil]
  cases digits with
  | nil => exact absurd rfl areDigits.1
  | cons => rfl

theorem AreDigits.exists_head
    (areDigits : AreDigits digits) :
    ∃ first others, digits = first :: others ∧ 0x30 ≤ first ∧ first ≤ 0x39 := by
  cases digits with
  | nil => exact absurd rfl areDigits.1
  | cons first others => exact ⟨first, others, rfl, areDigits.2 first List.mem_cons_self⟩

theorem readWhole?_append
    (areWhole : AreWhole whole)
    (ends : ∀ byte ∈ rest.head?, isDigit byte = false) :
    readWhole? (whole ++ rest) = some (whole, rest) := by
  obtain ⟨first, others, rfl, _⟩ := areWhole.1.exists_head
  by_cases zero : first = 0x30
  · subst zero
    obtain rfl : others = [] := (List.cons.inj (areWhole.2 rfl)).2
    rfl
  · rw [← readDigits?_append areWhole.1 ends]
    exact readWhole?.eq_2 _ fun tail same => zero (List.cons.inj same).1

theorem readFraction?_append
    (point : SpellsFraction fraction bytes)
    (ends : ∀ byte ∈ rest.head?, isDigit byte = false ∧ byte ≠ 0x2e) :
    readFraction? (bytes ++ rest) = some (fraction, rest) := by
  cases point with
  | absent =>
      apply readFraction?.eq_2
      rintro tail same
      exact (ends 0x2e (congrArg List.head? same)).2 rfl
  | present areDigits =>
      rw [List.cons_append, readFraction?,
        readDigits?_append areDigits fun byte first => (ends byte first).1]
      rfl

/-- Read an exponent after its letter and sign. -/
theorem readExponent?_of_mark
    (mark : letter = 0x65 ∨ letter = 0x45)
    (sign : readSign input = (isNegative, digits ++ rest))
    (areDigits : AreDigits digits)
    (ends : EndsNumeral rest) :
    readExponent? (letter :: input) = some (some ⟨isNegative, digits⟩, rest) := by
  have isMark : (letter == 0x65 || letter == 0x45) = true := by
    rcases mark with rfl | rfl <;> rfl
  rw [readExponent?, if_pos isMark, sign]
  simp only [readDigits?_append areDigits fun byte first => (ends byte first).1, Option.map_some]

theorem readExponent?_append
    (scale : SpellsExponent exponent bytes)
    (ends : EndsNumeral rest) :
    readExponent? (bytes ++ rest) = some (exponent, rest) := by
  cases scale with
  | absent =>
      cases rest with
      | nil => rfl
      | cons byte rest =>
          have other := ends byte rfl
          rw [List.nil_append, readExponent?, if_neg (by simp [other])]
  | @unsigned _ digits mark areDigits =>
      refine readExponent?_of_mark mark ?_ areDigits ends
      obtain ⟨first, others, rfl, low, _⟩ := areDigits.exists_head
      apply readSign.eq_3 <;>
      · rintro tail same
        rw [(List.cons.inj same).1] at low
        exact absurd low (by decide)
  | positive mark areDigits => exact readExponent?_of_mark mark rfl areDigits ends
  | negative mark areDigits => exact readExponent?_of_mark mark rfl areDigits ends

/-- What may follow the digits before a point. -/
theorem SpellsExponent.head
    (scale : SpellsExponent exponent bytes)
    (ends : EndsNumeral rest) :
    ∀ byte ∈ (bytes ++ rest).head?, isDigit byte = false ∧ byte ≠ 0x2e := by
  intro byte first
  cases scale with
  | absent => exact ⟨(ends byte first).1, (ends byte first).2.1⟩
  | unsigned mark | positive mark | negative mark =>
      obtain rfl := Option.some.inj first
      rcases mark with rfl | rfl <;> exact ⟨rfl, by decide⟩

theorem SpellsFraction.head
    (point : SpellsFraction fraction bytes)
    (ends : ∀ byte ∈ rest.head?, isDigit byte = false ∧ byte ≠ 0x2e) :
    ∀ byte ∈ (bytes ++ rest).head?, isDigit byte = false := by
  intro byte first
  cases point with
  | absent => exact (ends byte first).1
  | present =>
      obtain rfl := Option.some.inj first
      rfl

theorem readUnsigned?_append
    (areWhole : AreWhole whole)
    (point : SpellsFraction fraction fractionBytes)
    (scale : SpellsExponent exponent exponentBytes)
    (ends : EndsNumeral rest)
    (isNegative : Bool) :
    readUnsigned? isNegative (whole ++ (fractionBytes ++ exponentBytes) ++ rest) =
      some (⟨isNegative, whole, fraction, exponent⟩, rest) := by
  have afterPoint := scale.head ends
  have afterWhole := point.head afterPoint
  rw [List.append_assoc, List.append_assoc]
  simp only [readUnsigned?, readWhole?_append areWhole afterWhole, Option.bind_eq_bind,
    Option.bind_some, readFraction?_append point afterPoint, readExponent?_append scale ends,
    Option.pure_def]

theorem readNumeral?_append
    (spells : SpellsNumeral numeral bytes)
    (ends : EndsNumeral rest) :
    readNumeral? (bytes ++ rest) = some (numeral, rest) := by
  cases spells with
  | positive areWhole point scale =>
      rw [← readUnsigned?_append areWhole point scale ends false]
      obtain ⟨first, others, rfl, low, _⟩ := areWhole.1.exists_head
      apply readNumeral?.eq_2
      rintro tail same
      rw [(List.cons.inj same).1] at low
      exact absurd low (by decide)
  | negative areWhole point scale =>
      exact readUnsigned?_append areWhole point scale ends true

/-! ## Characters -/

theorem hexValue?_of_spells
    (spells : SpellsHex value byte) :
    value < 16 ∧ hexValue? byte = some value := by
  cases spells with
  | decimal small => interval_cases value <;> exact ⟨by decide, rfl⟩
  | @lower value small => interval_cases value <;> exact ⟨by decide, rfl⟩
  | @upper value small => interval_cases value <;> exact ⟨by decide, rfl⟩

theorem SpellsHex.lt
    (spells : SpellsHex value byte) :
    byte < 0x80 := by
  cases spells with
  | decimal small => interval_cases value <;> decide
  | @lower value small => interval_cases value <;> decide
  | @upper value small => interval_cases value <;> decide

theorem hexUnit?_of_spells
    (first : SpellsHex a a')
    (second : SpellsHex b b')
    (third : SpellsHex c c')
    (fourth : SpellsHex d d') :
    hexUnit? a' b' c' d' = some (((a * 16 + b) * 16 + c) * 16 + d) := by
  rw [hexUnit?, (hexValue?_of_spells first).2, (hexValue?_of_spells second).2,
    (hexValue?_of_spells third).2, (hexValue?_of_spells fourth).2]
  rfl

theorem isHighSurrogate_iff (unit : Nat) :
    isHighSurrogate unit = true ↔ 0xd800 ≤ unit ∧ unit ≤ 0xdbff := by
  simp only [isHighSurrogate, Bool.and_eq_true, decide_eq_true_eq]
  omega

theorem isLowSurrogate_iff (unit : Nat) :
    isLowSurrogate unit = true ↔ 0xdc00 ≤ unit ∧ unit ≤ 0xdfff := by
  simp only [isLowSurrogate, Bool.and_eq_true, decide_eq_true_eq]
  omega

theorem isSurrogate_of_high (high : 0xd800 ≤ unit ∧ unit ≤ 0xdbff) : IsSurrogate unit :=
  ⟨high.1, high.2.trans (by decide)⟩

theorem isSurrogate_of_low (low : 0xdc00 ≤ unit ∧ unit ≤ 0xdfff) : IsSurrogate unit :=
  ⟨le_trans (by decide) low.1, low.2⟩

theorem toNat_not_isSurrogate (character : Char) : ¬ IsSurrogate character.toNat := by
  have valid := character.valid
  simp only [IsSurrogate, UInt32.isValidChar, Nat.isValidChar, Char.toNat] at valid ⊢
  omega

/-- Half of a surrogate pair is spelled by its number. -/
theorem SpellsUnit.coded_of_isSurrogate
    (spells : SpellsUnit unit bytes)
    (surrogate : IsSurrogate unit) :
    ∃ a b c d, bytes = [0x5c, 0x75, a, b, c, d] ∧ hexUnit? a b c d = some unit := by
  cases spells with
  | plain character => exact absurd surrogate (toNat_not_isSurrogate character)
  | @escaped letter character known =>
      have small := character.toNat_lt
      have high := surrogate.1
      omega
  | coded first second third fourth =>
      exact ⟨_, _, _, _, rfl, hexUnit?_of_spells first second third fourth⟩

/-- The bytes of a character that needs no escape are no quote, no backslash and no
control character. -/
theorem plain_bytes
    {character : Char}
    (visible : 0x20 ≤ character.toNat)
    (noQuote : character.toNat ≠ 0x22)
    (noBackslash : character.toNat ≠ 0x5c) :
    ∀ byte ∈ String.utf8EncodeChar character, 0x20 ≤ byte ∧ byte ≠ 0x22 ∧ byte ≠ 0x5c := by
  have separate {value : Nat} (small : value < 256)
      (visible : 0x20 ≤ value) (noQuote : value ≠ 0x22) (noBackslash : value ≠ 0x5c) :
      0x20 ≤ UInt8.ofNat value ∧ UInt8.ofNat value ≠ 0x22 ∧ UInt8.ofNat value ≠ 0x5c := by
    simp only [UInt8.le_iff_toNat_le, ne_eq, ← UInt8.toNat_inj, UInt8.toNat_ofNat',
      UInt8.reduceToNat]
    omega
  intro byte present
  simp only [Char.toNat] at visible noQuote noBackslash
  simp only [String.utf8EncodeChar] at present
  split_ifs at present <;> simp only [List.mem_cons, List.not_mem_nil, or_false] at present
  · subst present
    exact separate (by omega) visible noQuote noBackslash
  · rcases present with rfl | rfl <;>
      exact separate (by omega) (by omega) (by omega) (by omega)
  · rcases present with rfl | rfl | rfl <;>
      exact separate (by omega) (by omega) (by omega) (by omega)
  · rcases present with rfl | rfl | rfl | rfl <;>
      exact separate (by omega) (by omega) (by omega) (by omega)

/-- Plain bytes are taken as they are. -/
theorem readTextBytes?_plain
    (plain : ∀ byte ∈ bytes, 0x20 ≤ byte ∧ byte ≠ 0x22 ∧ byte ≠ 0x5c)
    (rest : List UInt8) :
    readTextBytes? (bytes ++ rest) =
      (readTextBytes? rest).map fun (text, rest) => (bytes ++ text, rest) := by
  induction bytes with
  | nil => simp
  | cons byte bytes hypothesis =>
      obtain ⟨⟨visible, noQuote, noBackslash⟩, others⟩ := List.forall_mem_cons.mp plain
      rw [List.cons_append, readTextBytes?.eq_def]
      split
      next same => cases same
      next same => exact absurd (List.cons.inj same).1 noQuote
      next same => exact absurd (List.cons.inj same).1 noBackslash
      next same => exact absurd (List.cons.inj same).1 noBackslash
      next same =>
        obtain ⟨rfl, rfl⟩ := List.cons.inj same
        rw [if_neg (by simpa using visible), hypothesis others]
        cases readTextBytes? rest <;> rfl

theorem escapedByte?_of_mem
    (known : (letter, character) ∈ shortEscapes) :
    letter < 0x80 ∧ letter ≠ 0x75 ∧ escapedByte? letter = some character ∧
      characterBytes character.toNat = [character] := by
  simp only [shortEscapes, List.mem_cons, Prod.mk.injEq, List.not_mem_nil, or_false] at known
  rcases known with ⟨rfl, rfl⟩ | ⟨rfl, rfl⟩ | ⟨rfl, rfl⟩ | ⟨rfl, rfl⟩ | ⟨rfl, rfl⟩ | ⟨rfl, rfl⟩ |
    ⟨rfl, rfl⟩ | ⟨rfl, rfl⟩ <;> exact ⟨by decide, by decide, rfl, rfl⟩

/-- A whole character is read as its bytes. -/
theorem readTextBytes?_of_unit
    (spells : SpellsUnit unit bytes)
    (whole : ¬ IsSurrogate unit)
    (rest : List UInt8) :
    readTextBytes? (bytes ++ rest) =
      (readTextBytes? rest).map fun (text, rest) => (characterBytes unit ++ text, rest) := by
  cases spells with
  | plain character visible noQuote noBackslash =>
      rw [readTextBytes?_plain (plain_bytes visible noQuote noBackslash), characterBytes,
        Char.ofNat_toNat]
  | escaped known =>
      obtain ⟨_, noCode, escaped, bytes⟩ := escapedByte?_of_mem known
      rw [bytes, List.cons_append, List.cons_append, readTextBytes?.eq_def]
      split
      next same => cases same
      next same => cases same
      next same => exact absurd (List.cons.inj (List.cons.inj same).2).1 noCode
      next same =>
        obtain ⟨rfl, rfl⟩ := List.cons.inj (List.cons.inj same).2
        rw [escaped]
        rfl
      next other same =>
        exact (other _ _ (List.cons.inj same).1.symm (List.cons.inj same).2.symm).elim
  | coded first second third fourth =>
      have high : isHighSurrogate _ = false := Bool.eq_false_iff.mpr fun high =>
        whole (isSurrogate_of_high ((isHighSurrogate_iff _).mp high))
      have low : isLowSurrogate _ = false := Bool.eq_false_iff.mpr fun low =>
        whole (isSurrogate_of_low ((isLowSurrogate_iff _).mp low))
      simp only [List.cons_append, List.nil_append, readTextBytes?,
        hexUnit?_of_spells first second third fourth, high, low]
      rfl

/-- The two halves of a surrogate pair are read as one character. -/
theorem readTextBytes?_of_pair
    (first : SpellsUnit high highBytes)
    (second : SpellsUnit low lowBytes)
    (isHigh : 0xd800 ≤ high ∧ high ≤ 0xdbff)
    (isLow : 0xdc00 ≤ low ∧ low ≤ 0xdfff)
    (rest : List UInt8) :
    readTextBytes? (highBytes ++ (lowBytes ++ rest)) =
      (readTextBytes? rest).map fun (text, rest) =>
        (characterBytes (0x10000 + (high - 0xd800) * 0x400 + (low - 0xdc00)) ++ text, rest) := by
  obtain ⟨a, b, c, d, rfl, highUnit⟩ := first.coded_of_isSurrogate (isSurrogate_of_high isHigh)
  obtain ⟨e, f, g, h, rfl, lowUnit⟩ := second.coded_of_isSurrogate (isSurrogate_of_low isLow)
  simp only [List.cons_append, List.nil_append, readTextBytes?, highUnit, lowUnit,
    (isHighSurrogate_iff high).mpr isHigh, (isLowSurrogate_iff low).mpr isLow, if_true]

/-- What is read of a text without half a surrogate pair. -/
theorem readTextBytes?_append
    (spells : SpellsUnits units bytes)
    (whole : ∀ code ∈ joinPairs units, ¬ IsSurrogate code)
    (rest : List UInt8) :
    readTextBytes? (bytes ++ 0x22 :: rest) =
      some ((joinPairs units).flatMap characterBytes, rest) := by
  fun_induction joinPairs units generalizing bytes with
  | case1 high low units isPair hypothesis =>
      obtain _ | ⟨first, _ | ⟨second, spells⟩⟩ := spells
      rw [List.append_assoc, List.append_assoc,
        readTextBytes?_of_pair first second isPair.1 isPair.2,
        hypothesis spells (List.forall_mem_cons.mp whole).2]
      rfl
  | case2 high low units _ hypothesis =>
      obtain _ | ⟨first, spells⟩ := spells
      obtain ⟨alone, others⟩ := List.forall_mem_cons.mp whole
      rw [List.append_assoc, readTextBytes?_of_unit first alone, hypothesis spells others]
      rfl
  | case3 units few =>
      obtain _ | ⟨first, _ | ⟨_, _⟩⟩ := spells
      · rfl
      · rw [List.append_nil, readTextBytes?_of_unit first (whole _ List.mem_cons_self)]
        rfl
      · exact (few _ _ _ rfl).elim

/-- The text of characters given by their numbers. -/
def textOf (content : List Nat) : String := String.ofList (content.map Char.ofNat)

/-- Bytes that spell characters in UTF-8. -/
def AreUtf8 (bytes : List UInt8) : Prop :=
  ∃ characters : List Char, bytes = characters.flatMap String.utf8EncodeChar

theorem textOfUtf8?_flatMap (characters : List Char) :
    textOfUtf8? (characters.flatMap String.utf8EncodeChar) =
      some (String.ofList characters) := by
  have encoded : (⟨(characters.flatMap String.utf8EncodeChar).toArray⟩ : ByteArray) =
      (String.ofList characters).toByteArray := by
    rw [String.toByteArray_ofList, List.utf8Encode]
    exact ByteArray.ext List.data_toByteArray.symm
  rw [textOfUtf8?, encoded, String.fromUTF8?, dif_pos (String.ofList characters).isValidUTF8]
  rfl

theorem textOfUtf8?_characterBytes (content : List Nat) :
    textOfUtf8? (content.flatMap characterBytes) = some (textOf content) := by
  rw [textOf, ← textOfUtf8?_flatMap, List.flatMap_map]
  rfl

/-- What is read of a quoted text without half a surrogate pair. -/
theorem readText?_append
    (spells : SpellsUnits units bytes)
    (whole : ∀ code ∈ joinPairs units, ¬ IsSurrogate code)
    (rest : List UInt8) :
    readText? (bytes ++ 0x22 :: rest) = some (textOf (joinPairs units), rest) := by
  simp only [readText?, readTextBytes?_append spells whole, Option.bind_eq_bind,
    Option.bind_some, textOfUtf8?_characterBytes, Option.pure_def]

/-! ## Skipped texts -/

theorem skipText?_plain
    (plain : ∀ byte ∈ bytes, 0x20 ≤ byte ∧ byte ≠ 0x22 ∧ byte ≠ 0x5c)
    (rest : List UInt8) :
    skipText? (bytes ++ rest) = skipText? rest := by
  induction bytes with
  | nil => rfl
  | cons byte bytes hypothesis =>
      obtain ⟨⟨visible, noQuote, noBackslash⟩, others⟩ := List.forall_mem_cons.mp plain
      rw [List.cons_append, skipText?.eq_def]
      split
      next same => cases same
      next same => exact absurd (List.cons.inj same).1 noQuote
      next same => exact absurd (List.cons.inj same).1 noBackslash
      next same => exact absurd (List.cons.inj same).1 noBackslash
      next same =>
        obtain ⟨rfl, rfl⟩ := List.cons.inj same
        rw [if_neg (by simpa using visible), hypothesis others]

/-- Any quoted text is passed over up to its end. -/
theorem skipText?_append
    (spells : SpellsUnits units bytes)
    (rest : List UInt8) :
    skipText? (bytes ++ 0x22 :: rest) = some rest := by
  induction spells with
  | nil => rfl
  | cons first _ hypothesis =>
      rw [List.append_assoc]
      cases first with
      | plain character visible noQuote noBackslash =>
          rw [skipText?_plain (plain_bytes visible noQuote noBackslash), hypothesis]
      | coded =>
          rw [← hypothesis]
          rfl
      | escaped known =>
          obtain ⟨_, noCode, escaped, _⟩ := escapedByte?_of_mem known
          rw [List.cons_append, List.cons_append, skipText?.eq_def]
          split
          next same => cases same
          next same => cases same
          next same => exact absurd (List.cons.inj (List.cons.inj same).2).1 noCode
          next same =>
            obtain ⟨rfl, rfl⟩ := List.cons.inj (List.cons.inj same).2
            rw [escaped, List.nil_append, hypothesis]
            rfl
          next other same =>
            exact (other _ _ (List.cons.inj same).1.symm (List.cons.inj same).2.symm).elim

/-! ## Names -/

/-- The numbers of the characters of a text. -/
def codes (text : String) : List Nat := text.toList.map Char.toNat

theorem codes_injective (same : codes left = codes right) : left = right := by
  have inside := congrArg (List.map Char.ofNat) same
  have restored : Char.ofNat ∘ Char.toNat = id := funext Char.ofNat_toNat
  rwa [codes, codes, List.map_map, List.map_map, restored, List.map_id, List.map_id,
    String.toList_inj] at inside

theorem SpellsUnit.le
    (spells : SpellsUnit unit bytes) :
    unit ≤ 0x10ffff := by
  cases spells with
  | plain character =>
      have valid := character.valid
      simp only [UInt32.isValidChar, Nat.isValidChar, Char.toNat] at valid ⊢
      omega
  | @escaped letter character =>
      have small := character.toNat_lt
      omega
  | coded first second third fourth =>
      have first := (hexValue?_of_spells first).1
      have second := (hexValue?_of_spells second).1
      have third := (hexValue?_of_spells third).1
      have fourth := (hexValue?_of_spells fourth).1
      omega

theorem le_of_mem_joinPairs
    (spells : SpellsUnits units bytes) :
    ∀ code ∈ joinPairs units, code ≤ 0x10ffff := by
  fun_induction joinPairs units generalizing bytes with
  | case1 high low units isPair hypothesis =>
      obtain _ | ⟨_, _ | ⟨_, spells⟩⟩ := spells
      refine List.forall_mem_cons.mpr ⟨?_, hypothesis spells⟩
      omega
  | case2 high low units _ hypothesis =>
      obtain _ | ⟨first, spells⟩ := spells
      exact List.forall_mem_cons.mpr ⟨first.le, hypothesis spells⟩
  | case3 units few =>
      obtain _ | ⟨first, _ | ⟨_, _⟩⟩ := spells
      · nofun
      · exact List.forall_mem_cons.mpr ⟨first.le, nofun⟩
      · exact (few _ _ _ rfl).elim

theorem joinPairs_eq_self
    (whole : ∀ unit ∈ units, ¬ IsSurrogate unit) :
    joinPairs units = units := by
  fun_induction joinPairs units with
  | case1 high low units isPair =>
      exact (whole high (List.mem_cons_self ..) (isSurrogate_of_high isPair.1)).elim
  | case2 high low units _ hypothesis =>
      rw [hypothesis fun unit present => whole unit (List.mem_cons_of_mem _ present)]
  | case3 => rfl

/-- A text without quotes, backslashes and control characters can be spelled as it is. -/
theorem SpellsText.plainly
    {text : String}
    (plain : ∀ character ∈ text.toList,
      0x20 ≤ character.toNat ∧ character.toNat ≠ 0x22 ∧ character.toNat ≠ 0x5c) :
    SpellsText (codes text) (0x22 :: (text.toList.flatMap String.utf8EncodeChar ++ [0x22])) := by
  have units (characters : List Char) (plain : ∀ character ∈ characters,
      0x20 ≤ character.toNat ∧ character.toNat ≠ 0x22 ∧ character.toNat ≠ 0x5c) :
      SpellsUnits (characters.map Char.toNat)
        (characters.flatMap String.utf8EncodeChar) := by
    induction characters with
    | nil => exact .nil
    | cons character characters hypothesis =>
        obtain ⟨⟨visible, noQuote, noBackslash⟩, others⟩ := List.forall_mem_cons.mp plain
        exact .cons (.plain character visible noQuote noBackslash) (hypothesis others)
  have whole : joinPairs (codes text) = codes text :=
    joinPairs_eq_self <| List.forall_mem_map.mpr fun character _ =>
      toNat_not_isSurrogate character
  exact whole ▸ .quoted (units text.toList plain)

/-- Texts without half a surrogate pair are told apart by their characters. -/
theorem textOf_eq_iff
    (spells : SpellsText content bytes)
    (whole : ∀ code ∈ content, ¬ IsSurrogate code)
    (text : String) :
    textOf content = text ↔ content = codes text := by
  obtain @⟨units, _, inside⟩ := spells
  have numbered : ∀ code ∈ joinPairs units, (Char.ofNat code).toNat = code := by
    intro code present
    have high := le_of_mem_joinPairs inside code present
    have valid : code.isValidChar := by
      have noHalf := whole code present
      simp only [IsSurrogate, Nat.isValidChar] at noHalf ⊢
      omega
    rw [Char.ofNat, dif_pos valid]
    rfl
  constructor
  · rintro rfl
    rw [codes, textOf, String.toList_ofList, List.map_map]
    exact (List.map_congr_left numbered).trans (List.map_id _) |>.symm
  · intro same
    rw [same, textOf, codes, List.map_map]
    have restored : Char.ofNat ∘ Char.toNat = id := funext Char.ofNat_toNat
    rw [restored, List.map_id, String.ofList_toList]

/-! ## UTF-8 -/

namespace AreUtf8

theorem append
    (first : AreUtf8 bytes)
    (second : AreUtf8 more) :
    AreUtf8 (bytes ++ more) := by
  obtain ⟨characters, rfl⟩ := first
  obtain ⟨others, rfl⟩ := second
  exact ⟨characters ++ others, List.flatMap_append.symm⟩

/-- Bytes below 128 are characters themselves. -/
theorem of_lt
    (small : ∀ byte ∈ bytes, byte < 0x80) :
    AreUtf8 bytes := by
  induction bytes with
  | nil => exact ⟨[], rfl⟩
  | cons byte bytes hypothesis =>
      obtain ⟨first, others⟩ := List.forall_mem_cons.mp small
      have alone : AreUtf8 [byte] := by
        have short : byte.toUInt32 ≤ 127 :=
          UInt32.le_iff_toNat_le.mpr (Nat.le_of_lt_succ (UInt8.lt_iff_toNat_lt.mp first))
        have size : (Char.ofUInt8 byte).utf8Size = 1 := if_pos short
        refine ⟨[Char.ofUInt8 byte], ?_⟩
        rw [List.flatMap_singleton, String.utf8EncodeChar_eq_singleton size]
        exact congrArg ([·]) (UInt8.toUInt8_toUInt32 byte).symm
      exact alone.append (hypothesis others)

theorem of_blanks
    (blank : AreBlanks bytes) :
    AreUtf8 bytes :=
  of_lt fun byte present => by
    rcases blank byte present with rfl | rfl | rfl | rfl <;> decide

theorem of_digits
    (areDigits : AreDigits digits) :
    AreUtf8 digits :=
  of_lt fun digit present => by
    have low := (areDigits.2 digit present).2
    rw [UInt8.le_iff_toNat_le] at low
    exact UInt8.lt_iff_toNat_lt.mpr (low.trans_lt (by decide))

/-- A byte below 128 in front of UTF-8. -/
theorem cons
    (small : byte < 0x80)
    (rest : AreUtf8 bytes) :
    AreUtf8 (byte :: bytes) :=
  append (of_lt fun _ present => List.mem_singleton.mp present ▸ small) rest

/-- A byte below 128 after UTF-8. -/
theorem concat
    (rest : AreUtf8 bytes)
    (small : byte < 0x80) :
    AreUtf8 (bytes ++ [byte]) :=
  rest.append (cons small (of_lt nofun))

theorem of_fraction
    (point : SpellsFraction fraction bytes) :
    AreUtf8 bytes := by
  cases point with
  | absent => exact of_lt nofun
  | present areDigits => exact cons (by decide) (of_digits areDigits)

theorem of_exponent
    (scale : SpellsExponent exponent bytes) :
    AreUtf8 bytes := by
  cases scale with
  | absent => exact of_lt nofun
  | unsigned mark areDigits =>
      exact cons (by rcases mark with rfl | rfl <;> decide) (of_digits areDigits)
  | positive mark areDigits | negative mark areDigits =>
      exact cons (by rcases mark with rfl | rfl <;> decide)
        (cons (by decide) (of_digits areDigits))

theorem of_numeral
    (spells : SpellsNumeral numeral bytes) :
    AreUtf8 bytes := by
  cases spells with
  | positive areWhole point scale =>
      exact (of_digits areWhole.1).append ((of_fraction point).append (of_exponent scale))
  | negative areWhole point scale =>
      exact cons (by decide)
        ((of_digits areWhole.1).append ((of_fraction point).append (of_exponent scale)))

theorem of_units
    (spells : SpellsUnits units bytes) :
    AreUtf8 bytes := by
  induction spells with
  | nil => exact of_lt nofun
  | cons first _ hypothesis =>
      refine append ?_ hypothesis
      cases first with
      | plain character =>
          exact ⟨[character], (List.flatMap_singleton _ _).symm⟩
      | escaped known =>
          exact cons (by decide) (cons (escapedByte?_of_mem known).1 (of_lt nofun))
      | coded first second third fourth =>
          exact cons (by decide) (cons (by decide) (cons first.lt (cons second.lt
            (cons third.lt (cons fourth.lt (of_lt nofun))))))

theorem of_text
    (spells : SpellsText content bytes) :
    AreUtf8 bytes := by
  obtain ⟨inside⟩ := spells
  exact cons (by decide) (concat (of_units inside) (by decide))

theorem of_items
    {Item : α → List UInt8 → Prop}
    (each : ∀ value bytes, Item value bytes → AreUtf8 bytes)
    (items : SpellsItems Item values bytes) :
    AreUtf8 bytes := by
  induction items with
  | last before item after =>
      exact (of_blanks before).append ((each _ _ item).append (of_blanks after))
  | more before item after _ hypothesis =>
      exact (of_blanks before).append ((each _ _ item).append
        ((of_blanks after).append (cons (by decide) hypothesis)))

theorem of_spells
    (spells : Spells tree bytes) :
    AreUtf8 bytes := by
  have blanks {bytes : List UInt8} {opening closing : UInt8}
      (first : opening < 0x80) (last : closing < 0x80) (blank : AreBlanks bytes) :
      AreUtf8 (opening :: (bytes ++ [closing])) :=
    cons first (concat (of_blanks blank) last)
  refine Spells.induction (motive := fun _ bytes => AreUtf8 bytes)
    (of_lt (by simp)) (of_lt (by simp)) (of_lt (by simp))
    (fun _ _ => of_numeral) (fun _ _ => of_text)
    (fun _ => blanks (by decide) (by decide)) ?list
    (fun _ => blanks (by decide) (by decide)) ?object spells
  case list =>
    exact fun _ _ items =>
      cons (by decide) (concat (of_items (fun _ _ inside => inside) items) (by decide))
  case object =>
    intro _ _ items
    refine cons (by decide) (concat (of_items ?_ items) (by decide))
    rintro _ _ ⟨name, before, after, value⟩
    exact (of_text name).append ((of_blanks before).append
      (cons (by decide) ((of_blanks after).append value)))

/-- A whole text is UTF-8. -/
theorem of_body
    (spells : SpellsBody tree body) :
    AreUtf8 body := by
  obtain ⟨before, value, after⟩ := spells
  exact (of_blanks before).append ((of_spells value).append (of_blanks after))

end AreUtf8

end Json
end TransitLoad
