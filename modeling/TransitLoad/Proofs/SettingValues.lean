import Mathlib.Tactic.SplitIfs
import TransitLoad.Settings.Arguments

/-!
# Values of settings

The texts that every flag accepts and the values that they stand for, described apart from
the readers: a URL, a path that is not empty, or decimal digits, perhaps after a plus sign.
The readers accept exactly these texts and give exactly these values, and settings are
read from the texts of their flags one by one.
-/

namespace TransitLoad

/-! ## Values -/

/-- Decimal digits, perhaps after a plus sign, stand for the number they spell. -/
def DenotesCount (text : String) (count : UInt64) : Prop :=
  ∃ digits : List Char, digits ≠ [] ∧ (∀ digit ∈ digits, digit.isDigit = true) ∧
    (text.toList = digits ∨ text.toList = '+' :: digits) ∧
    count.toNat = Nat.ofDigitChars 10 digits 0

namespace Flag

/-- The values of the setting that a flag is for. -/
def Value : Flag → Type
  | .baseUrl => Url
  | .output => Option String
  | _ => UInt64

/-- The value that a text stands for. -/
def Denotes : (flag : Flag) → String → flag.Value → Prop
  | .baseUrl, text, url => Url.parse text = .ok url
  | .output, text, path => text ≠ "" ∧ path = some text
  | .duration, text, count | .maxConcurrency, text, count | .minSpawnDelay, text, count
  | .maxSpawnDelay, text, count | .minActionPause, text, count | .maxActionPause, text, count
  | .seed, text, count | .requestTimeout, text, count | .tickInterval, text, count =>
      DenotesCount text count

/-- Whether a text stands for a value at all. -/
def Accepts (flag : Flag) (text : String) : Prop := ∃ value, flag.Denotes text value

end Flag

/-- The setting that a flag is for. -/
def Settings.setting (settings : Settings) : (flag : Flag) → flag.Value
  | .baseUrl => settings.baseUrl
  | .duration => settings.durationSeconds
  | .maxConcurrency => settings.maxConcurrency
  | .minSpawnDelay => settings.minSpawnDelay
  | .maxSpawnDelay => settings.maxSpawnDelay
  | .minActionPause => settings.minActionPause
  | .maxActionPause => settings.maxActionPause
  | .seed => settings.seed
  | .requestTimeout => settings.requestTimeout
  | .tickInterval => settings.tickInterval
  | .output => settings.output

theorem le_ofDigitChars
    (digits : List Char)
    (value : Nat) :
    value ≤ Nat.ofDigitChars 10 digits value := by
  rw [Nat.ofDigitChars_eq_ofDigitChars_zero]
  exact Nat.le_trans (Nat.le_mul_of_pos_left value (Nat.pow_pos (Nat.succ_pos 9)))
    (Nat.le_add_right _ _)

theorem readDigits_eq_ok_iff
    (digits : List Char)
    (value : Nat)
    (small : value < UInt64.size)
    (count : UInt64) :
    readDigits digits value = .ok count ↔
      (∀ digit ∈ digits, digit.isDigit = true) ∧
        count.toNat = Nat.ofDigitChars 10 digits value := by
  induction digits generalizing value with
  | nil =>
      have reached : (UInt64.ofNat value).toNat = value := by
        rw [UInt64.toNat_ofNat', Nat.mod_eq_of_lt small]
      rw [readDigits, Except.ok.injEq, ← UInt64.toNat_inj, reached, Nat.ofDigitChars_nil]
      exact ⟨fun same => ⟨nofun, same.symm⟩, fun same => same.2.symm⟩
  | cons digit digits hypothesis =>
      rw [readDigits, List.forall_mem_cons, Nat.ofDigitChars_cons, Nat.mul_comm 10]
      dsimp only
      split_ifs with isDigit fits
      · rw [hypothesis _ fits]
        exact ⟨fun ⟨others, same⟩ => ⟨⟨isDigit, others⟩, same⟩,
          fun ⟨⟨_, others⟩, same⟩ => ⟨others, same⟩⟩
      · -- The number only grows with further digits, and a count stays below the bound.
        refine ⟨nofun, fun ⟨_, same⟩ => absurd ?_ fits⟩
        exact Nat.lt_of_le_of_lt (same ▸ le_ofDigitChars digits _) count.toNat_lt
      · exact ⟨nofun, fun ⟨⟨yes, _⟩, _⟩ => absurd yes isDigit⟩

/-- The numbers that are read are the ones that are denoted. -/
theorem readNumber_eq_ok_iff
    (text : String)
    (count : UInt64) :
    readNumber text = .ok count ↔ DenotesCount text count := by
  have noDigit : ('+' : Char).isDigit = false := rfl
  rw [readNumber, DenotesCount]
  split
  next empty =>
    rw [empty]
    exact ⟨nofun, fun ⟨_, filled, _, same, _⟩ =>
      same.elim (fun same => absurd same.symm filled) nofun⟩
  next alone =>
    rw [alone]
    refine ⟨nofun, fun ⟨digits, filled, each, same, _⟩ => ?_⟩
    rcases same with rfl | same
    · exact absurd (each '+' List.mem_cons_self) (by simp [noDigit])
    · exact absurd (List.cons.inj same).2.symm filled
  next digits some signed =>
    rw [signed, readDigits_eq_ok_iff digits 0 (by decide)]
    constructor
    · rintro ⟨each, same⟩
      exact ⟨digits, some, each, .inr rfl, same⟩
    · rintro ⟨_, _, each, rfl | same, value⟩
      · exact absurd (each '+' List.mem_cons_self) (by simp [noDigit])
      · obtain rfl := (List.cons.inj same).2
        exact ⟨each, value⟩
  next some _ unsigned =>
    rw [readDigits_eq_ok_iff _ 0 (by decide)]
    constructor
    · rintro ⟨each, same⟩
      exact ⟨text.toList, some, each, .inl rfl, same⟩
    · rintro ⟨digits, _, each, rfl | same, value⟩
      · exact ⟨each, value⟩
      · exact absurd same (unsigned digits)

/-! ## Reading values -/

namespace Flag

/-- A text stands for one value only. -/
theorem Denotes.unique
    {flag : Flag}
    {left right : flag.Value}
    (denotes : flag.Denotes text left)
    (denotes' : flag.Denotes text right) :
    left = right := by
  have count {left right : UInt64} (denotes : DenotesCount text left)
      (denotes' : DenotesCount text right) : left = right :=
    Except.ok.inj (((readNumber_eq_ok_iff text left).mpr denotes).symm.trans
      ((readNumber_eq_ok_iff text right).mpr denotes'))
  cases flag with
  | baseUrl => exact Except.ok.inj (denotes.symm.trans denotes')
  | output => exact denotes.2.trans denotes'.2.symm
  | duration | maxConcurrency | minSpawnDelay | maxSpawnDelay | minActionPause | maxActionPause
  | seed | requestTimeout | tickInterval => exact count denotes denotes'

/-- What a setting is for the text of its flag; without a text it has its default. -/
structure Takes (flag : Flag) (text? : Option String) (value : flag.Value) : Prop where
  given : ∀ text, text? = some text → flag.Denotes text value
  missing : text? = none → value = Settings.defaults.setting flag

theorem Takes.unique
    {flag : Flag}
    {left right : flag.Value}
    (takes : flag.Takes text? left)
    (takes' : flag.Takes text? right) :
    left = right := by
  cases text? with
  | none => exact (takes.missing rfl).trans (takes'.missing rfl).symm
  | some text => exact (takes.given text rfl).unique (takes'.given text rfl)

end Flag

namespace Settings

theorem denotesCount_toString (count : UInt64) : DenotesCount (toString count) count := by
  refine ⟨Nat.toDigits 10 count.toNat, Nat.toDigits_ne_nil,
    fun _ => Nat.isDigit_of_mem_toDigits (by decide) (by decide), .inl ?_,
    Nat.ofDigitChars_ten_toDigits.symm⟩
  rw [show toString count = toString count.toNat from rfl, Nat.toString_eq_ofList_toDigits,
    String.toList_ofList]

/-- Every default is what its text stands for. -/
theorem denotes_defaultText
    (flag : Flag)
    (text : String)
    (known : defaultText? flag = some text) :
    flag.Denotes text (defaults.setting flag) := by
  cases flag with
  | baseUrl =>
      obtain rfl := Option.some.inj known
      exact (rfl : Url.parse defaultBaseUrlText = .ok defaults.baseUrl)
  | output => exact nomatch known
  | duration | maxConcurrency | minSpawnDelay | maxSpawnDelay | minActionPause | maxActionPause
  | seed | requestTimeout | tickInterval =>
      obtain rfl := Option.some.inj known
      exact denotesCount_toString _

end Settings

end TransitLoad
