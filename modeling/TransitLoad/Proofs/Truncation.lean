import TransitLoad.Proofs.TypedDecoding

/-!
# Cut and extended bodies

A reader goes from left to right, so what it has read stays read when more bytes
are put behind the body.  Only a numeral can go on, and only where it ends with the
body.  A list or a record ends with its own closing bracket: so there is nothing to
be added to its body, or taken from it, but blanks.
-/

namespace TransitLoad
namespace Json

/-! ## Blanks -/

theorem areBlanks_of_dropBlanks
    (nothing : dropBlanks bytes = []) :
    AreBlanks bytes := by
  intro byte present
  have blank := List.dropWhile_eq_nil_iff.mp nothing byte present
  simpa only [isBlank, Bool.or_eq_true, beq_iff_eq, or_assoc] using blank

theorem dropBlanks_append_of_cons
    (found : dropBlanks input = byte :: rest)
    (more : List UInt8) :
    dropBlanks (input ++ more) = byte :: (rest ++ more) := by
  rw [dropBlanks] at found ⊢
  rw [List.dropWhile_append, found]
  rfl

/-! ## Numerals -/

/-- Digits are read up to the first byte that is none. -/
theorem readDigits?_eq_some
    (read : readDigits? input = some (digits, rest)) :
    input = digits ++ rest ∧ AreDigits digits ∧ ∀ byte ∈ rest.head?, isDigit byte = false := by
  rw [readDigits?] at read
  split at read
  next => cases read
  next other =>
    cases read
    refine ⟨List.takeWhile_append_dropWhile.symm, ⟨other, ?_⟩, ?_⟩
    · exact fun digit present => (isDigit_iff digit).mp (List.mem_takeWhile_imp present)
    · intro byte first
      have stops := List.head?_dropWhile_not isDigit input
      rw [Option.mem_def.mp first] at stops
      exact stops

theorem readDigits?_more
    (read : readDigits? input = some (digits, rest))
    (inside : rest ≠ [])
    (more : List UInt8) :
    readDigits? (input ++ more) = some (digits, rest ++ more) := by
  obtain ⟨rfl, areDigits, stops⟩ := readDigits?_eq_some read
  obtain ⟨byte, after, rfl⟩ := List.exists_cons_of_ne_nil inside
  rw [List.append_assoc]
  exact readDigits?_append areDigits stops

theorem readWhole?_more
    (read : readWhole? input = some (whole, rest))
    (inside : rest ≠ [])
    (more : List UInt8) :
    readWhole? (input ++ more) = some (whole, rest ++ more) := by
  rw [readWhole?.eq_def] at read
  split at read
  next =>
    cases read
    rfl
  next noZero =>
    rw [← readDigits?_more read inside more]
    apply readWhole?.eq_2
    intro tail same
    cases input with
    | nil => cases read
    | cons byte input => exact noZero input (congrArg (· :: input) (List.cons.inj same).1)

theorem readFraction?_more
    (read : readFraction? input = some (fraction, rest))
    (inside : rest ≠ [])
    (more : List UInt8) :
    input ≠ [] ∧ readFraction? (input ++ more) = some (fraction, rest ++ more) := by
  rw [readFraction?.eq_def] at read
  split at read
  next tail =>
    obtain ⟨⟨digits, left⟩, found, same⟩ := Option.map_eq_some_iff.mp read
    cases same
    refine ⟨List.cons_ne_nil _ _, ?_⟩
    rw [List.cons_append, readFraction?, readDigits?_more found inside more]
    rfl
  next noPoint =>
    cases read
    refine ⟨inside, readFraction?.eq_2 _ fun tail same => ?_⟩
    cases input with
    | nil => exact inside rfl
    | cons byte input => exact noPoint input (congrArg (· :: input) (List.cons.inj same).1)

theorem readSign_more
    (inside : input ≠ [])
    (more : List UInt8) :
    readSign (input ++ more) = ((readSign input).1, (readSign input).2 ++ more) := by
  cases input with
  | nil => exact absurd rfl inside
  | cons byte input =>
      rw [List.cons_append, readSign.eq_def, readSign.eq_def (byte :: input)]
      split
      next same => cases same; rfl
      next same => cases same; rfl
      next noMinus noPlus =>
        split
        next same => cases same; exact (noMinus _ rfl).elim
        next same => cases same; exact (noPlus _ rfl).elim
        next => rfl

theorem readExponent?_more
    (read : readExponent? input = some (exponent, rest))
    (inside : rest ≠ [])
    (more : List UInt8) :
    input ≠ [] ∧ readExponent? (input ++ more) = some (exponent, rest ++ more) := by
  cases input with
  | nil =>
      cases read
      exact absurd rfl inside
  | cons mark input =>
      refine ⟨List.cons_ne_nil _ _, ?_⟩
      rw [readExponent?] at read
      rw [List.cons_append, readExponent?]
      split at read
      next isMark =>
        obtain ⟨⟨digits, left⟩, found, same⟩ := Option.map_eq_some_iff.mp read
        cases same
        have found : readDigits? (readSign input).2 = some (digits, rest) := found
        have signed : input ≠ [] := by
          rintro rfl
          cases found
        rw [if_pos isMark, readSign_more signed]
        simp only [readDigits?_more found inside more, Option.map_some]
        rfl
      next noMark =>
        cases read
        exact if_neg noMark

theorem readUnsigned?_more
    (read : readUnsigned? isNegative input = some (numeral, rest))
    (inside : rest ≠ [])
    (more : List UInt8) :
    readUnsigned? isNegative (input ++ more) = some (numeral, rest ++ more) := by
  simp only [readUnsigned?, Option.bind_eq_bind, Option.bind_eq_some_iff, Prod.exists,
    Option.pure_def] at read
  obtain ⟨whole, afterWhole, wholeRead, fraction, afterPoint, pointRead, exponent, _, scaleRead,
    same⟩ := read
  cases same
  obtain ⟨afterPoint_ne, scale⟩ := readExponent?_more scaleRead inside more
  obtain ⟨afterWhole_ne, point⟩ := readFraction?_more pointRead afterPoint_ne more
  simp only [readUnsigned?, readWhole?_more wholeRead afterWhole_ne more, point, scale,
    Option.bind_eq_bind, Option.bind_some, Option.pure_def]

/-- A numeral ends where it did if some byte came after it. -/
theorem readNumeral?_more
    (read : readNumeral? input = some (numeral, rest))
    (inside : rest ≠ [])
    (more : List UInt8) :
    readNumeral? (input ++ more) = some (numeral, rest ++ more) := by
  rw [readNumeral?.eq_def] at read
  split at read
  next => exact readUnsigned?_more read inside more
  next noSign =>
    rw [← readUnsigned?_more read inside more]
    apply readNumeral?.eq_2
    intro tail same
    cases input with
    | nil => cases read
    | cons byte input => exact noSign input (congrArg (· :: input) (List.cons.inj same).1)

/-- A numeral begins with a digit or a sign. -/
theorem startsNumber_of_readNumeral?
    (read : readNumeral? (first :: others) = some result) :
    Reader.startsNumber first = true := by
  rw [startsNumber_iff]
  rw [readNumeral?.eq_def] at read
  split at read
  next same => exact .inl (List.cons.inj same).1
  next =>
    right
    rw [readUnsigned?] at read
    obtain ⟨⟨whole, left⟩, digits, _⟩ := Option.bind_eq_some_iff.mp read
    rw [readWhole?.eq_def] at digits
    split at digits
    next same =>
      rw [(List.cons.inj same).1]
      decide
    next =>
      obtain ⟨same, areDigits, _⟩ := readDigits?_eq_some digits
      obtain ⟨digit, more, rfl⟩ := List.exists_cons_of_ne_nil areDigits.1
      rw [(List.cons.inj same).1]
      exact areDigits.2 digit (List.mem_cons_self ..)

/-! ## Quoted texts and literals -/

theorem ne_of_escapedByte?
    (escaped : escapedByte? letter = some character) :
    letter ≠ 0x75 := by
  rintro rfl
  cases escaped

/-- A backslash and a letter that stands for one byte. -/
theorem readTextBytes?_escaped
    (escaped : escapedByte? letter = some character)
    (rest : List UInt8) :
    readTextBytes? (0x5c :: letter :: rest) =
      (readTextBytes? rest).map fun (text, rest) => (character :: text, rest) := by
  rw [readTextBytes?.eq_4 letter rest fun _ _ _ _ _ code _ => ne_of_escapedByte? escaped code,
    escaped]

theorem skipText?_escaped
    (escaped : escapedByte? letter = some character)
    (rest : List UInt8) :
    skipText? (0x5c :: letter :: rest) = skipText? rest := by
  rw [skipText?.eq_4 letter rest fun _ _ _ _ _ code _ => ne_of_escapedByte? escaped code,
    escaped]
  rfl

/-- A text ends with its closing quote. -/
theorem readTextBytes?_more
    (read : readTextBytes? input = some (text, rest))
    (more : List UInt8) :
    readTextBytes? (input ++ more) = some (text, rest ++ more) := by
  fun_induction readTextBytes? input generalizing text rest with
  | case1 => cases read
  | case2 => cases read; rfl
  | case3 | case4 | case6 | case7 | case8 | case10 | case12 => cases read
  | case5 a b c d high highUnit isHigh e f g h tail low lowUnit isLow number =>
      rename_i hypothesis
      obtain ⟨⟨others, left⟩, found, same⟩ := Option.map_eq_some_iff.mp read
      obtain ⟨rfl, rfl⟩ := Prod.mk.inj same
      simp only [List.cons_append, readTextBytes?, highUnit, isHigh, lowUnit, isLow, if_true,
        hypothesis found]
      rfl
  | case9 a b c d tail unit known noHigh noLow hypothesis =>
      obtain ⟨⟨others, left⟩, found, same⟩ := Option.map_eq_some_iff.mp read
      cases same
      simp only [List.cons_append, readTextBytes?, known, noHigh, noLow, hypothesis found]
      rfl
  | case11 letter tail _ character escaped hypothesis =>
      obtain ⟨⟨others, left⟩, found, same⟩ := Option.map_eq_some_iff.mp read
      cases same
      rw [List.cons_append, List.cons_append, readTextBytes?_escaped escaped, hypothesis found]
      rfl
  | case13 byte tail noQuote _ noEscape visible hypothesis =>
      obtain ⟨⟨others, left⟩, found, same⟩ := Option.map_eq_some_iff.mp read
      cases same
      have noBackslash : byte ≠ 0x5c := by
        rintro rfl
        cases tail with
        | nil => cases found
        | cons letter tail => exact noEscape letter tail rfl rfl
      have plain : ∀ other ∈ [byte], 0x20 ≤ other ∧ other ≠ 0x22 ∧ other ≠ 0x5c :=
        List.forall_mem_singleton.mpr ⟨UInt8.not_lt.mp visible, noQuote, noBackslash⟩
      rw [← List.singleton_append, List.append_assoc, readTextBytes?_plain plain,
        hypothesis found]
      rfl

theorem readText?_more
    (read : readText? input = some (text, rest))
    (more : List UInt8) :
    readText? (input ++ more) = some (text, rest ++ more) := by
  simp only [readText?, Option.bind_eq_bind, Option.bind_eq_some_iff, Prod.exists,
    Option.pure_def] at read
  obtain ⟨bytes, left, bytesRead, found, isText, same⟩ := read
  cases same
  simp only [readText?, readTextBytes?_more bytesRead more, isText, Option.bind_eq_bind,
    Option.bind_some, Option.pure_def]

/-- A text that nobody will use ends with its closing quote as well, unless the cut is
within the four bytes after a `u`: then no letter stands for the rest. -/
theorem skipText?_more
    (skipped : skipText? input = some rest)
    (more : List UInt8) :
    skipText? (input ++ more) = some (rest ++ more) := by
  fun_induction skipText? input generalizing rest with
  | case1 | case5 | case6 => cases skipped
  | case2 => cases skipped; rfl
  | case3 _ _ _ _ _ hypothesis => exact hypothesis skipped
  | case4 letter tail _ escaped hypothesis =>
      obtain ⟨character, escaped⟩ := Option.isSome_iff_exists.mp escaped
      rw [List.cons_append, List.cons_append, skipText?_escaped escaped, hypothesis skipped]
  | case7 byte tail noQuote _ noEscape visible hypothesis =>
      have noBackslash : byte ≠ 0x5c := by
        rintro rfl
        cases tail with
        | nil => cases skipped
        | cons letter tail => exact noEscape letter tail rfl rfl
      have plain : ∀ other ∈ [byte], 0x20 ≤ other ∧ other ≠ 0x22 ∧ other ≠ 0x5c :=
        List.forall_mem_singleton.mpr ⟨UInt8.not_lt.mp visible, noQuote, noBackslash⟩
      rw [← List.singleton_append, List.append_assoc, skipText?_plain plain, hypothesis skipped]

theorem readExactly?_more
    (read : readExactly? expected input = some rest)
    (more : List UInt8) :
    readExactly? expected (input ++ more) = some (rest ++ more) := by
  fun_induction readExactly? expected input with
  | case1 => cases read; rfl
  | case2 | case4 => cases read
  | case3 expected others byte rest same hypothesis =>
      rw [List.cons_append, readExactly?, if_pos same, hypothesis read]

end Json

namespace Reader

open Json

/-! ## Settled readers -/

theorem ok_of_bind
    {first : Except ε α}
    {next : α → Except ε β}
    (ok : (first >>= next) = .ok result) :
    ∃ value, first = .ok value ∧ next value = .ok result := by
  cases first with
  | error => cases ok
  | ok value => exact ⟨value, rfl, ok⟩

theorem orMalformed_eq_ok
    (ok : orMalformed token = .ok value) :
    token = some value := by
  cases token with
  | none => cases ok
  | some found => exact congrArg some (Except.ok.inj ok)

/-- Where the first reader comes to a value and leaves enough, the second one comes to
the same value on every longer body, and leaves the longer rest. -/
def AgreesOnward (enough : List UInt8 → Prop) (read read' : Reader α) : Prop :=
  ∀ ⦃input value rest⦄, read input = .ok (value, rest) → enough rest →
    ∀ more, read' (input ++ more) = .ok (value, rest ++ more)

/-- A reader that reads the same however the body goes on, once it leaves enough. -/
def IsSettled (enough : List UInt8 → Prop) (read : Reader α) : Prop :=
  AgreesOnward enough read read

namespace AgreesOnward

theorem mono
    {read read' : Reader α}
    (agrees : AgreesOnward enough read read')
    (stronger : ∀ rest, enough' rest → enough rest) :
    AgreesOnward enough' read read' :=
  fun _ _ _ found left => agrees found (stronger _ left)

/-- What is read may be changed, or refused, afterwards. -/
theorem changed
    {read read' : Reader α}
    (agrees : AgreesOnward enough read read')
    (change : α → Except DecodeError β) :
    AgreesOnward enough
      (fun input => read input >>= fun (value, rest) =>
        change value >>= fun value => .ok (value, rest))
      (fun input => read' input >>= fun (value, rest) =>
        change value >>= fun value => .ok (value, rest)) := by
  intro input result rest found inside more
  obtain ⟨⟨value, left⟩, first, found⟩ := ok_of_bind found
  obtain ⟨changed, change_eq, same⟩ := ok_of_bind found
  cases same
  simp only [agrees first inside more, ok_bind, change_eq]

/-- Some bytes may be passed over before. -/
theorem after
    {read read' : Reader α}
    {pass : List UInt8 → Except DecodeError (List UInt8)}
    (agrees : AgreesOnward enough read read')
    (passes : ∀ input rest, pass input = .ok rest →
      ∀ more, pass (input ++ more) = .ok (rest ++ more)) :
    AgreesOnward enough
      (fun input => pass input >>= read)
      (fun input => pass input >>= read') := by
  intro input value rest found inside more
  obtain ⟨left, passed, found⟩ := ok_of_bind found
  simp only [passes input left passed more, ok_bind, agrees found inside more]

/-- Passing over bytes is reading nothing. -/
theorem of_pass
    {pass pass' : List UInt8 → Except DecodeError (List UInt8)}
    (passes : ∀ input rest, pass input = .ok rest → enough rest →
      ∀ more, pass' (input ++ more) = .ok (rest ++ more))
    (state : σ) :
    AgreesOnward enough
      (fun input => pass input >>= fun rest => .ok (state, rest))
      (fun input => pass' input >>= fun rest => .ok (state, rest)) := by
  intro input value rest found inside more
  obtain ⟨left, passed, same⟩ := ok_of_bind found
  cases same
  simp only [passes input rest passed inside more, ok_bind]

end AgreesOnward

/-! ## Separators, names and items -/

theorem expect_eq_ok
    (found : expect byte input = .ok rest) :
    dropBlanks input = byte :: rest := by
  rw [expect] at found
  split at found
  next => cases found
  next first _ front =>
    split_ifs at found with same
    cases found
    rw [front, eq_of_beq same]

theorem expect_more
    (byte : UInt8)
    (input rest : List UInt8)
    (found : expect byte input = .ok rest)
    (more : List UInt8) :
    expect byte (input ++ more) = .ok (rest ++ more) := by
  rw [expect, dropBlanks_append_of_cons (expect_eq_ok found)]
  exact if_pos (beq_self_eq_true byte)

theorem readName_isSettled : IsSettled (fun _ => True) readName := by
  refine AgreesOnward.after (fun input text rest found _ more => ?_) (expect_more 0x22)
  rw [readText?_more (orMalformed_eq_ok found)]
  rfl

theorem skipName_more
    (input rest : List UInt8)
    (skipped : skipName input = .ok rest)
    (more : List UInt8) :
    skipName (input ++ more) = .ok (rest ++ more) := by
  obtain ⟨left, quoted, skipped⟩ := ok_of_bind skipped
  rw [skipName, expect_more 0x22 input left quoted, ok_bind, skipText?_more (orMalformed_eq_ok skipped)]
  rfl

/-- After each item there is a comma or the closing byte, so it is enough that the
items are settled where bytes are left. -/
theorem readMoreItems_more
    {item item' : σ → Reader σ}
    (settled : ∀ state, AgreesOnward (· ≠ []) (item state) (item' state))
    (read : readMoreItems closing item rounds state input = .ok (result, rest))
    (longer : rounds.length ≤ rounds'.length)
    (more : List UInt8) :
    readMoreItems closing item' rounds' state (input ++ more) = .ok (result, rest ++ more) := by
  induction rounds generalizing rounds' state input with
  | nil => cases read
  | cons round rounds hypothesis =>
      cases rounds' with
      | nil => cases longer
      | cons round' rounds' =>
          rw [readMoreItems] at read
          obtain ⟨⟨next, left⟩, first, onward⟩ := ok_of_bind read
          have inside : left ≠ [] := by
            rintro rfl
            cases onward
          rw [readMoreItems, settled state first inside more, ok_bind]
          simp only at onward ⊢
          cases front : dropBlanks left with
          | nil =>
              rw [front] at onward
              cases onward
          | cons byte after =>
              rw [front] at onward
              rw [dropBlanks_append_of_cons front]
              simp only at onward ⊢
              split_ifs at onward ⊢ with ends comma
              · cases onward
                rfl
              · exact hypothesis onward (Nat.le_of_succ_le_succ longer)

theorem readItems_agreesOnward
    {item item' : σ → Reader σ}
    (closing : UInt8)
    (settled : ∀ state, AgreesOnward (· ≠ []) (item state) (item' state))
    (state : σ) :
    AgreesOnward (fun _ => True) (readItems closing item state)
      (readItems closing item' state) := by
  intro input result rest read _ more
  rw [readItems] at read ⊢
  cases front : dropBlanks input with
  | nil =>
      rw [front] at read
      cases read
  | cons byte after =>
      rw [front] at read
      rw [dropBlanks_append_of_cons front]
      simp only at read ⊢
      split_ifs at read ⊢ with ends
      · cases read
        rfl
      · refine readMoreItems_more settled read ?_ more
        simp only [List.length_cons, List.length_append]
        omega

theorem readElements_isSettled
    {element : Reader α}
    (settled : IsSettled (· ≠ []) element) :
    IsSettled (fun _ => True) (readElements element) := by
  refine AgreesOnward.changed (readItems_agreesOnward 0x5d (fun elements => ?_) [])
    fun reversed => .ok reversed.reverse
  exact settled.changed fun value => .ok (value :: elements)

/-! ## Skipped values -/

/-- Items are passed over as before. -/
theorem skipItems_more
    {item item' : Reader Unit}
    (closing : UInt8)
    (settled : AgreesOnward (· ≠ []) item item')
    (skipped : (readItems closing (fun _ => item) () input >>=
      fun ((), rest) => .ok rest) = .ok rest)
    (more : List UInt8) :
    (readItems closing (fun _ => item') () (input ++ more) >>=
      fun ((), rest) => .ok rest) = .ok (rest ++ more) := by
  obtain ⟨⟨_, left⟩, items, same⟩ := ok_of_bind skipped
  cases same
  rw [readItems_agreesOnward closing (fun _ => settled) () items trivial more]
  rfl

/-- A value of any kind is passed over as before, also where there is room for deeper
nesting. -/
theorem skipNested_more
    (skipped : skipNested depth input = .ok rest)
    (inside : rest ≠ [])
    (deeper : depth.length ≤ depth'.length)
    (more : List UInt8) :
    skipNested depth' (input ++ more) = .ok (rest ++ more) := by
  induction depth generalizing depth' input rest more with
  | nil => cases skipped
  | cons mark depth hypothesis =>
      cases depth' with
      | nil => cases deeper
      | cons mark' depth' =>
          have deeper := Nat.le_of_succ_le_succ deeper
          have nested : AgreesOnward (· ≠ [])
              (fun input => skipNested depth input >>= fun rest => .ok ((), rest))
              (fun input => skipNested depth' input >>= fun rest => .ok ((), rest)) :=
            .of_pass (fun _ _ skipped inside => hypothesis skipped inside deeper) ()
          have member := (nested.after (expect_more 0x3a)).after skipName_more
          rw [skipNested] at skipped ⊢
          split at skipped
          next => cases skipped
          next front =>
            rw [dropBlanks_append_of_cons front]
            simp only [skipText?_more (orMalformed_eq_ok skipped) more]
            rfl
          next front =>
            rw [dropBlanks_append_of_cons front]
            exact skipItems_more 0x5d nested skipped more
          next front =>
            rw [dropBlanks_append_of_cons front]
            exact skipItems_more 0x7d member skipped more
          next front =>
            rw [dropBlanks_append_of_cons front]
            exact congrArg orMalformed (readExactly?_more (orMalformed_eq_ok skipped) more)
          next front =>
            rw [dropBlanks_append_of_cons front]
            exact congrArg orMalformed (readExactly?_more (orMalformed_eq_ok skipped) more)
          next front =>
            rw [dropBlanks_append_of_cons front]
            exact congrArg orMalformed (readExactly?_more (orMalformed_eq_ok skipped) more)
          next noBytes _ _ _ _ _ _ =>
            obtain ⟨⟨numeral, left⟩, found, same⟩ :=
              Option.map_eq_some_iff.mp (orMalformed_eq_ok skipped)
            cases same
            have longer := readNumeral?_more found inside more
            obtain ⟨byte, after, front⟩ := List.exists_cons_of_ne_nil noBytes
            rw [front] at found longer
            change skipNested (mark' :: depth') (input ++ more) = _
            rw [skipNested_number (startsNumber_of_readNumeral? found)
              (dropBlanks_append_of_cons front more)]
            exact congrArg (fun read => orMalformed (read.map (·.2))) longer

theorem skipValue_more
    (input rest : List UInt8)
    (skipped : skipValue input = .ok rest)
    (inside : rest ≠ [])
    (more : List UInt8) :
    skipValue (input ++ more) = .ok (rest ++ more) := by
  refine skipNested_more skipped inside ?_ more
  simp only [List.length_cons, List.length_append]
  omega

theorem skipMember_isSettled (state : σ) : IsSettled (· ≠ []) (skipMember state) :=
  (AgreesOnward.of_pass skipValue_more state).after (expect_more 0x3a)

/-! ## Used scalars -/

theorem readNumber_isSettled : IsSettled (· ≠ []) readNumber := by
  have numeral : IsSettled (· ≠ []) fun input => orMalformed (readNumeral? input) := by
    intro input numeral rest found inside more
    exact congrArg orMalformed (readNumeral?_more (orMalformed_eq_ok found) inside more)
  exact numeral.changed foundNumber

theorem refuse_ne_ok
    (expected : String)
    (input : List UInt8)
    (result : α) :
    refuse expected input ≠ .ok result := by
  intro accepted
  rw [refuse] at accepted
  cases found : readUnexpected input with
  | error => rw [found] at accepted; cases accepted
  | ok => rw [found] at accepted; cases accepted

theorem readUsedText_isSettled : IsSettled (fun _ => True) readUsedText := by
  intro input text rest read _ more
  rw [readUsedText] at read ⊢
  split at read
  next front =>
    rw [dropBlanks_append_of_cons front]
    simp only [readText?_more (orMalformed_eq_ok read) more]
    rfl
  next => exact absurd read (refuse_ne_ok _ _ _)

theorem readCount_isSettled : IsSettled (· ≠ []) readCount := by
  intro input count rest read inside more
  rw [readCount] at read ⊢
  cases front : dropBlanks input with
  | nil =>
      rw [front] at read
      cases read
  | cons byte after =>
      rw [front] at read
      rw [dropBlanks_append_of_cons front]
      simp only at read ⊢
      split_ifs at read ⊢ with starts
      · obtain ⟨⟨number, left⟩, found, onward⟩ := ok_of_bind read
        cases number with
        | integer value =>
            cases value with
            | ofNat value =>
                cases onward
                have longer := readNumber_isSettled found inside more
                rw [List.cons_append] at longer
                rw [longer]
                rfl
            | negSucc => cases onward
        | null | boolean | float | text | list | object => cases onward
      · exact absurd read (refuse_ne_ok _ _ _)

/-- Null or a value: the first byte tells, and nothing is read of no bytes. -/
theorem orNull_isSettled
    {read : Reader α}
    (settled : IsSettled (· ≠ []) read)
    (fails : ∀ result, read [] ≠ .ok result)
    (default : α) :
    IsSettled (· ≠ []) (orNull default read) := by
  intro input value rest found inside more
  rw [orNull] at found ⊢
  cases front : dropBlanks input with
  | nil =>
      rw [front] at found
      exact absurd found (fails _)
  | cons byte after =>
      rw [front] at found
      rw [dropBlanks_append_of_cons front]
      split at found
      next same =>
        cases same
        obtain ⟨left, null, same⟩ := ok_of_bind found
        cases same
        have longer := congrArg orMalformed (readExactly?_more (orMalformed_eq_ok null) more)
        exact congrArg (· >>= fun rest => .ok (default, rest)) longer
      next other =>
        split
        next same => exact (other after (congrArg (· :: after) (List.cons.inj same).1)).elim
        next => exact settled found inside more

end Reader

open Json Reader

/-! ## Shapes -/

/-- Whether a value of a shape goes on as long as its digits do. -/
def Shape.isCount : Shape → Bool
  | .count => true
  | .text | .list _ | .record _ _ => false

/-- The bytes behind a value that are enough to tell that it has ended: a count ends
where another byte comes, everything else ends by itself. -/
def Shape.EndsBefore (shape : Shape) (rest : List UInt8) : Prop :=
  shape.isCount = true → rest ≠ []

theorem Shape.endsBefore_of_ne_nil
    (shape : Shape)
    (rest : List UInt8)
    (inside : rest ≠ []) :
    shape.EndsBefore rest :=
  fun _ => inside

/-- Nothing is read of no bytes. -/
theorem Shape.read_nil_ne_ok
    (shape : Shape)
    (result : shape.Value × List UInt8) :
    shape.read [] ≠ .ok result := by
  cases shape <;> nofun

theorem Fields.readInOrder_nil_ne_ok
    (fields : Fields)
    (expected : String)
    (index : Nat)
    (result : fields.Values × List UInt8) :
    fields.readInOrder expected (index + 1) [] ≠ .ok result := by
  cases fields with
  | nil => nofun
  | cons name isRequired shape rest =>
      rw [Fields.readInOrder_cons]
      nofun

/-- The value of a field, which may be null unless the field is required. -/
theorem isSettled_field
    {read : Reader α}
    (settled : IsSettled (· ≠ []) read)
    (fails : ∀ result, read [] ≠ .ok result)
    (default : α)
    (isRequired : Bool) :
    IsSettled (· ≠ []) fun input =>
      if isRequired then read input else orNull default read input := by
  cases isRequired with
  | true => exact settled
  | false => exact orNull_isSettled settled fails default

theorem field_nil_ne_ok
    {read : Reader α}
    (fails : ∀ result, read [] ≠ .ok result)
    (default : α)
    (isRequired : Bool)
    (result : α × List UInt8) :
    (if isRequired then read [] else orNull default read []) ≠ .ok result := by
  cases isRequired with
  | true => exact fails result
  | false => exact fails result

/-- A field and those after it, once their readers are settled. -/
theorem Fields.readOnward_isSettled
    {shape : Shape}
    {others : Fields}
    (settled : IsSettled (· ≠ []) shape.read)
    (further : IsSettled (fun _ => True) (others.readInOrder expected (index + 1)))
    (isRequired : Bool) :
    IsSettled (fun _ => True) (others.readOnward shape isRequired expected index) := by
  have field := isSettled_field settled shape.read_nil_ne_ok shape.default isRequired
  intro input values rest read _ more
  obtain ⟨⟨value, left⟩, first, read⟩ := ok_of_bind read
  obtain ⟨⟨values, after⟩, later, same⟩ := ok_of_bind read
  cases same
  have inside : left ≠ [] := by
    rintro rfl
    exact others.readInOrder_nil_ne_ok expected index _ later
  have longer := field first inside more
  simp only at longer
  rw [Fields.readOnward, longer, ok_bind]
  simp only [further later trivial more, ok_bind]

mutual

/-- What is read of a shape stays read when the body goes on. -/
theorem Shape.read_isSettled (shape : Shape) : IsSettled shape.EndsBefore shape.read := by
  cases shape with
  | text => exact readUsedText_isSettled.mono fun _ _ => trivial
  | count => exact readCount_isSettled.mono fun _ ends => ends rfl
  | list element =>
      have settled := element.read_isSettled.mono element.endsBefore_of_ne_nil
      intro input value rest read _ more
      rw [Shape.read_list] at read ⊢
      split at read
      next front =>
        rw [dropBlanks_append_of_cons front]
        exact readElements_isSettled settled read trivial more
      next => exact absurd read (refuse_ne_ok _ _ _)
  | record name fields =>
      intro input values rest read _ more
      rw [Shape.read_record] at read ⊢
      split at read
      next front =>
        rw [dropBlanks_append_of_cons front]
        have member (found : fields.Partial) : IsSettled (· ≠ []) fun input =>
            readName input >>= fun (member, input) => fields.readMember member found input := by
          intro input found' rest read inside more
          obtain ⟨⟨member, left⟩, name, read⟩ := ok_of_bind read
          simp only [readName_isSettled name trivial more, ok_bind]
          exact fields.readMember_isSettled member found read inside more
        have object := (readItems_agreesOnward 0x7d member fields.blank).changed fields.complete
        exact object read trivial more
      next front =>
        rw [dropBlanks_append_of_cons front]
        exact fields.readInOrder_isSettled (fields.lengthExpectation name) 0 read trivial more
      next => exact absurd read (refuse_ne_ok _ _ _)

theorem Fields.readMember_isSettled
    (fields : Fields)
    (member : String)
    (found : fields.Partial) :
    IsSettled (· ≠ []) (fields.readMember member found) := by
  cases fields with
  | nil => exact skipMember_isSettled ()
  | cons name isRequired shape others =>
      obtain ⟨first, found⟩ := found
      by_cases same : member = name
      · subst same
        cases first with
        | some value =>
            intro input result rest read
            rw [others.readMember_again shape] at read
            cases read
        | none =>
            have settled := shape.read_isSettled.mono shape.endsBefore_of_ne_nil
            have field := isSettled_field settled shape.read_nil_ne_ok shape.default isRequired
            have named := (field.changed fun value => .ok (some value, found)).after
              (expect_more 0x3a)
            intro input result rest read inside more
            rw [others.readMember_first shape] at read ⊢
            exact named read inside more
      · intro input result rest read inside more
        rw [others.readMember_of_ne shape isRequired same] at read ⊢
        have settled := others.readMember_isSettled member found
        exact settled.changed (fun found => .ok (first, found)) read inside more

theorem Fields.readInOrder_isSettled
    (fields : Fields)
    (expected : String)
    (index : Nat) :
    IsSettled (fun _ => True) (fields.readInOrder expected index) := by
  cases fields with
  | nil =>
      have closed := AgreesOnward.of_pass
        (fun input rest found (_ : True) => expect_more 0x5d input rest found) ()
      exact closed
  | cons name isRequired shape others =>
      have settled := others.readInOrder_isSettled expected (index + 1)
      have onward := Fields.readOnward_isSettled
        (shape.read_isSettled.mono shape.endsBefore_of_ne_nil) settled isRequired
      intro input values rest read _ more
      rw [Fields.readInOrder_cons] at read ⊢
      cases front : dropBlanks input with
      | nil =>
          rw [front] at read
          obtain ⟨left, comma, read⟩ := ok_of_bind read
          split_ifs at comma with isFirst
          · cases comma
            obtain ⟨_, first, _⟩ := ok_of_bind read
            exact absurd first (field_nil_ne_ok shape.read_nil_ne_ok shape.default isRequired _)
          · cases comma
      | cons byte after =>
          rw [front] at read
          rw [dropBlanks_append_of_cons front]
          split at read
          next same =>
            cases same
            cases isRequired with
            | true => cases read
            | false =>
                obtain ⟨⟨values, left⟩, further, same⟩ := ok_of_bind read
                cases same
                have longer := settled further trivial more
                exact congrArg (· >>= fun (others, after) => .ok ((shape.default, others), after))
                  longer
          next noEnd =>
            split
            next same => exact (noEnd after (congrArg (· :: after) (List.cons.inj same).1)).elim
            next =>
              obtain ⟨left, comma, read⟩ := ok_of_bind read
              have longer := onward read trivial more
              split_ifs at comma ⊢ with isFirst
              · cases comma
                exact longer
              · rw [← List.cons_append, expect_more 0x2c _ left comma more]
                exact longer

end

/-! ## Bodies -/

theorem Shape.exists_read
    {shape : Shape}
    {value : shape.Value}
    (decoded : shape.decode body = .ok value) :
    ∃ rest, shape.read body = .ok (value, rest) ∧ AreBlanks rest := by
  obtain ⟨_, _, decoded⟩ := ok_of_bind decoded
  obtain ⟨⟨found, rest⟩, read, ends⟩ := ok_of_bind decoded
  simp only at ends
  cases blank : dropBlanks rest with
  | nil =>
      rw [blank] at ends
      cases ends
      exact ⟨rest, read, areBlanks_of_dropBlanks blank⟩
  | cons byte after =>
      rw [blank] at ends
      cases ends

/-- A body that is decoded cannot be decoded when anything but blanks is added. -/
theorem Shape.exists_error_of_append
    {shape : Shape}
    {value : shape.Value}
    (closed : shape.isCount = false)
    (decoded : shape.decode body = .ok value)
    (visible : ¬ AreBlanks more) :
    ∃ error, shape.decode (body ++ more) = .error error := by
  obtain ⟨rest, read, _⟩ := exists_read decoded
  have ends : shape.EndsBefore rest := fun count => nomatch closed.symm.trans count
  have longer := shape.read_isSettled read ends more
  cases again : shape.decode (body ++ more) with
  | error error => exact ⟨error, rfl⟩
  | ok value' =>
      obtain ⟨rest', read', blank⟩ := exists_read again
      cases longer.symm.trans read'
      exact absurd (fun byte present => blank byte (List.mem_append_right rest present)) visible

/-- A body that is decoded cannot be decoded when anything but blanks is cut off. -/
theorem Shape.exists_error_of_cut
    {shape : Shape}
    {value : shape.Value}
    (closed : shape.isCount = false)
    (decoded : shape.decode (front ++ back) = .ok value)
    (visible : ¬ AreBlanks back) :
    ∃ error, shape.decode front = .error error := by
  cases cut : shape.decode front with
  | error error => exact ⟨error, rfl⟩
  | ok value' =>
      obtain ⟨error, failed⟩ := exists_error_of_append closed cut visible
      cases failed.symm.trans decoded

/-- A lone count has no end of its own: what is left of it when it is cut is a count. -/
example : (Shape.count.decode (utf8 "12")).isOk ∧ (Shape.count.decode (utf8 "1")).isOk := by
  decide +kernel

theorem Shape.isCount_of_mem_responses : ∀ shape ∈ responses, shape.isCount = false := by
  decide

/-- Fetching fails with a decode error wherever this body is the answer. -/
def IsRejected (α : Type) [Document α] (body : List UInt8) : Prop :=
  ∀ (Note : Type) (api : Api) (url : Url) (trace : Activity.Trace Note),
    (api trace.requests.size url).reply = .body body →
      ∃ error, ((fetch (Document.decode α) url).alone api trace).1 =
        .error (.error (.decode url error))

theorem isRejected_of_error
    [Document α]
    (failed : (Document.shape α).decode body = .error error) :
    IsRejected α body := by
  intro Note api url trace reply
  refine ⟨error, ?_⟩
  rw [fetch, Activity.alone, Activity.alone]
  simp only [Answer.decoded, reply, Document.decode, failed]
  rfl

/-- A fetched document was decoded. -/
theorem exists_decoded_of_fetched
    [Document α]
    {api : Api}
    {trace : Activity.Trace Note}
    (reply : (api trace.requests.size url).reply = .body body)
    (accepted : ((fetch (Document.decode α) url).alone api trace).1 = .ok fetched) :
    ∃ value, (Document.shape α).decode body = .ok value := by
  rw [fetch, Activity.alone, Activity.alone] at accepted
  simp only [Answer.decoded, reply, Document.decode] at accepted
  cases decoded : (Document.shape α).decode body with
  | ok value => exact ⟨value, rfl⟩
  | error error =>
      rw [decoded] at accepted
      cases accepted

/-- A response that is fetched is a whole one: without some of its bytes, blanks at the
end apart, or with others behind it, it is rejected. -/
theorem isRejected_of_cut_or_extended
    [Document α]
    {api : Api}
    {trace : Activity.Trace Note}
    (known : Document.shape α ∈ Shape.responses)
    (reply : (api trace.requests.size url).reply = .body body)
    (accepted : ((fetch (Document.decode α) url).alone api trace).1 = .ok fetched) :
    (∀ front back, body = front ++ back → ¬ AreBlanks back → IsRejected α front) ∧
      ∀ more, ¬ AreBlanks more → IsRejected α (body ++ more) := by
  have closed := Shape.isCount_of_mem_responses _ known
  obtain ⟨value, decoded⟩ := exists_decoded_of_fetched reply accepted
  constructor
  · rintro front back rfl visible
    obtain ⟨error, failed⟩ := Shape.exists_error_of_cut closed decoded visible
    exact isRejected_of_error failed
  · intro more visible
    obtain ⟨error, failed⟩ := Shape.exists_error_of_append closed decoded visible
    exact isRejected_of_error failed

/-- A list with one route: a skipped text with an escape that is none, a letter of two
bytes, and a blank at the end. -/
def lenientBody : List UInt8 :=
  utf8 "[\x7b\"kind\":\"\\uzzzz\",\"href\":\"/ä\"\x7d] "

/-- Cut inside the skipped escape or inside the letter, or with a second bracket behind
it, the list is rejected. -/
theorem isRejected_of_cut_or_extended_lenientBody :
    Document.shape (List RouteSummary) ∈ Shape.responses ∧
      (∃ elapsed, ((fetch (Document.decode (List RouteSummary)) default).alone
          (fun _ _ => ⟨.zero, .body lenientBody⟩) (.empty : Activity.Trace WalkNote)).1 =
        .ok ⟨[⟨"", "/ä"⟩], elapsed⟩) ∧
      IsRejected (List RouteSummary) (lenientBody.take 13) ∧
      IsRejected (List RouteSummary) (lenientBody.take 28) ∧
      IsRejected (List RouteSummary) (lenientBody ++ [0x5d]) := by
  have known : Document.shape (List RouteSummary) ∈ Shape.responses :=
    List.mem_of_getElem? (i := 3) rfl
  have values : ((fetch (Document.decode (List RouteSummary)) default).alone
      (fun _ _ => ⟨.zero, .body lenientBody⟩)
        (.empty : Activity.Trace WalkNote)).1.toOption.map (·.value) = some [⟨"", "/ä"⟩] := by
    decide +kernel
  have accepted : ∃ elapsed, ((fetch (Document.decode (List RouteSummary)) default).alone
      (fun _ _ => ⟨.zero, .body lenientBody⟩) (.empty : Activity.Trace WalkNote)).1 =
        .ok ⟨[⟨"", "/ä"⟩], elapsed⟩ := by
    generalize Prod.fst _ = result at values
    obtain error | ⟨value, elapsed⟩ := result
    · cases values
    · cases values
      exact ⟨elapsed, rfl⟩
  have visible (count : Nat) (bracket : 0x5d ∈ lenientBody.drop count) :
      ¬ AreBlanks (lenientBody.drop count) :=
    fun blank => absurd (blank 0x5d bracket) (by decide)
  obtain ⟨elapsed, ok⟩ := accepted
  obtain ⟨cut, extended⟩ := isRejected_of_cut_or_extended known rfl ok
  refine ⟨known, ⟨elapsed, ok⟩, ?_, ?_, ?_⟩
  · exact cut _ _ (List.take_append_drop 13 _).symm (visible 13 (by decide +kernel))
  · exact cut _ _ (List.take_append_drop 28 _).symm (visible 28 (by decide +kernel))
  · exact extended _ fun blank => absurd (blank 0x5d List.mem_cons_self) (by decide)

end TransitLoad
