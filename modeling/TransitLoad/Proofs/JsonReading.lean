import TransitLoad.Decoding.Reader
import TransitLoad.Proofs.JsonTokens

/-!
# Reading spelled values

How a reader goes over what is spelled: it drops the blanks in front, tells values
apart by their first bytes, and goes from item to item up to a closing bracket.
Values that nobody will use are passed over whatever they are.
-/

namespace TransitLoad
namespace Json

open Reader

/-! ## First and last bytes -/

/-- The bytes that a value can start with. -/
def Tree.StartsWith : Tree → UInt8 → Prop
  | .null, first => first = 0x6e
  | .boolean true, first => first = 0x74
  | .boolean false, first => first = 0x66
  | .number _, first => startsNumber first = true
  | .text _, first => first = 0x22
  | .list _, first => first = 0x5b
  | .object _, first => first = 0x7b

/-- Nothing that could carry on a value. -/
def EndsValue (rest : List UInt8) : Prop :=
  ∀ byte ∈ rest.head?, isBlank byte = true ∨ byte = 0x2c ∨ byte = 0x5d ∨ byte = 0x7d

theorem startsNumber_iff (byte : UInt8) :
    startsNumber byte = true ↔ byte = 0x2d ∨ 0x30 ≤ byte ∧ byte ≤ 0x39 := by
  simp [startsNumber, isDigit]

/-- What starts a number starts nothing else. -/
theorem ne_of_startsNumber
    (starts : startsNumber byte = true)
    (other : startsNumber byte' = false) :
    byte ≠ byte' := by
  rintro rfl
  exact absurd starts (Bool.eq_false_iff.mp other)

theorem Tree.StartsWith.ne
    {tree : Tree}
    (starts : tree.StartsWith first)
    (other : byte = 0x2c ∨ byte = 0x3a ∨ byte = 0x5d ∨ byte = 0x7d) :
    isBlank first = false ∧ first ≠ byte := by
  have number : startsNumber first = true → isBlank first = false ∧ first ≠ byte := by
    intro starts
    refine ⟨?_, ?_⟩
    · rw [Bool.eq_false_iff]
      intro blank
      simp only [isBlank, Bool.or_eq_true, beq_iff_eq] at blank
      rcases blank with ((rfl | rfl) | rfl) | rfl <;> exact absurd starts (by decide)
    · rcases other with rfl | rfl | rfl | rfl <;> exact ne_of_startsNumber starts rfl
  cases tree with
  | null | text | list | object =>
      cases starts
      rcases other with rfl | rfl | rfl | rfl <;> exact ⟨rfl, by decide⟩
  | boolean value =>
      cases value <;> cases starts <;>
        rcases other with rfl | rfl | rfl | rfl <;> exact ⟨rfl, by decide⟩
  | number => exact number starts

theorem SpellsNumeral.exists_head
    (spells : SpellsNumeral numeral bytes) :
    ∃ first others, bytes = first :: others ∧ startsNumber first = true := by
  cases spells with
  | positive areWhole =>
      obtain ⟨first, others, rfl, small⟩ := areWhole.1.exists_head
      exact ⟨first, _, rfl, (startsNumber_iff first).mpr (.inr small)⟩
  | negative => exact ⟨_, _, rfl, rfl⟩

theorem Spells.exists_head
    (spells : Spells tree bytes) :
    ∃ first others, bytes = first :: others ∧ tree.StartsWith first := by
  cases spells with
  | number numeral => exact numeral.exists_head
  | text text =>
      obtain ⟨_⟩ := text
      exact ⟨_, _, rfl, rfl⟩
  | null | yes | no | emptyList | list | emptyObject | object => exact ⟨_, _, rfl, rfl⟩

/-- The blanks in front of a value are dropped. -/
theorem dropBlanks_spelled
    (before : AreBlanks left)
    (spells : Spells tree bytes)
    (rest : List UInt8) :
    dropBlanks (left ++ (bytes ++ rest)) = bytes ++ rest := by
  obtain ⟨first, others, rfl, starts⟩ := spells.exists_head
  rw [dropBlanks_append before, List.cons_append,
    dropBlanks_cons (starts.ne (.inl rfl)).1]

namespace EndsValue

theorem nil : EndsValue [] := nofun

theorem cons
    (ends : byte = 0x2c ∨ byte = 0x5d ∨ byte = 0x7d)
    (rest : List UInt8) :
    EndsValue (byte :: rest) :=
  fun _ first => Option.some.inj first ▸ .inr ends

theorem append
    (blank : AreBlanks bytes)
    (ends : EndsValue rest) :
    EndsValue (bytes ++ rest) := by
  cases bytes with
  | nil => exact ends
  | cons byte bytes =>
      exact fun _ first => Option.some.inj first ▸ .inl (blank.isBlank byte List.mem_cons_self)

theorem endsNumeral
    (ends : EndsValue rest) :
    EndsNumeral rest := by
  intro byte first
  rcases ends byte first with blank | rfl | rfl | rfl
  · simp only [isBlank, Bool.or_eq_true, beq_iff_eq] at blank
    rcases blank with ((rfl | rfl) | rfl) | rfl <;> decide
  all_goals decide

end EndsValue

/-! ## Items -/

namespace SpellsItems

variable {Item : α → List UInt8 → Prop}

theorem length_le
    (items : SpellsItems Item values bytes) :
    values.length ≤ bytes.length + 1 := by
  induction items with
  | last => exact Nat.le_add_left _ _
  | more _ _ _ _ hypothesis =>
      simp only [List.length_append, List.length_cons]
      omega

/-- Every item is at most as long as all of them. -/
theorem bounded
    (items : SpellsItems Item values bytes)
    (short : bytes.length ≤ length) :
    SpellsItems (fun value bytes => Item value bytes ∧ bytes.length ≤ length)
      values bytes := by
  induction items with
  | last before item after =>
      simp only [List.length_append] at short
      exact .last before ⟨item, by omega⟩ after
  | more before item after rest hypothesis =>
      simp only [List.length_append, List.length_cons] at short
      exact .more before ⟨item, by omega⟩ after (hypothesis (by omega))

/-- The items without the blanks in front of the first one. -/
theorem exists_trimmed
    (items : SpellsItems Item values bytes) :
    ∃ left value item rest, AreBlanks left ∧ bytes = left ++ (item ++ rest) ∧
      Item value item ∧ SpellsItems Item values (item ++ rest) := by
  cases items with
  | last before item after =>
      exact ⟨_, _, _, _, before, rfl, item, .last AreBlanks.nil item after⟩
  | more before item after rest =>
      exact ⟨_, _, _, _, before, rfl, item, .more AreBlanks.nil item after rest⟩

end SpellsItems
end Json

namespace Reader

open Json

/-- What a reader gives: the value that is there to be read and the bytes after it,
or an error if there is none. -/
inductive Reads (rest : List UInt8) : Except DecodeError (α × List UInt8) → Option α → Prop where
  | found (value : α) : Reads rest (.ok (value, rest)) (some value)
  | failed (error : DecodeError) : Reads rest (.error error) none

namespace Reads

theorem bind
    {result : Except DecodeError (α × List UInt8)}
    {next : α × List UInt8 → Except DecodeError (β × List UInt8)}
    {next' : α → Option β}
    (reads : Reads middle result expected)
    (onward : ∀ value, Reads rest (next (value, middle)) (next' value)) :
    Reads rest (result >>= next) (expected >>= next') := by
  cases reads with
  | found value => exact onward value
  | failed error => exact .failed error

theorem map
    {result : Except DecodeError (α × List UInt8)}
    (reads : Reads rest result expected)
    (change : α → β) :
    Reads rest (result >>= fun (value, rest) => .ok (change value, rest))
      (expected.map change) := by
  cases reads with
  | found value => exact .found (change value)
  | failed error => exact .failed error

theorem eq_ok
    {result : Except DecodeError (α × List UInt8)}
    (reads : Reads rest result (some value)) :
    result = .ok (value, rest) := by
  cases reads
  rfl

theorem of_ok
    {result : Except DecodeError (α × List UInt8)}
    (ok : result = .ok (value, rest)) :
    Reads rest result (some value) :=
  ok ▸ .found value

end Reads

/-- A list or an object is read item by item, and fails with the first one. -/
theorem reads_readMoreItems
    {Item : α → List UInt8 → Prop}
    {item : σ → Reader σ}
    {take : σ → α → Option σ}
    (closes : closing = 0x5d ∨ closing = 0x7d)
    (items : SpellsItems Item values bytes)
    (reads : ∀ value ∈ values, ∀ state left bytes rest,
      Item value bytes → AreBlanks left → EndsValue rest →
        Reads rest (item state (left ++ (bytes ++ rest))) (take state value))
    (rest rounds : List UInt8)
    (enough : values.length ≤ rounds.length)
    (state : σ) :
    Reads rest (readMoreItems closing item rounds state (bytes ++ closing :: rest))
      (values.foldlM take state) := by
  have visible : isBlank closing = false := by rcases closes with rfl | rfl <;> rfl
  have noComma : (0x2c == closing) = false := by rcases closes with rfl | rfl <;> rfl
  have ends : EndsValue (closing :: rest) := .cons (.inr closes) rest
  induction items generalizing rounds state with
  | @last _ value bytes right before spelled after =>
      cases rounds with
      | nil => exact absurd enough (by simp)
      | cons _ rounds =>
          rw [List.append_assoc, List.append_assoc, List.foldlM_cons, readMoreItems]
          refine (reads value List.mem_cons_self state _ _ _ spelled before
            (ends.append after)).bind fun state => ?_
          simp only [dropBlanks_append after, dropBlanks_cons visible, beq_self_eq_true, if_true]
          exact .found state
  | @more _ value bytes right values further before spelled after items hypothesis =>
      cases rounds with
      | nil => exact absurd enough (by simp)
      | cons _ rounds =>
          rw [List.append_assoc, List.append_assoc, List.append_assoc, List.foldlM_cons,
            readMoreItems]
          refine (reads value List.mem_cons_self state _ _ _ spelled before
            (.append after (.cons (.inl rfl) _))).bind fun state => ?_
          have comma : isBlank 0x2c = false := rfl
          simp only [dropBlanks_append after, dropBlanks_cons comma, noComma, beq_self_eq_true,
            if_true, Bool.false_eq_true, if_false]
          exact hypothesis (fun value present => reads value (List.mem_cons_of_mem _ present))
            rounds (Nat.le_of_succ_le_succ enough) state

theorem reads_readItems
    {Item : α → List UInt8 → Prop}
    {item : σ → Reader σ}
    {take : σ → α → Option σ}
    (closes : closing = 0x5d ∨ closing = 0x7d)
    (items : SpellsItems Item values bytes)
    (starts : ∀ value bytes, Item value bytes →
      ∃ first others, bytes = first :: others ∧ isBlank first = false ∧ first ≠ closing)
    (reads : ∀ value ∈ values, ∀ state left bytes rest,
      Item value bytes → AreBlanks left → EndsValue rest →
        Reads rest (item state (left ++ (bytes ++ rest))) (take state value))
    (state : σ)
    (rest : List UInt8) :
    Reads rest (readItems closing item state (bytes ++ closing :: rest))
      (values.foldlM take state) := by
  obtain ⟨left, value, spelled, further, before, rfl, front, items⟩ := items.exists_trimmed
  obtain ⟨first, others, rfl, visible, other⟩ := starts value spelled front
  have noEnd : (first == closing) = false := beq_eq_false_iff_ne.mpr other
  rw [readItems, List.append_assoc, dropBlanks_append before]
  simp only [List.cons_append, dropBlanks_cons visible, noEnd]
  refine reads_readMoreItems closes items reads rest _ ?_ state
  have few := items.length_le
  simp only [List.length_cons, List.length_append, List.cons_append] at few ⊢
  omega

theorem readItems_blank
    {item : σ → Reader σ}
    (closes : closing = 0x5d ∨ closing = 0x7d)
    (blank : AreBlanks bytes)
    (state : σ)
    (rest : List UInt8) :
    readItems closing item state (bytes ++ closing :: rest) = .ok (state, rest) := by
  have visible : isBlank closing = false := by rcases closes with rfl | rfl <;> rfl
  simp only [readItems, dropBlanks_append blank, dropBlanks_cons visible,
    beq_self_eq_true, if_true]

/-! ## Names and separators -/

theorem expect_append
    (before : AreBlanks left)
    (visible : isBlank byte = false)
    (rest : List UInt8) :
    expect byte (left ++ byte :: rest) = .ok rest := by
  simp only [expect, dropBlanks_append before, dropBlanks_cons visible, beq_self_eq_true, if_true]

theorem expect_of_ne
    (before : AreBlanks left)
    (visible : isBlank first = false)
    (other : first ≠ byte)
    (rest : List UInt8) :
    expect byte (left ++ first :: rest) = .error .malformed := by
  have differs : (first == byte) = false := beq_eq_false_iff_ne.mpr other
  simp only [expect, dropBlanks_append before, dropBlanks_cons visible, differs]
  rfl

theorem readName_append
    (before : AreBlanks left)
    (spells : SpellsText content bytes)
    (whole : ∀ code ∈ content, ¬ IsSurrogate code)
    (rest : List UInt8) :
    readName (left ++ (bytes ++ rest)) = .ok (textOf content, rest) := by
  obtain ⟨inside⟩ := spells
  rw [readName, List.cons_append, expect_append before rfl, ok_bind, List.append_assoc,
    List.singleton_append, readText?_append inside whole]
  rfl

theorem skipName_append
    (before : AreBlanks left)
    (spells : SpellsText content bytes)
    (rest : List UInt8) :
    skipName (left ++ (bytes ++ rest)) = .ok rest := by
  obtain ⟨inside⟩ := spells
  rw [skipName, List.cons_append, expect_append before rfl, ok_bind, List.append_assoc,
    List.singleton_append, skipText?_append inside]
  rfl

/-! ## Skipping -/

/-- A value that is passed over where there is room for its nesting. -/
def Skips (bytes : List UInt8) : Prop :=
  ∀ depth left rest, bytes.length ≤ List.length depth → AreBlanks left → EndsValue rest →
    skipNested depth (left ++ (bytes ++ rest)) = .ok rest

/-- A value that is passed over and that can be told by its first byte. -/
def SkipsHeaded (tree : Tree) (bytes : List UInt8) : Prop :=
  (∃ first others, bytes = first :: others ∧ tree.StartsWith first) ∧ Skips bytes

/-- A value that begins as a number does is passed over as a numeral. -/
theorem skipNested_number
    (starts : startsNumber first = true)
    (front : dropBlanks input = first :: others)
    (mark : UInt8)
    (depth : List UInt8) :
    skipNested (mark :: depth) input =
      orMalformed ((readNumeral? (first :: others)).map (·.2)) := by
  have other {byte : UInt8} {tail : List UInt8} (noNumber : startsNumber byte = false)
      (same : first :: others = byte :: tail) : False :=
    ne_of_startsNumber starts noNumber (List.cons.inj same).1
  rw [skipNested, front]
  split
  next same => cases same
  next same => exact (other rfl same).elim
  next same => exact (other rfl same).elim
  next same => exact (other rfl same).elim
  next same => exact (other rfl same).elim
  next same => exact (other rfl same).elim
  next same => exact (other rfl same).elim
  next => rfl

theorem skips_numeral
    (spells : SpellsNumeral numeral bytes) :
    Skips bytes := by
  intro depth left rest room before ends
  have read := readNumeral?_append spells ends.endsNumeral
  have front := dropBlanks_spelled before (.number spells) rest
  obtain ⟨first, others, rfl, starts⟩ := spells.exists_head
  cases depth with
  | nil => exact absurd room (by simp)
  | cons mark depth =>
      rw [skipNested_number starts front]
      exact congrArg (fun read => orMalformed (read.map (·.2))) read

/-- Passing over a value: what comes after its first byte decides. -/
theorem skips_of
    (first : UInt8)
    (visible : isBlank first = false)
    (after : ∀ mark depth rest, others.length ≤ List.length depth → EndsValue rest →
      skipNested (mark :: depth) (first :: (others ++ rest)) = .ok rest) :
    Skips (first :: others) := by
  intro depth left rest room before ends
  cases depth with
  | nil => exact absurd room (by simp)
  | cons mark depth =>
      have started := after mark depth rest (Nat.le_of_succ_le_succ room) ends
      rw [skipNested, dropBlanks_cons visible] at started
      rw [skipNested, dropBlanks_append before, List.cons_append, dropBlanks_cons visible]
      exact started

theorem skips_text
    (spells : SpellsText content bytes) :
    Skips bytes := by
  obtain ⟨inside⟩ := spells
  refine skips_of 0x22 rfl fun mark depth rest _ _ => ?_
  rw [List.append_assoc, List.singleton_append]
  change orMalformed (skipText? _) = _
  rw [skipText?_append inside]
  rfl

theorem skipNested_list (mark : UInt8) (depth input : List UInt8) :
    skipNested (mark :: depth) (0x5b :: input) =
      readItems 0x5d (fun _ input => return ((), ← skipNested depth input)) () input >>=
        fun ((), rest) => .ok rest := rfl

theorem skipNested_object (mark : UInt8) (depth input : List UInt8) :
    skipNested (mark :: depth) (0x7b :: input) =
      readItems 0x7d (fun _ input => do
        let input ← skipName input
        let input ← expect 0x3a input
        return ((), ← skipNested depth input)) () input >>=
        fun ((), rest) => .ok rest := rfl

/-- Passing over all items of a list or an object. -/
theorem readItems_skipped
    {Item : α → List UInt8 → Prop}
    (item : Unit → Reader Unit)
    (closes : closing = 0x5d ∨ closing = 0x7d)
    (items : SpellsItems Item values bytes)
    (starts : ∀ value bytes, Item value bytes →
      ∃ first others, bytes = first :: others ∧ isBlank first = false ∧ first ≠ closing)
    (skips : ∀ value left bytes rest, Item value bytes → AreBlanks left → EndsValue rest →
      item () (left ++ (bytes ++ rest)) = .ok ((), rest))
    (rest : List UInt8) :
    readItems closing item () (bytes ++ closing :: rest) = .ok ((), rest) := by
  have all : values.foldlM (fun _ _ => some ()) () = some () := by
    generalize values = values
    induction values with
    | nil => rfl
    | cons _ _ hypothesis => exact hypothesis
  apply Reads.eq_ok
  rw [← all]
  refine reads_readItems closes items starts ?_ () rest
  exact fun value _ _ left bytes rest spelled before ends =>
    .of_ok (skips value left bytes rest spelled before ends)

theorem skips_list
    (items : SpellsItems SkipsHeaded elements bytes) :
    Skips (0x5b :: (bytes ++ [0x5d])) := by
  refine skips_of 0x5b rfl fun mark depth rest room _ => ?_
  have short : bytes.length ≤ depth.length := le_trans (by simp) room
  rw [List.append_assoc, List.singleton_append, skipNested_list,
    readItems_skipped _ (.inl rfl) (items.bounded short) ?_ ?_ rest]
  · rfl
  · rintro tree bytes ⟨⟨⟨first, others, rfl, starts⟩, _⟩, _⟩
    exact ⟨first, others, rfl, starts.ne (.inr (.inr (.inl rfl)))⟩
  · rintro tree left bytes rest ⟨⟨_, skips⟩, short⟩ before ends
    rw [skips depth left rest short before ends]
    rfl

theorem skips_object
    (items : SpellsItems (SpellsMember SkipsHeaded) members bytes) :
    Skips (0x7b :: (bytes ++ [0x7d])) := by
  refine skips_of 0x7b rfl fun mark depth rest room _ => ?_
  have short : bytes.length ≤ depth.length := le_trans (by simp) room
  rw [List.append_assoc, List.singleton_append, skipNested_object,
    readItems_skipped _ (.inr rfl) (items.bounded short) ?_ ?_ rest]
  · rfl
  · rintro _ _ ⟨⟨⟨_⟩, _, _, _⟩, _⟩
    exact ⟨_, _, rfl, rfl, by decide⟩
  · rintro _ left _ rest ⟨⟨name, between, after, ⟨_, skips⟩⟩, short⟩ before ends
    simp only [List.length_append, List.length_cons] at short
    simp only [List.append_assoc, List.cons_append]
    rw [skipName_append before name, ok_bind, expect_append between rfl, ok_bind,
      skips depth _ rest (by omega) after ends]
    rfl

/-- Every value is passed over. -/
theorem skips_of_spells
    (spells : Spells tree bytes) :
    Skips bytes := by
  have literal {first : UInt8} {others : List UInt8} (visible : isBlank first = false)
      (read : ∀ mark depth rest,
        skipNested (mark :: depth) (first :: (others ++ rest)) = .ok rest) :
      Skips (first :: others) :=
    skips_of first visible fun mark depth rest _ _ => read mark depth rest
  have empty {first last : UInt8} {bytes : List UInt8} (visible : isBlank first = false)
      (read : ∀ mark depth rest,
        skipNested (mark :: depth) (first :: (bytes ++ last :: rest)) = .ok rest) :
      Skips (first :: (bytes ++ [last])) :=
    literal visible fun mark depth rest => by
      rw [List.append_assoc, List.singleton_append, read]
  refine (Spells.induction (motive := SkipsHeaded)
    ⟨⟨_, _, rfl, rfl⟩, literal rfl fun _ _ _ => rfl⟩
    ⟨⟨_, _, rfl, rfl⟩, literal rfl fun _ _ _ => rfl⟩
    ⟨⟨_, _, rfl, rfl⟩, literal rfl fun _ _ _ => rfl⟩
    (fun _ _ spells => ⟨spells.exists_head, skips_numeral spells⟩)
    ?text ?emptyList ?list ?emptyObject ?object spells).2
  case text =>
    exact fun content bytes spells => ⟨(Spells.text spells).exists_head, skips_text spells⟩
  case emptyList =>
    refine fun bytes blank => ⟨⟨_, _, rfl, rfl⟩, empty rfl fun mark depth rest => ?_⟩
    rw [skipNested_list, readItems_blank (.inl rfl) blank]
    rfl
  case list => exact fun elements bytes items => ⟨⟨_, _, rfl, rfl⟩, skips_list items⟩
  case emptyObject =>
    refine fun bytes blank => ⟨⟨_, _, rfl, rfl⟩, empty rfl fun mark depth rest => ?_⟩
    rw [skipNested_object, readItems_blank (.inr rfl) blank]
    rfl
  case object => exact fun members bytes items => ⟨⟨_, _, rfl, rfl⟩, skips_object items⟩

theorem skipValue_append
    (before : AreBlanks left)
    (spells : Spells tree bytes)
    (ends : EndsValue rest) :
    skipValue (left ++ (bytes ++ rest)) = .ok rest := by
  refine skips_of_spells spells _ left rest ?_ before ends
  simp only [List.length_cons, List.length_append]
  omega

end Reader
end TransitLoad
