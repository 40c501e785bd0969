import TransitLoad.Proofs.JsonReading

/-!
# Bytes spell one tree only

No two different trees are spelled by the same bytes.  Where a token or a value ends is
told by passing over it, whatever it is: two values in front of the same bytes, each with
nothing behind it that could carry it on, end at the same place.  So items are told apart
one after the other, and equal bytes of one item spell equal values.
-/

namespace TransitLoad
namespace Json

open Reader

/-! ## Blanks in front -/

/-- What follows blanks and starts with none is told by dropping them. -/
theorem append_inj_of_blanks
    (blank : AreBlanks left)
    (blank' : AreBlanks left')
    (visible : isBlank byte = false)
    (visible' : isBlank byte' = false)
    (same : left ++ byte :: rest = left' ++ byte' :: rest') :
    byte :: rest = byte' :: rest' := by
  have dropped := congrArg dropBlanks same
  rwa [dropBlanks_append blank, dropBlanks_append blank', dropBlanks_cons visible,
    dropBlanks_cons visible'] at dropped

/-! ## Tokens -/

theorem SpellsNumeral.unique
    (spells : SpellsNumeral numeral bytes)
    (spells' : SpellsNumeral numeral' bytes) :
    numeral' = numeral := by
  have ends : EndsNumeral [] := nofun
  have read := (readNumeral?_append spells' ends).symm.trans (readNumeral?_append spells ends)
  exact (Prod.mk.inj (Option.some.inj read)).1

/-- The bytes of a character tell it, whatever follows them. -/
theorem utf8EncodeChar_append_inj
    {character character' : Char}
    (same : String.utf8EncodeChar character ++ rest =
      String.utf8EncodeChar character' ++ rest') :
    character = character' := by
  have decoded := congrArg (fun bytes : List UInt8 => bytes.toByteArray.utf8DecodeChar? 0) same
  simpa [List.toByteArray_append, ByteArray.utf8DecodeChar?_utf8EncodeChar_append] using decoded

/-- A plain character does not start with a backslash. -/
theorem utf8EncodeChar_append_ne
    {character : Char}
    (visible : 0x20 ≤ character.toNat)
    (noQuote : character.toNat ≠ 0x22)
    (noBackslash : character.toNat ≠ 0x5c)
    (rest rest' : List UInt8) :
    String.utf8EncodeChar character ++ rest ≠ 0x5c :: rest' := by
  obtain ⟨first, others, bytes⟩ :=
    List.exists_cons_of_ne_nil (String.utf8EncodeChar_ne_nil (c := character))
  have plain := plain_bytes visible noQuote noBackslash
  rw [bytes] at plain ⊢
  exact fun same => (plain first List.mem_cons_self).2.2 (List.cons.inj same).1

theorem SpellsUnit.ne_nil
    (spells : SpellsUnit unit bytes) :
    bytes ≠ [] := by
  cases spells with
  | plain => exact String.utf8EncodeChar_ne_nil
  | escaped | coded => nofun

/-- The bytes of a character inside quotes tell it, and where it ends. -/
theorem SpellsUnit.unique
    (spells : SpellsUnit unit bytes)
    (spells' : SpellsUnit unit' bytes')
    (same : bytes ++ rest = bytes' ++ rest') :
    unit' = unit ∧ rest' = rest := by
  cases spells with
  | plain character visible noQuote noBackslash =>
      cases spells' with
      | plain character' =>
          obtain rfl := utf8EncodeChar_append_inj same
          exact ⟨rfl, (List.append_cancel_left same).symm⟩
      | escaped | coded =>
          exact absurd same (utf8EncodeChar_append_ne visible noQuote noBackslash _ _)
  | escaped known =>
      obtain ⟨_, noCode, escaped, _⟩ := escapedByte?_of_mem known
      cases spells' with
      | plain character' visible noQuote noBackslash =>
          exact absurd same.symm (utf8EncodeChar_append_ne visible noQuote noBackslash _ _)
      | escaped known' =>
          obtain ⟨_, _, escaped', _⟩ := escapedByte?_of_mem known'
          obtain ⟨rfl, rfl⟩ := List.cons.inj (List.cons.inj same).2
          rw [Option.some.inj (escaped.symm.trans escaped')]
          exact ⟨rfl, rfl⟩
      | coded => exact absurd (List.cons.inj (List.cons.inj same).2).1 noCode
  | coded first second third fourth =>
      cases spells' with
      | plain character' visible noQuote noBackslash =>
          exact absurd same.symm (utf8EncodeChar_append_ne visible noQuote noBackslash _ _)
      | escaped known' =>
          exact absurd (List.cons.inj (List.cons.inj same).2).1.symm
            (escapedByte?_of_mem known').2.1
      | coded first' second' third' fourth' =>
          simp only [List.cons_append, List.nil_append, List.cons.injEq, true_and] at same
          obtain ⟨rfl, rfl, rfl, rfl, rfl⟩ := same
          have value := hexUnit?_of_spells first second third fourth
          have value' := hexUnit?_of_spells first' second' third' fourth'
          exact ⟨Option.some.inj (value'.symm.trans value), rfl⟩

theorem SpellsUnits.unique
    (spells : SpellsUnits units bytes)
    (spells' : SpellsUnits units' bytes) :
    units' = units := by
  generalize equal : bytes = bytes' at spells'
  induction spells generalizing units' bytes' with
  | nil =>
      cases spells' with
      | nil => rfl
      | cons first => exact absurd equal.symm (List.append_ne_nil_of_left_ne_nil first.ne_nil _)
  | cons first _ hypothesis =>
      cases spells' with
      | nil => exact absurd equal (List.append_ne_nil_of_left_ne_nil first.ne_nil _)
      | cons first' rest' =>
          obtain ⟨rfl, rest⟩ := first.unique first' equal
          rw [hypothesis _ rest.symm rest']

theorem SpellsText.unique
    (spells : SpellsText content bytes)
    (spells' : SpellsText content' bytes) :
    content' = content := by
  generalize equal : bytes = bytes' at spells'
  obtain ⟨inside⟩ := spells
  obtain ⟨inside'⟩ := spells'
  obtain rfl := List.append_cancel_right (List.cons.inj equal).2
  rw [inside.unique inside']

/-! ## Items -/

theorem EndsValue.of_blanks
    (blank : AreBlanks bytes) :
    EndsValue bytes := by
  rw [← List.append_nil bytes]
  exact .append blank .nil

theorem EndsValue.comma
    (blank : AreBlanks bytes)
    (rest : List UInt8) :
    EndsValue (bytes ++ 0x2c :: rest) :=
  .append blank (.cons (.inl rfl) rest)

theorem ne_append_comma
    (blank : AreBlanks bytes)
    (before rest : List UInt8) :
    bytes ≠ before ++ 0x2c :: rest := by
  rintro rfl
  exact absurd (blank.isBlank 0x2c (List.mem_append_right _ List.mem_cons_self)) (by decide)

/-- Bytes with something other than a blank in front. -/
def StartsVisibly (bytes : List UInt8) : Prop :=
  ∃ first others, bytes = first :: others ∧ isBlank first = false

theorem Spells.startsVisibly
    (spells : Spells tree bytes) :
    StartsVisibly bytes := by
  obtain ⟨first, others, rfl, starts⟩ := spells.exists_head
  exact ⟨first, others, rfl, (starts.ne (.inl rfl)).1⟩

theorem SpellsMember.startsVisibly
    {Value : Tree → List UInt8 → Prop}
    (spells : SpellsMember Value member bytes) :
    StartsVisibly bytes := by
  obtain ⟨⟨_⟩, _, _, _⟩ := spells
  exact ⟨_, _, rfl, rfl⟩

namespace SpellsItems

variable {Item Item' : α → List UInt8 → Prop}

theorem imp
    (each : ∀ value bytes, Item value bytes → Item' value bytes)
    (items : SpellsItems Item values bytes) :
    SpellsItems Item' values bytes := by
  induction items with
  | last before item after => exact .last before (each _ _ item) after
  | more before item after _ hypothesis => exact .more before (each _ _ item) after hypothesis

/-- Where items are spelled, not everything is blank. -/
theorem not_areBlanks
    (starts : ∀ value bytes, Item value bytes → StartsVisibly bytes)
    (items : SpellsItems Item values bytes) :
    ¬ AreBlanks bytes := by
  intro blank
  obtain ⟨left, value, item, rest, _, rfl, spelled, _⟩ := items.exists_trimmed
  obtain ⟨first, others, rfl, visible⟩ := starts value item spelled
  have inside : first ∈ left ++ (first :: others ++ rest) := by simp
  exact Bool.false_ne_true (visible.symm.trans (blank.isBlank first inside))

end SpellsItems

/-- What can be told from what, and where it ends, by the bytes from its start on. -/
structure IsTold (Item Item' : α → List UInt8 → Prop) : Prop where
  starts : ∀ value bytes, Item value bytes → StartsVisibly bytes
  starts' : ∀ value bytes, Item' value bytes → StartsVisibly bytes
  unique : ∀ value value' bytes bytes' rest rest', Item value bytes → Item' value' bytes' →
    EndsValue rest → EndsValue rest' → bytes ++ rest = bytes' ++ rest' →
      value' = value ∧ rest' = rest

namespace IsTold

variable {Item Item' : α → List UInt8 → Prop}

/-- Blanks in front do not matter. -/
theorem after_blanks
    (told : IsTold Item Item')
    (before : AreBlanks left)
    (before' : AreBlanks left')
    (item : Item value bytes)
    (item' : Item' value' bytes')
    (ends : EndsValue rest)
    (ends' : EndsValue rest')
    (same : left ++ (bytes ++ rest) = left' ++ (bytes' ++ rest')) :
    value' = value ∧ rest' = rest := by
  refine told.unique _ _ _ _ _ _ item item' ends ends' ?_
  obtain ⟨first, others, rfl, visible⟩ := told.starts _ _ item
  obtain ⟨first', others', rfl, visible'⟩ := told.starts' _ _ item'
  exact append_inj_of_blanks before before' visible visible' same

/-- Items between commas are told one after the other. -/
theorem items
    (told : IsTold Item Item')
    (items : SpellsItems Item values bytes)
    (items' : SpellsItems Item' values' bytes) :
    values' = values := by
  generalize equal : bytes = bytes' at items'
  induction items generalizing values' bytes' with
  | last before item after =>
      cases items' with
      | last before' item' after' =>
          obtain ⟨rfl, _⟩ := told.after_blanks before before' item item'
            (.of_blanks after) (.of_blanks after') equal
          rfl
      | more before' item' after' =>
          obtain ⟨_, rest⟩ := told.after_blanks before before' item item'
            (.of_blanks after) (.comma after' _) equal
          exact absurd rest.symm (ne_append_comma after _ _)
  | more before item after _ hypothesis =>
      cases items' with
      | last before' item' after' =>
          obtain ⟨_, rest⟩ := told.after_blanks before before' item item'
            (.comma after _) (.of_blanks after') equal
          exact absurd rest (ne_append_comma after' _ _)
      | more before' item' after' further' =>
          obtain ⟨rfl, rest⟩ := told.after_blanks before before' item item'
            (.comma after _) (.comma after' _) equal
          have further := append_inj_of_blanks after' after rfl rfl rest
          rw [hypothesis _ (List.cons.inj further).2.symm further']

end IsTold

/-! ## Values -/

/-- The bytes of a value that spell no other tree. -/
def SpellsAlone (tree : Tree) (bytes : List UInt8) : Prop :=
  Spells tree bytes ∧ ∀ tree', Spells tree' bytes → tree' = tree

/-- A value is told, and where it ends, if its own bytes spell no other tree. -/
theorem isTold_values : IsTold SpellsAlone Spells where
  starts _ _ alone := alone.1.startsVisibly
  starts' _ _ spells := spells.startsVisibly
  unique tree tree' bytes bytes' rest rest' alone spells' ends ends' same := by
    obtain ⟨spells, unique⟩ := alone
    have passed := skipValue_append AreBlanks.nil spells ends
    have passed' := skipValue_append AreBlanks.nil spells' ends'
    rw [List.nil_append] at passed passed'
    rw [same, passed'] at passed
    obtain rfl := Except.ok.inj passed
    obtain rfl := List.append_cancel_right same
    exact ⟨unique tree' spells', rfl⟩

/-- A member is told if its value is. -/
theorem isTold_members : IsTold (SpellsMember SpellsAlone) (SpellsMember Spells) where
  starts _ _ member := member.startsVisibly
  starts' _ _ member := member.startsVisibly
  unique := by
    rintro _ _ _ _ rest rest' ⟨name, before, after, value⟩ ⟨name', before', after', value'⟩
      ends ends' same
    simp only [List.append_assoc, List.cons_append] at same
    have passed := skipName_append AreBlanks.nil name
    have passed' := skipName_append AreBlanks.nil name'
    simp only [List.nil_append] at passed passed'
    have afterName := Except.ok.inj ((passed' _).symm.trans (same ▸ passed _))
    rw [afterName] at same
    obtain rfl := List.append_cancel_right same
    have colon := append_inj_of_blanks before before' rfl rfl afterName.symm
    obtain ⟨rfl, rest⟩ := isTold_values.after_blanks after after' value value' ends ends'
      (List.cons.inj colon).2
    rw [name.unique name']
    exact ⟨rfl, rest⟩

/-! ## Trees -/

/-- What a tree is at its top. -/
inductive Tree.Kind where
  | null
  | boolean (value : Bool)
  | number
  | text
  | list
  | object

/-- The kind of a tree. -/
def Tree.kind : Tree → Kind
  | .null => .null
  | .boolean value => .boolean value
  | .number _ => .number
  | .text _ => .text
  | .list _ => .list
  | .object _ => .object

/-- The kind of the trees that start with a byte. -/
def Tree.Kind.startingWith (first : UInt8) : Kind :=
  if startsNumber first then .number
  else if first = 0x6e then .null
  else if first = 0x74 then .boolean true
  else if first = 0x66 then .boolean false
  else if first = 0x22 then .text
  else if first = 0x5b then .list
  else .object

theorem Tree.StartsWith.kind
    {tree : Tree}
    (starts : tree.StartsWith first) :
    tree.kind = .startingWith first := by
  cases tree with
  | number => exact (if_pos starts).symm
  | boolean value => cases value <;> cases starts <;> rfl
  | null | text | list | object =>
      cases starts
      rfl

/-- The first byte tells the kind of a tree. -/
theorem Spells.kind_eq
    (spells : Spells tree bytes)
    (spells' : Spells tree' bytes) :
    tree'.kind = tree.kind := by
  obtain ⟨first, others, rfl, starts⟩ := spells.exists_head
  obtain ⟨first', others', same, starts'⟩ := spells'.exists_head
  rw [starts.kind, starts'.kind, (List.cons.inj same).1]

/-- Of the trees of one kind only one is spelled. -/
theorem spellsAlone_of_kind
    (spells : Spells tree bytes)
    (unique : ∀ tree', Spells tree' bytes → tree'.kind = tree.kind → tree' = tree) :
    SpellsAlone tree bytes :=
  ⟨spells, fun tree' spells' => unique tree' spells' (spells.kind_eq spells')⟩

theorem spellsAlone_boolean
    (spells : Spells (.boolean value) bytes) :
    SpellsAlone (.boolean value) bytes := by
  refine spellsAlone_of_kind spells fun tree' _ kind => ?_
  cases tree' with
  | boolean value' => rw [Tree.Kind.boolean.inj kind]
  | null | number | text | list | object => nomatch kind

theorem spellsAlone_list
    (items : SpellsItems SpellsAlone elements bytes) :
    SpellsAlone (.list elements) (0x5b :: (bytes ++ [0x5d])) := by
  have spelled := items.imp fun _ _ alone => alone.1
  refine spellsAlone_of_kind (.list spelled) fun tree' spells' kind => ?_
  cases tree' with
  | null | boolean | number | text | object => nomatch kind
  | list elements' =>
      generalize equal : 0x5b :: (bytes ++ [0x5d]) = bytes' at spells'
      cases spells' with
      | emptyList blank =>
          obtain rfl := List.append_cancel_right (List.cons.inj equal).2
          exact absurd blank (spelled.not_areBlanks fun _ _ => Spells.startsVisibly)
      | list items' =>
          obtain rfl := List.append_cancel_right (List.cons.inj equal).2
          rw [isTold_values.items items items']

theorem spellsAlone_emptyList
    (blank : AreBlanks bytes) :
    SpellsAlone (.list []) (0x5b :: (bytes ++ [0x5d])) := by
  refine spellsAlone_of_kind (.emptyList blank) fun tree' spells' kind => ?_
  cases tree' with
  | null | boolean | number | text | object => nomatch kind
  | list elements' =>
      generalize equal : 0x5b :: (bytes ++ [0x5d]) = bytes' at spells'
      cases spells' with
      | emptyList => rfl
      | list items' =>
          obtain rfl := List.append_cancel_right (List.cons.inj equal).2
          exact absurd blank (items'.not_areBlanks fun _ _ => Spells.startsVisibly)

theorem spellsAlone_object
    (items : SpellsItems (SpellsMember SpellsAlone) members bytes) :
    SpellsAlone (.object members) (0x7b :: (bytes ++ [0x7d])) := by
  have spelled : SpellsItems (SpellsMember Spells) members bytes :=
    items.imp fun _ _ ⟨name, before, after, value⟩ => .named name before after value.1
  refine spellsAlone_of_kind (.object spelled) fun tree' spells' kind => ?_
  cases tree' with
  | null | boolean | number | text | list => nomatch kind
  | object members' =>
      generalize equal : 0x7b :: (bytes ++ [0x7d]) = bytes' at spells'
      cases spells' with
      | emptyObject blank =>
          obtain rfl := List.append_cancel_right (List.cons.inj equal).2
          exact absurd blank (spelled.not_areBlanks fun _ _ => SpellsMember.startsVisibly)
      | object items' =>
          obtain rfl := List.append_cancel_right (List.cons.inj equal).2
          rw [isTold_members.items items items']

theorem spellsAlone_emptyObject
    (blank : AreBlanks bytes) :
    SpellsAlone (.object []) (0x7b :: (bytes ++ [0x7d])) := by
  refine spellsAlone_of_kind (.emptyObject blank) fun tree' spells' kind => ?_
  cases tree' with
  | null | boolean | number | text | list => nomatch kind
  | object members' =>
      generalize equal : 0x7b :: (bytes ++ [0x7d]) = bytes' at spells'
      cases spells' with
      | emptyObject => rfl
      | object items' =>
          obtain rfl := List.append_cancel_right (List.cons.inj equal).2
          exact absurd blank (items'.not_areBlanks fun _ _ => SpellsMember.startsVisibly)

/-- The bytes of a value spell no other tree. -/
theorem Spells.alone
    (spells : Spells tree bytes) :
    SpellsAlone tree bytes := by
  refine Spells.induction (motive := SpellsAlone) ?null ?yes ?no ?number ?text
    (fun _ => spellsAlone_emptyList) (fun _ _ => spellsAlone_list)
    (fun _ => spellsAlone_emptyObject) (fun _ _ => spellsAlone_object) spells
  case null =>
    refine spellsAlone_of_kind .null fun tree' _ kind => ?_
    cases tree' with
    | null => rfl
    | boolean | number | text | list | object => nomatch kind
  case yes => exact spellsAlone_boolean .yes
  case no => exact spellsAlone_boolean .no
  case number =>
    refine fun numeral bytes spelled => spellsAlone_of_kind (.number spelled) ?_
    intro tree' spells' kind
    cases tree' with
    | null | boolean | text | list | object => nomatch kind
    | number numeral' =>
        cases spells' with
        | number spelled' => rw [spelled.unique spelled']
  case text =>
    refine fun content bytes spelled => spellsAlone_of_kind (.text spelled) ?_
    intro tree' spells' kind
    cases tree' with
    | null | boolean | number | list | object => nomatch kind
    | text content' =>
        cases spells' with
        | text spelled' => rw [spelled.unique spelled']

/-- A whole text spells one tree only. -/
theorem SpellsBody.unique
    (spells : SpellsBody tree body)
    (spells' : SpellsBody tree' body) :
    tree' = tree := by
  generalize equal : body = body' at spells'
  obtain ⟨before, value, after⟩ := spells
  obtain ⟨before', value', after'⟩ := spells'
  exact (isTold_values.after_blanks before before' value.alone value'
    (.of_blanks after) (.of_blanks after') equal).1

end Json
end TransitLoad
