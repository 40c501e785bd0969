import Mathlib.Data.List.Basic
import TransitLoad.Json.Value
import TransitLoad.Proofs.JsonTokens

/-!
# Written values

What is written for a value spells the tree of that value, and no matter how deep it
stands: quotes, backslashes and control characters inside of texts are escaped, and all
that is added between the tokens is blank.  Only the numerals have to be spelled as they
are written.
-/

namespace TransitLoad
namespace Json

/-! ## Quoted texts -/

/-- The loop that lists bytes puts those from a place on behind those it has. -/
theorem toList_loop_eq (bytes : ByteArray) (place : Nat) (reversed : List UInt8) :
    ByteArray.toList.loop bytes place reversed =
      reversed.reverse ++ bytes.data.toList.drop place := by
  fun_induction ByteArray.toList.loop bytes place reversed with
  | case1 place reversed inside hypothesis =>
      have inside' : place < bytes.data.toList.length := by simpa using inside
      have here : bytes.get! place = bytes.data.toList[place] := by
        simp [ByteArray.get!, inside, getElem!_pos]
      rw [hypothesis, List.drop_eq_getElem_cons inside', here, List.reverse_cons,
        List.append_assoc, List.singleton_append]
  | case2 place reversed beyond =>
      have beyond' : bytes.data.toList.length ≤ place := by simpa using beyond
      rw [List.drop_eq_nil_of_le beyond', List.append_nil]

/-- The bytes of a text are those of its characters. -/
theorem utf8_eq_flatMap (text : String) :
    utf8 text = text.toList.flatMap String.utf8EncodeChar := by
  have encoded : text.toByteArray = (text.toList.flatMap String.utf8EncodeChar).toByteArray := by
    conv_lhs => rw [← String.ofList_toList (s := text)]
    rw [String.toByteArray_ofList, List.utf8Encode]
  rw [utf8, String.toUTF8_eq_toByteArray, ByteArray.toList, toList_loop_eq, encoded,
    List.data_toByteArray]
  rfl

theorem spellsHex_hexDigit
    (small : value < 16) :
    SpellsHex value (hexDigit value) := by
  rcases Nat.lt_or_ge value 10 with decimal | letter
  · rw [hexDigit, if_pos decimal]
    exact .decimal decimal
  · obtain ⟨value, rfl⟩ := Nat.exists_eq_add_of_le letter
    rw [hexDigit, if_neg (Nat.not_lt.mpr letter), Nat.add_sub_cancel_left]
    exact .lower (by omega)

/-- Bytes that need no escape stand for themselves. -/
theorem quotedByte_eq_singleton
    (plain : 0x20 ≤ byte ∧ byte ≠ 0x22 ∧ byte ≠ 0x5c) :
    quotedByte byte = [byte] := by
  obtain ⟨visible, noQuote, noBackslash⟩ := plain
  simp only [UInt8.le_iff_toNat_le, ne_eq, ← UInt8.toNat_inj, UInt8.reduceToNat] at *
  simp only [quotedByte, Bool.or_eq_true, beq_iff_eq, ← UInt8.toNat_inj, UInt8.reduceToNat,
    UInt8.lt_iff_toNat_lt]
  repeat rw [if_neg (by omega)]

/-- Quotes, backslashes and control characters are escaped. -/
theorem spellsUnit_quotedByte
    (special : byte < 0x20 ∨ byte = 0x22 ∨ byte = 0x5c) :
    SpellsUnit byte.toNat (quotedByte byte) := by
  rw [quotedByte]
  split_ifs with mark backspace tab newline page carriage control
  · rcases Bool.or_eq_true_iff.mp mark with quote | backslash
    · obtain rfl := beq_iff_eq.mp quote
      exact .escaped (by decide)
    · obtain rfl := beq_iff_eq.mp backslash
      exact .escaped (by decide)
  · obtain rfl := beq_iff_eq.mp backspace
    exact .escaped (by decide)
  · obtain rfl := beq_iff_eq.mp tab
    exact .escaped (by decide)
  · obtain rfl := beq_iff_eq.mp newline
    exact .escaped (by decide)
  · obtain rfl := beq_iff_eq.mp page
    exact .escaped (by decide)
  · obtain rfl := beq_iff_eq.mp carriage
    exact .escaped (by decide)
  · have small : byte.toNat < 0x20 := UInt8.lt_iff_toNat_lt.mp control
    have value : byte.toNat = ((0 * 16 + 0) * 16 + byte.toNat / 16) * 16 + byte.toNat % 16 := by
      omega
    have high : byte.toNat / 16 < 16 := by omega
    have low : byte.toNat % 16 < 16 := by omega
    have zero : SpellsHex 0 0x30 := .decimal (by decide)
    have coded := SpellsUnit.coded zero zero (spellsHex_hexDigit high) (spellsHex_hexDigit low)
    rwa [← value] at coded
  · exact absurd special (by simp_all)

/-- A character below 128 is a byte itself. -/
theorem utf8EncodeChar_of_lt
    {character : Char}
    (short : character.toNat < 0x80) :
    String.utf8EncodeChar character = [UInt8.ofNat character.toNat] := by
  have bounded : character.val ≤ 127 := UInt32.le_iff_toNat_le.mpr (Nat.le_of_lt_succ short)
  exact String.utf8EncodeChar_eq_singleton (if_pos bounded)

/-- Every character is spelled inside quotes. -/
theorem spellsUnit_flatMap_quotedByte (character : Char) :
    SpellsUnit character.toNat ((String.utf8EncodeChar character).flatMap quotedByte) := by
  by_cases plain :
      0x20 ≤ character.toNat ∧ character.toNat ≠ 0x22 ∧ character.toNat ≠ 0x5c
  · obtain ⟨visible, noQuote, noBackslash⟩ := plain
    have same : (String.utf8EncodeChar character).flatMap quotedByte =
        String.utf8EncodeChar character := by
      rw [List.flatMap_congr fun byte present =>
        quotedByte_eq_singleton (plain_bytes visible noQuote noBackslash byte present),
        List.flatMap_singleton']
    rw [same]
    exact .plain character visible noQuote noBackslash
  · have special : character.toNat < 0x20 ∨ character.toNat = 0x22 ∨ character.toNat = 0x5c := by
      omega
    have same : (UInt8.ofNat character.toNat).toNat = character.toNat := by
      rw [UInt8.toNat_ofNat', Nat.mod_eq_of_lt (by omega)]
    have escaped : SpellsUnit (UInt8.ofNat character.toNat).toNat
        (quotedByte (UInt8.ofNat character.toNat)) := by
      apply spellsUnit_quotedByte
      simp only [UInt8.lt_iff_toNat_lt, ← UInt8.toNat_inj, same]
      exact special
    rw [same] at escaped
    rwa [utf8EncodeChar_of_lt (by omega), List.flatMap_singleton]

theorem spellsText_quotedBytes (content : String) :
    SpellsText (codes content) (quotedBytes content) := by
  have units (characters : List Char) :
      SpellsUnits (characters.map Char.toNat)
        ((characters.flatMap String.utf8EncodeChar).flatMap quotedByte) := by
    induction characters with
    | nil => exact .nil
    | cons character characters hypothesis =>
        rw [List.flatMap_cons, List.flatMap_append]
        exact .cons (spellsUnit_flatMap_quotedByte character) hypothesis
  have whole : joinPairs (codes content) = codes content :=
    joinPairs_eq_self <| List.forall_mem_map.mpr fun character _ =>
      toNat_not_isSurrogate character
  rw [quotedBytes, utf8_eq_flatMap]
  exact whole ▸ .quoted (units content.toList)

/-! ## Layout -/

theorem areBlanks_lineBreak (depth : Nat) : AreBlanks (lineBreak depth) := by
  intro byte present
  rcases List.mem_cons.mp present with rfl | spaces
  · exact .inr (.inr (.inl rfl))
  · exact .inl (List.eq_of_mem_replicate spaces)

mutual

/-- The tree of a value. -/
def Value.tree : Value → Tree
  | .null => .null
  | .boolean value => .boolean value
  | .number numeral => .number numeral
  | .text content => .text (codes content)
  | .list elements => .list (elementTrees elements)
  | .object members => .object (memberTrees members)

/-- The trees of the elements of a list. -/
def elementTrees : List Value → List Tree
  | [] => []
  | value :: rest => value.tree :: elementTrees rest

/-- The trees of the members of an object. -/
def memberTrees : List (String × Value) → List (List Nat × Tree)
  | [] => []
  | (name, value) :: rest => (codes name, value.tree) :: memberTrees rest

end

theorem elementTrees_eq_map (elements : List Value) :
    elementTrees elements = elements.map Value.tree := by
  induction elements with
  | nil => rw [elementTrees, List.map_nil]
  | cons value rest hypothesis => rw [elementTrees, hypothesis, List.map_cons]

theorem memberTrees_eq_map (members : List (String × Value)) :
    memberTrees members = members.map fun (name, value) => (codes name, value.tree) := by
  induction members with
  | nil => rw [memberTrees, List.map_nil]
  | cons member rest hypothesis => rw [memberTrees, hypothesis, List.map_cons]

/-- A value whose numerals are spelled as they are written. -/
inductive Value.IsWritable : Value → Prop where
  | null : IsWritable .null
  | boolean : IsWritable (.boolean value)
  | number (spells : SpellsNumeral numeral numeral.bytes) : IsWritable (.number numeral)
  | text : IsWritable (.text content)
  | list (each : ∀ element ∈ elements, element.IsWritable) : IsWritable (.list elements)
  | object (each : ∀ member ∈ members, member.2.IsWritable) : IsWritable (.object members)

/-- Elements with a comma and a line break between them. -/
theorem spellsItems_furtherElements
    {first : Value}
    (depth : Nat)
    (before : AreBlanks left)
    (after : AreBlanks right)
    (head : Spells first.tree (first.bytes depth))
    (tail : ∀ element ∈ rest, Spells element.tree (element.bytes depth)) :
    SpellsItems Spells (elementTrees (first :: rest))
      (left ++ (first.bytes depth ++ (furtherElements depth rest ++ right))) := by
  induction rest generalizing left first with
  | nil =>
      rw [elementTrees, elementTrees, furtherElements, List.nil_append]
      exact .last before head after
  | cons second rest hypothesis =>
      obtain ⟨head', tail'⟩ := List.forall_mem_cons.mp tail
      have further := hypothesis (areBlanks_lineBreak depth) head' tail'
      rw [elementTrees, furtherElements]
      simp only [List.cons_append, List.append_assoc]
      exact .more before head .nil further

/-- A name, a colon and a space, and a value. -/
theorem spellsMember_named
    {value : Value}
    (name : String)
    (spells : Spells value.tree (value.bytes depth)) :
    SpellsMember Spells (codes name, value.tree)
      (quotedBytes name ++ (utf8 ": " ++ value.bytes depth)) := by
  have space : AreBlanks [0x20] := fun _ present => .inl (List.mem_singleton.mp present)
  have colon : utf8 ": " = [0x3a, 0x20] := utf8_eq_flatMap _
  rw [colon]
  exact .named (spellsText_quotedBytes name) .nil space spells

/-- Members with a comma and a line break between them. -/
theorem spellsItems_furtherMembers
    {value : Value}
    (depth : Nat)
    (name : String)
    (before : AreBlanks left)
    (after : AreBlanks right)
    (head : Spells value.tree (value.bytes depth))
    (tail : ∀ member ∈ rest, Spells member.2.tree (member.2.bytes depth)) :
    SpellsItems (SpellsMember Spells) (memberTrees ((name, value) :: rest))
      (left ++ (quotedBytes name ++ (utf8 ": " ++ value.bytes depth) ++
        (furtherMembers depth rest ++ right))) := by
  induction rest generalizing left name value with
  | nil =>
      rw [memberTrees, memberTrees, furtherMembers, List.nil_append]
      exact .last before (spellsMember_named name head) after
  | cons second rest hypothesis =>
      obtain ⟨second, further⟩ := second
      obtain ⟨head', tail'⟩ := List.forall_mem_cons.mp tail
      have others := hypothesis second (areBlanks_lineBreak depth) head' tail'
      have all := SpellsItems.more before (spellsMember_named name head) .nil others
      rw [memberTrees, furtherMembers]
      simpa only [List.cons_append, List.append_assoc, List.nil_append] using all

/-- What is written for a value spells its tree. -/
theorem Value.IsWritable.spells
    {value : Value}
    (writable : value.IsWritable)
    (depth : Nat) :
    Spells value.tree (value.bytes depth) := by
  induction writable generalizing depth with
  | null =>
      have written : utf8 "null" = [0x6e, 0x75, 0x6c, 0x6c] := utf8_eq_flatMap _
      rw [Value.tree, Value.bytes, written]
      exact .null
  | @boolean value =>
      have yes : utf8 "true" = [0x74, 0x72, 0x75, 0x65] := utf8_eq_flatMap _
      have no : utf8 "false" = [0x66, 0x61, 0x6c, 0x73, 0x65] := utf8_eq_flatMap _
      cases value with
      | true =>
          rw [Value.tree, Value.bytes, yes]
          exact .yes
      | false =>
          rw [Value.tree, Value.bytes, no]
          exact .no
  | number spells =>
      rw [Value.tree, Value.bytes]
      exact .number spells
  | text =>
      rw [Value.tree, Value.bytes]
      exact .text (spellsText_quotedBytes _)
  | @list elements _ hypothesis =>
      cases elements with
      | nil =>
          have written : utf8 "[]" = [0x5b, 0x5d] := utf8_eq_flatMap _
          rw [Value.tree, elementTrees, Value.bytes, written]
          exact .emptyList .nil
      | cons first rest =>
          obtain ⟨head, tail⟩ := List.forall_mem_cons.mp hypothesis
          have items := spellsItems_furtherElements (depth + 1) (areBlanks_lineBreak (depth + 1))
            (areBlanks_lineBreak depth) (head _) fun element present => tail element present _
          rw [Value.tree, Value.bytes]
          simpa only [List.cons_append, List.append_assoc] using Spells.list items
  | @object members _ hypothesis =>
      cases members with
      | nil =>
          have written : utf8 "\x7b\x7d" = [0x7b, 0x7d] := utf8_eq_flatMap _
          rw [Value.tree, memberTrees, Value.bytes, written]
          exact .emptyObject .nil
      | cons member rest =>
          obtain ⟨name, value⟩ := member
          obtain ⟨head, tail⟩ := List.forall_mem_cons.mp hypothesis
          have items := spellsItems_furtherMembers (depth + 1) name
            (areBlanks_lineBreak (depth + 1)) (areBlanks_lineBreak depth) (head _)
            fun member present => tail member present _
          rw [Value.tree, Value.bytes]
          simpa only [List.cons_append, List.append_assoc] using Spells.object items

end Json
end TransitLoad
