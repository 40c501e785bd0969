import TransitLoad.Json.Token

/-!
# The grammar of JSON texts

What a JSON text is, apart from any reader: a tree, and the bytes that spell it in
UTF-8.  Blanks may stand around every value, name and item; characters inside quotes
may stand for themselves or be escaped.
-/

namespace TransitLoad
namespace Json

/-- A JSON text as a tree.  A text is given by the numbers of its characters, among
which half a surrogate pair may stand alone. -/
inductive Tree where
  | null
  | boolean (value : Bool)
  | number (numeral : Numeral)
  | text (content : List Nat)
  | list (elements : List Tree)
  | object (members : List (List Nat × Tree))

/-- Nothing but spaces, tabs, line feeds and carriage returns. -/
def AreBlanks (bytes : List UInt8) : Prop :=
  ∀ byte ∈ bytes, byte = 0x20 ∨ byte = 0x09 ∨ byte = 0x0a ∨ byte = 0x0d

/-! ## Numerals -/

/-- One decimal digit or more. -/
def AreDigits (digits : List UInt8) : Prop :=
  digits ≠ [] ∧ ∀ digit ∈ digits, 0x30 ≤ digit ∧ digit ≤ 0x39

/-- Digits before a point: a lone zero, or digits that start with no zero. -/
def AreWhole (digits : List UInt8) : Prop :=
  AreDigits digits ∧ (digits.head? = some 0x30 → digits = [0x30])

/-- How the digits after a point are spelled. -/
inductive SpellsFraction : Option (List UInt8) → List UInt8 → Prop where
  | absent : SpellsFraction none []
  | present (areDigits : AreDigits digits) : SpellsFraction (some digits) (0x2e :: digits)

/-- How an exponent is spelled. -/
inductive SpellsExponent : Option Exponent → List UInt8 → Prop where
  | absent : SpellsExponent none []
  | unsigned
      (mark : letter = 0x65 ∨ letter = 0x45)
      (areDigits : AreDigits digits) :
      SpellsExponent (some ⟨false, digits⟩) (letter :: digits)
  | positive
      (mark : letter = 0x65 ∨ letter = 0x45)
      (areDigits : AreDigits digits) :
      SpellsExponent (some ⟨false, digits⟩) (letter :: 0x2b :: digits)
  | negative
      (mark : letter = 0x65 ∨ letter = 0x45)
      (areDigits : AreDigits digits) :
      SpellsExponent (some ⟨true, digits⟩) (letter :: 0x2d :: digits)

/-- How a numeral is spelled. -/
inductive SpellsNumeral : Numeral → List UInt8 → Prop where
  | positive
      (areWhole : AreWhole whole)
      (point : SpellsFraction fraction fractionBytes)
      (scale : SpellsExponent exponent exponentBytes) :
      SpellsNumeral ⟨false, whole, fraction, exponent⟩
        (whole ++ (fractionBytes ++ exponentBytes))
  | negative
      (areWhole : AreWhole whole)
      (point : SpellsFraction fraction fractionBytes)
      (scale : SpellsExponent exponent exponentBytes) :
      SpellsNumeral ⟨true, whole, fraction, exponent⟩
        (0x2d :: (whole ++ (fractionBytes ++ exponentBytes)))

/-! ## Quoted texts -/

/-- Whether a unit of 16 bits is half of a surrogate pair. -/
def IsSurrogate (unit : Nat) : Prop := 0xd800 ≤ unit ∧ unit ≤ 0xdfff

/-- Every two units that are the halves of a surrogate pair make one character. -/
def joinPairs : List Nat → List Nat
  | high :: low :: units =>
      if (0xd800 ≤ high ∧ high ≤ 0xdbff) ∧ (0xdc00 ≤ low ∧ low ≤ 0xdfff) then
        (0x10000 + (high - 0xd800) * 0x400 + (low - 0xdc00)) :: joinPairs units
      else high :: joinPairs (low :: units)
  | units => units

/-- How a hexadecimal digit is spelled. -/
inductive SpellsHex : Nat → UInt8 → Prop where
  | decimal (small : value < 10) : SpellsHex value (UInt8.ofNat (0x30 + value))
  | lower (small : value < 6) : SpellsHex (10 + value) (UInt8.ofNat (0x61 + value))
  | upper (small : value < 6) : SpellsHex (10 + value) (UInt8.ofNat (0x41 + value))

/-- The letters that may follow a backslash, and the characters they stand for. -/
def shortEscapes : List (UInt8 × UInt8) :=
  [(0x22, 0x22), (0x5c, 0x5c), (0x2f, 0x2f), (0x62, 0x08), (0x66, 0x0c), (0x6e, 0x0a),
    (0x72, 0x0d), (0x74, 0x09)]

/-- How a character, or half of one, is spelled inside quotes. -/
inductive SpellsUnit : Nat → List UInt8 → Prop where
  | plain
      (character : Char)
      (visible : 0x20 ≤ character.toNat)
      (noQuote : character.toNat ≠ 0x22)
      (noBackslash : character.toNat ≠ 0x5c) :
      SpellsUnit character.toNat (String.utf8EncodeChar character)
  | escaped
      (known : (letter, character) ∈ shortEscapes) :
      SpellsUnit character.toNat [0x5c, letter]
  | coded
      (first : SpellsHex a a')
      (second : SpellsHex b b')
      (third : SpellsHex c c')
      (fourth : SpellsHex d d') :
      SpellsUnit (((a * 16 + b) * 16 + c) * 16 + d) [0x5c, 0x75, a', b', c', d']

/-- How characters and halves of characters are spelled one after another. -/
inductive SpellsUnits : List Nat → List UInt8 → Prop where
  | nil : SpellsUnits [] []
  | cons
      (first : SpellsUnit unit bytes)
      (rest : SpellsUnits units more) :
      SpellsUnits (unit :: units) (bytes ++ more)

/-- How a text is spelled, its quotes included. -/
inductive SpellsText : List Nat → List UInt8 → Prop where
  | quoted
      (inside : SpellsUnits units bytes) :
      SpellsText (joinPairs units) (0x22 :: (bytes ++ [0x22]))

/-! ## Values -/

/-- How items are spelled between commas, with blanks around each of them. -/
inductive SpellsItems (Item : α → List UInt8 → Prop) : List α → List UInt8 → Prop where
  | last
      (before : AreBlanks left)
      (item : Item value bytes)
      (after : AreBlanks right) :
      SpellsItems Item [value] (left ++ (bytes ++ right))
  | more
      (before : AreBlanks left)
      (item : Item value bytes)
      (after : AreBlanks right)
      (rest : SpellsItems Item values further) :
      SpellsItems Item (value :: values) (left ++ (bytes ++ (right ++ 0x2c :: further)))

/-- How a member of an object is spelled. -/
inductive SpellsMember
    (Value : Tree → List UInt8 → Prop) : List Nat × Tree → List UInt8 → Prop where
  | named
      (text : SpellsText name nameBytes)
      (before : AreBlanks left)
      (after : AreBlanks right)
      (value : Value tree bytes) :
      SpellsMember Value (name, tree) (nameBytes ++ (left ++ 0x3a :: (right ++ bytes)))

/-- How a value is spelled. -/
inductive Spells : Tree → List UInt8 → Prop where
  | null : Spells .null [0x6e, 0x75, 0x6c, 0x6c]
  | yes : Spells (.boolean true) [0x74, 0x72, 0x75, 0x65]
  | no : Spells (.boolean false) [0x66, 0x61, 0x6c, 0x73, 0x65]
  | number
      (numeral : SpellsNumeral value bytes) : Spells (.number value) bytes
  | text
      (text : SpellsText content bytes) : Spells (.text content) bytes
  | emptyList
      (blank : AreBlanks bytes) : Spells (.list []) (0x5b :: (bytes ++ [0x5d]))
  | list
      (items : SpellsItems Spells elements bytes) :
      Spells (.list elements) (0x5b :: (bytes ++ [0x5d]))
  | emptyObject
      (blank : AreBlanks bytes) : Spells (.object []) (0x7b :: (bytes ++ [0x7d]))
  | object
      (items : SpellsItems (SpellsMember Spells) members bytes) :
      Spells (.object members) (0x7b :: (bytes ++ [0x7d]))

/-- What holds of a value if it holds of all values inside it. -/
theorem Spells.induction
    {motive : Tree → List UInt8 → Prop}
    (null : motive .null [0x6e, 0x75, 0x6c, 0x6c])
    (yes : motive (.boolean true) [0x74, 0x72, 0x75, 0x65])
    (no : motive (.boolean false) [0x66, 0x61, 0x6c, 0x73, 0x65])
    (number : ∀ value bytes, SpellsNumeral value bytes → motive (.number value) bytes)
    (text : ∀ content bytes, SpellsText content bytes → motive (.text content) bytes)
    (emptyList : ∀ bytes, AreBlanks bytes → motive (.list []) (0x5b :: (bytes ++ [0x5d])))
    (list : ∀ elements bytes, SpellsItems motive elements bytes →
      motive (.list elements) (0x5b :: (bytes ++ [0x5d])))
    (emptyObject : ∀ bytes, AreBlanks bytes →
      motive (.object []) (0x7b :: (bytes ++ [0x7d])))
    (object : ∀ members bytes, SpellsItems (SpellsMember motive) members bytes →
      motive (.object members) (0x7b :: (bytes ++ [0x7d])))
    (spells : Spells tree bytes) :
    motive tree bytes := by
  refine @Spells.rec
    (fun tree bytes _ => motive tree bytes)
    (fun elements bytes _ => SpellsItems motive elements bytes)
    (fun members bytes _ => SpellsItems (SpellsMember motive) members bytes)
    (fun member bytes _ => SpellsMember motive member bytes)
    null yes no (fun _ => number _ _ ‹_›) (fun _ => text _ _ ‹_›) (emptyList _)
    (fun _ => list _ _) (emptyObject _) (fun _ => object _ _)
    ?_ ?_ ?_ ?_ ?_ tree bytes spells
  · exact fun before _ after item => .last before item after
  · exact fun before _ after _ item rest => .more before item after rest
  · exact fun before _ after item => .last before item after
  · exact fun before _ after _ item rest => .more before item after rest
  · exact fun name before after _ value => .named name before after value

/-- How a whole text is spelled: one value with blanks around it. -/
inductive SpellsBody : Tree → List UInt8 → Prop where
  | alone
      (before : AreBlanks left)
      (value : Spells tree bytes)
      (after : AreBlanks right) :
      SpellsBody tree (left ++ (bytes ++ right))

end Json
end TransitLoad
