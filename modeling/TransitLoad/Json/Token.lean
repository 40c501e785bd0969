import TransitLoad.Binary64

/-!
# Tokens of JSON text

Blanks, numerals, quoted texts and literals, read from the front of a list of
bytes.  A reader returns what it read together with the remaining bytes; `none`
says that the bytes do not start with such a token.

The bytes of a whole text are checked to be valid UTF-8 beforehand, so a quoted
text ends at the first quote that no backslash precedes.
-/

namespace TransitLoad
namespace Json

/-- Space, tab, line feed and carriage return. -/
def isBlank (byte : UInt8) : Bool :=
  byte == 0x20 || byte == 0x09 || byte == 0x0a || byte == 0x0d

/-- Drop the blanks at the front. -/
def dropBlanks (input : List UInt8) : List UInt8 :=
  input.dropWhile isBlank

/-- The text that bytes stand for in UTF-8. -/
def textOfUtf8? (bytes : List UInt8) : Option String :=
  String.fromUTF8? ⟨bytes.toArray⟩

/-- The bytes of a text in UTF-8. -/
def utf8 (text : String) : List UInt8 :=
  text.toUTF8.toList

/-! ## Numerals -/

/-- Whether a byte is a decimal digit. -/
def isDigit (byte : UInt8) : Bool :=
  0x30 ≤ byte && byte ≤ 0x39

/-- The value of a byte as a decimal digit. -/
def digitValue (byte : UInt8) : Nat :=
  byte.toNat - 0x30

/-- The value of decimal digits, the most significant first. -/
def digitsValue (digits : List UInt8) : Nat :=
  digits.foldl (fun value digit => value * 10 + digitValue digit) 0

/-- The exponent of a numeral: its sign and its digits. -/
structure Exponent where
  isNegative : Bool
  digits : List UInt8
  deriving DecidableEq

/-- A number as it is written. -/
structure Numeral where
  isNegative : Bool
  whole : List UInt8
  fraction : Option (List UInt8)
  exponent : Option Exponent
  deriving DecidableEq

/-- Read one or more digits. -/
def readDigits? (input : List UInt8) : Option (List UInt8 × List UInt8) :=
  match input.takeWhile isDigit with
  | [] => none
  | digits => some (digits, input.dropWhile isDigit)

/-- Read the digits before the point: a lone zero, or digits that start with no
zero. -/
def readWhole? : List UInt8 → Option (List UInt8 × List UInt8)
  | 0x30 :: rest => some ([0x30], rest)
  | input => readDigits? input

/-- Read a point and the digits after it, if there is a point. -/
def readFraction? : List UInt8 → Option (Option (List UInt8) × List UInt8)
  | 0x2e :: rest => (readDigits? rest).map fun (digits, rest) => (some digits, rest)
  | input => some (none, input)

/-- Read the sign of an exponent, if there is one. -/
def readSign : List UInt8 → Bool × List UInt8
  | 0x2d :: rest => (true, rest)
  | 0x2b :: rest => (false, rest)
  | input => (false, input)

/-- Read an exponent, if there is one. -/
def readExponent? : List UInt8 → Option (Option Exponent × List UInt8)
  | [] => some (none, [])
  | mark :: rest =>
      if mark == 0x65 || mark == 0x45 then
        let (isNegative, rest) := readSign rest
        (readDigits? rest).map fun (digits, rest) => (some ⟨isNegative, digits⟩, rest)
      else some (none, mark :: rest)

/-- Read a numeral without its sign. -/
def readUnsigned? (isNegative : Bool) (input : List UInt8) : Option (Numeral × List UInt8) := do
  let (whole, input) ← readWhole? input
  let (fraction, input) ← readFraction? input
  let (exponent, input) ← readExponent? input
  return (⟨isNegative, whole, fraction, exponent⟩, input)

/-- Read a numeral. -/
def readNumeral? : List UInt8 → Option (Numeral × List UInt8)
  | 0x2d :: rest => readUnsigned? true rest
  | input => readUnsigned? false input

namespace Numeral

/-- Whether there is neither a fraction nor an exponent. -/
def isWhole (numeral : Numeral) : Bool :=
  numeral.fraction.isNone && numeral.exponent.isNone

/-- All digits of the numeral, those of the exponent apart, as one number. -/
def coefficient (numeral : Numeral) : Nat :=
  digitsValue (numeral.whole ++ numeral.fraction.getD [])

/-- The power of ten that the coefficient is to be multiplied by. -/
def power (numeral : Numeral) : Int :=
  let shift : Int := match numeral.exponent with
    | none => 0
    | some ⟨false, digits⟩ => digitsValue digits
    | some ⟨true, digits⟩ => -(digitsValue digits : Int)
  shift - (numeral.fraction.getD []).length

/-- The magnitude bits of the nearest floating point number.  Sizes beyond
`10 ^ 400` or below `10 ^ -400` are out of reach whatever their digits are. -/
def nearestMagnitude (numeral : Numeral) : Nat :=
  let coefficient := numeral.coefficient
  let length : Int := (numeral.whole ++ numeral.fraction.getD []).length
  if coefficient = 0 ∨ numeral.power + length < -400 then 0
  else if 400 < numeral.power then Binary64.infiniteMagnitude
  else if 0 ≤ numeral.power then
    Binary64.nearestMagnitude (coefficient * Nat.pow 10 numeral.power.toNat) 1
  else Binary64.nearestMagnitude coefficient (Nat.pow 10 (-numeral.power).toNat)

/-- The nearest floating point number; infinite if the numeral is too large. -/
def toBinary64 (numeral : Numeral) : Binary64 :=
  let size := numeral.nearestMagnitude
  ⟨UInt64.ofNat (if numeral.isNegative then Binary64.signBit + size else size)⟩

/-- The numeral of a whole number. -/
def ofNat (value : Nat) : Numeral :=
  ⟨false, utf8 (toString value), none, none⟩

/-- The bytes of an exponent. -/
def exponentBytes : Option Exponent → List UInt8
  | none => []
  | some ⟨isNegative, digits⟩ => 0x65 :: (if isNegative then 0x2d else 0x2b) :: digits

/-- The bytes that a numeral is written as. -/
def bytes (numeral : Numeral) : List UInt8 :=
  (if numeral.isNegative then [0x2d] else []) ++ numeral.whole ++
    (match numeral.fraction with
      | none => []
      | some digits => 0x2e :: digits) ++
    exponentBytes numeral.exponent

end Numeral

/-! ## Quoted texts -/

/-- The value of a byte as a hexadecimal digit. -/
def hexValue? (byte : UInt8) : Option Nat :=
  if isDigit byte then some (byte.toNat - 0x30)
  else if 0x61 ≤ byte && byte ≤ 0x66 then some (byte.toNat - 0x61 + 10)
  else if 0x41 ≤ byte && byte ≤ 0x46 then some (byte.toNat - 0x41 + 10)
  else none

/-- The 16-bit unit that four hexadecimal digits stand for. -/
def hexUnit? (a b c d : UInt8) : Option Nat := do
  return (((← hexValue? a) * 16 + (← hexValue? b)) * 16 + (← hexValue? c)) * 16 + (← hexValue? d)

/-- Whether a unit is the first half of a surrogate pair. -/
def isHighSurrogate (unit : Nat) : Bool :=
  0xd800 ≤ unit && unit < 0xdc00

/-- Whether a unit is the second half of a surrogate pair. -/
def isLowSurrogate (unit : Nat) : Bool :=
  0xdc00 ≤ unit && unit < 0xe000

/-- The bytes of a character given by its number. -/
def characterBytes (number : Nat) : List UInt8 :=
  String.utf8EncodeChar (Char.ofNat number)

/-- The character that a backslash and one further byte stand for. -/
def escapedByte? (byte : UInt8) : Option UInt8 :=
  if byte == 0x22 || byte == 0x5c || byte == 0x2f then some byte
  else if byte == 0x62 then some 0x08
  else if byte == 0x66 then some 0x0c
  else if byte == 0x6e then some 0x0a
  else if byte == 0x72 then some 0x0d
  else if byte == 0x74 then some 0x09
  else none

/-- Read the rest of a quoted text after its opening quote, up to and including
the closing one.  Escapes are decoded; half a surrogate pair is none. -/
def readTextBytes? : List UInt8 → Option (List UInt8 × List UInt8)
  | [] => none
  | 0x22 :: rest => some ([], rest)
  | 0x5c :: 0x75 :: a :: b :: c :: d :: rest =>
      match hexUnit? a b c d with
      | none => none
      | some unit =>
          if isHighSurrogate unit then
            match rest with
            | 0x5c :: 0x75 :: e :: f :: g :: h :: rest =>
                match hexUnit? e f g h with
                | none => none
                | some second =>
                    if isLowSurrogate second then
                      let number := 0x10000 + (unit - 0xd800) * 0x400 + (second - 0xdc00)
                      (readTextBytes? rest).map fun (text, rest) =>
                        (characterBytes number ++ text, rest)
                    else none
            | _ => none
          else if isLowSurrogate unit then none
          else (readTextBytes? rest).map fun (text, rest) => (characterBytes unit ++ text, rest)
  | 0x5c :: byte :: rest =>
      match escapedByte? byte with
      | none => none
      | some character => (readTextBytes? rest).map fun (text, rest) => (character :: text, rest)
  | byte :: rest =>
      if byte < 0x20 then none
      else (readTextBytes? rest).map fun (text, rest) => (byte :: text, rest)

/-- Read the rest of a quoted text after its opening quote. -/
def readText? (input : List UInt8) : Option (String × List UInt8) := do
  let (bytes, rest) ← readTextBytes? input
  return (← textOfUtf8? bytes, rest)

/-- Pass over the rest of a quoted text that nobody will use.  Four bytes after
`u` are passed over whatever they are. -/
def skipText? : List UInt8 → Option (List UInt8)
  | [] => none
  | 0x22 :: rest => some rest
  | 0x5c :: 0x75 :: _ :: _ :: _ :: _ :: rest => skipText? rest
  | 0x5c :: byte :: rest => if (escapedByte? byte).isSome then skipText? rest else none
  | byte :: rest => if byte < 0x20 then none else skipText? rest

/-! ## Literals -/

/-- Read exactly these bytes. -/
def readExactly? : List UInt8 → List UInt8 → Option (List UInt8)
  | [], input => some input
  | _ :: _, [] => none
  | expected :: more, byte :: rest =>
      if expected == byte then readExactly? more rest else none

/-- Read `null`. -/
def readNull? (input : List UInt8) : Option (List UInt8) :=
  readExactly? [0x6e, 0x75, 0x6c, 0x6c] input

/-- Read `true`. -/
def readTrue? (input : List UInt8) : Option (List UInt8) :=
  readExactly? [0x74, 0x72, 0x75, 0x65] input

/-- Read `false`. -/
def readFalse? (input : List UInt8) : Option (List UInt8) :=
  readExactly? [0x66, 0x61, 0x6c, 0x73, 0x65] input

end Json
end TransitLoad
