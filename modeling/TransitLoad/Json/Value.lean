import TransitLoad.Json.Token

/-!
# JSON values and their written form

A JSON text as a tree, and the way a tree is laid out over lines: one element or
member a line, two spaces further in than what holds it.  A list or an object
without content stays on its line.
-/

namespace TransitLoad
namespace Json

/-- A JSON value.  Members of an object keep their order. -/
inductive Value where
  | null
  | boolean (value : Bool)
  | number (numeral : Numeral)
  | text (content : String)
  | list (elements : List Value)
  | object (members : List (String × Value))

namespace Value

/-- A whole number. -/
def ofNat (value : Nat) : Value := .number (.ofNat value)

end Value

/-! ## Quoted texts -/

/-- The hexadecimal digit of a value below sixteen, in lower case. -/
def hexDigit (value : Nat) : UInt8 :=
  if value < 10 then UInt8.ofNat (0x30 + value) else UInt8.ofNat (0x61 + (value - 10))

/-- What stands for a byte inside quotes.  Quotes, backslashes and control
characters are escaped, the common ones by a letter. -/
def quotedByte (byte : UInt8) : List UInt8 :=
  if byte == 0x22 || byte == 0x5c then [0x5c, byte]
  else if byte == 0x08 then [0x5c, 0x62]
  else if byte == 0x09 then [0x5c, 0x74]
  else if byte == 0x0a then [0x5c, 0x6e]
  else if byte == 0x0c then [0x5c, 0x66]
  else if byte == 0x0d then [0x5c, 0x72]
  else if byte < 0x20 then
    [0x5c, 0x75, 0x30, 0x30, hexDigit (byte.toNat / 16), hexDigit (byte.toNat % 16)]
  else [byte]

/-- A text between quotes. -/
def quotedBytes (content : String) : List UInt8 :=
  0x22 :: (utf8 content).flatMap quotedByte ++ [0x22]

/-! ## Layout -/

/-- The end of a line, and the space before what comes next at some depth. -/
def lineBreak (depth : Nat) : List UInt8 := 0x0a :: List.replicate (2 * depth) 0x20

mutual

/-- The bytes of a value that starts at some depth. -/
def Value.bytes (depth : Nat) : Value → List UInt8
  | .null => utf8 "null"
  | .boolean true => utf8 "true"
  | .boolean false => utf8 "false"
  | .number numeral => numeral.bytes
  | .text content => quotedBytes content
  | .list [] => utf8 "[]"
  | .list (first :: rest) =>
      0x5b :: lineBreak (depth + 1) ++ first.bytes (depth + 1) ++
        furtherElements (depth + 1) rest ++ lineBreak depth ++ [0x5d]
  | .object [] => utf8 "\x7b\x7d"
  | .object ((name, value) :: rest) =>
      0x7b :: lineBreak (depth + 1) ++ quotedBytes name ++ utf8 ": " ++ value.bytes (depth + 1) ++
        furtherMembers (depth + 1) rest ++ lineBreak depth ++ [0x7d]

/-- The bytes of all elements but the first. -/
def furtherElements (depth : Nat) : List Value → List UInt8
  | [] => []
  | value :: rest =>
      0x2c :: lineBreak depth ++ value.bytes depth ++ furtherElements depth rest

/-- The bytes of all members but the first. -/
def furtherMembers (depth : Nat) : List (String × Value) → List UInt8
  | [] => []
  | (name, value) :: rest =>
      0x2c :: lineBreak depth ++ quotedBytes name ++ utf8 ": " ++ value.bytes depth ++
        furtherMembers depth rest

end

end Json
end TransitLoad
