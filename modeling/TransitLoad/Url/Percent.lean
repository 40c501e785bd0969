import TransitLoad.Json.Token

/-!
# Percent encoding

A byte that may not stand in some part of a URL is written as `%` and two
hexadecimal digits.  Which characters are encoded depends on the part; characters
beyond ASCII always are.
-/

namespace TransitLoad
namespace Url

/-- The ASCII characters that are encoded in some part of a URL. -/
abbrev EncodeSet := Char → Bool

/-- Control characters. -/
def controlSet : EncodeSet := fun c => c.toNat < 0x20 || c.toNat == 0x7f

/-- What is encoded in a fragment. -/
def fragmentSet : EncodeSet := fun c => controlSet c || [' ', '"', '<', '>', '\x60'].contains c

/-- What is encoded in a path. -/
def pathSet : EncodeSet := fun c => fragmentSet c || ['#', '?', '\x7b', '\x7d'].contains c

/-- What is encoded in a user name and a password. -/
def userSet : EncodeSet := fun c =>
  pathSet c || ['/', ':', ';', '=', '@', '[', '\\', ']', '^', '|'].contains c

/-- What is encoded in a query. -/
def querySet : EncodeSet := fun c => controlSet c || [' ', '"', '#', '<', '>'].contains c

/-- What is encoded in a query under a special scheme. -/
def specialQuerySet : EncodeSet := fun c => querySet c || c == '\x27'

/-- The upper-case hexadecimal digit of a number below sixteen. -/
def upperHexDigit (value : Nat) : Char :=
  if value < 10 then Char.ofNat (0x30 + value) else Char.ofNat (0x41 + value - 10)

/-- A byte in its encoded form. -/
def encodedByte (byte : UInt8) : List Char :=
  ['%', upperHexDigit (byte.toNat / 16), upperHexDigit (byte.toNat % 16)]

/-- A character, encoded if it has to be. -/
def encodeCharacter (set : EncodeSet) (c : Char) : List Char :=
  if c.toNat < 0x80 && !set c then [c]
  else (String.utf8EncodeChar c).flatMap encodedByte

/-- Characters, encoded where they have to be. -/
def encode (set : EncodeSet) (text : List Char) : List Char :=
  text.flatMap (encodeCharacter set)

/-- Undo percent encoding; a `%` without two digits stays. -/
def decodeBytes : List UInt8 → List UInt8
  | 0x25 :: high :: low :: rest =>
      match Json.hexValue? high, Json.hexValue? low with
      | some high, some low => UInt8.ofNat (high * 16 + low) :: decodeBytes rest
      | _, _ => 0x25 :: decodeBytes (high :: low :: rest)
  | byte :: rest => byte :: decodeBytes rest
  | [] => []

end Url
end TransitLoad
