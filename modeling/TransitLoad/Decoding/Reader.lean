import TransitLoad.Decoding.Error
import TransitLoad.Json.Token

/-!
# Readers

A reader takes a value from the front of a body and returns it with the bytes
that follow, or says why it cannot.  The one loop of JSON, items between commas up
to a closing bracket, is here once and for all: `readItems` serves lists and
objects, used values and skipped ones.
-/

namespace TransitLoad

/-- A value read from the front of a body, with the bytes that follow it. -/
abbrev Reader (α : Type) := List UInt8 → Except DecodeError (α × List UInt8)

namespace Reader

open Json

theorem ok_bind (value : α) (next : α → Except ε β) :
    (Except.ok value >>= next) = next value := rfl

theorem error_bind (error : ε) (next : α → Except ε β) :
    (Except.error error >>= next) = .error error := rfl

/-- A token that is not there makes the body malformed. -/
def orMalformed : Option α → Except DecodeError α
  | none => .error .malformed
  | some value => .ok value

/-- Drop blanks, then take exactly this byte. -/
def expect (byte : UInt8) (input : List UInt8) : Except DecodeError (List UInt8) :=
  match dropBlanks input with
  | [] => .error .malformed
  | found :: rest => if found == byte then .ok rest else .error .malformed

/-- Read items between commas after an opening bracket or a comma, updating a
state with each, up to and including the closing byte.  Each item takes at least
one byte, so as many rounds as there are bytes are enough; the bytes themselves
count them. -/
def readMoreItems
    (closing : UInt8)
    (item : σ → Reader σ) : List UInt8 → σ → Reader σ
  | [], _, _ => .error .malformed
  | _ :: rounds, state, input => do
      let (state, input) ← item state input
      match dropBlanks input with
      | [] => .error .malformed
      | byte :: rest =>
          if byte == closing then return (state, rest)
          else if byte == 0x2c then readMoreItems closing item rounds state rest
          else .error .malformed

/-- Read the items after an opening bracket, if any, up to and including the
closing byte. -/
def readItems
    (closing : UInt8)
    (item : σ → Reader σ)
    (state : σ) : Reader σ := fun input =>
  match dropBlanks input with
  | [] => .error .malformed
  | byte :: rest =>
      if byte == closing then .ok (state, rest)
      else readMoreItems closing item (byte :: rest) state (byte :: rest)

/-- Read the elements of a list after its opening bracket. -/
def readElements (element : Reader α) : Reader (List α) := fun input => do
  let (reversed, rest) ← readItems 0x5d
    (fun elements input => do
      let (value, rest) ← element input
      return (value :: elements, rest))
    [] input
  return (reversed.reverse, rest)

/-- Read the name of a member, which is a used text. -/
def readName : Reader String := fun input => do
  let rest ← expect 0x22 input
  orMalformed (readText? rest)

/-- Pass over the name of a member that nobody will use. -/
def skipName (input : List UInt8) : Except DecodeError (List UInt8) := do
  let rest ← expect 0x22 input
  orMalformed (skipText? rest)

/-! ## Skipping -/

/-- Pass over a value of any kind, nested no deeper than there are bytes in the
first list. -/
def skipNested : List UInt8 → List UInt8 → Except DecodeError (List UInt8)
  | [], _ => .error .malformed
  | _ :: depth, input =>
      match dropBlanks input with
      | [] => .error .malformed
      | 0x22 :: rest => orMalformed (skipText? rest)
      | 0x5b :: rest => do
          let ((), rest) ← readItems 0x5d
            (fun _ input => return ((), ← skipNested depth input)) () rest
          return rest
      | 0x7b :: rest => do
          let ((), rest) ← readItems 0x7d
            (fun _ input => do
              let input ← skipName input
              let input ← expect 0x3a input
              return ((), ← skipNested depth input)) () rest
          return rest
      | 0x6e :: rest => orMalformed (readNull? (0x6e :: rest))
      | 0x74 :: rest => orMalformed (readTrue? (0x74 :: rest))
      | 0x66 :: rest => orMalformed (readFalse? (0x66 :: rest))
      | input => orMalformed ((readNumeral? input).map (·.2))

/-- Pass over a value of any kind and nesting: brackets cannot nest deeper than
there are bytes. -/
def skipValue (input : List UInt8) : Except DecodeError (List UInt8) :=
  skipNested (0 :: input) input

/-- Pass over the value of a member after its name, leaving a state as it is. -/
def skipMember (state : σ) : Reader σ := fun input => do
  let input ← expect 0x3a input
  return (state, ← skipValue input)

/-! ## Used scalars -/

/-- The number that a numeral stands for: a whole number of 64 bits, or else the
nearest floating point number.  Digits that are all zero stand for a zero without a
sign, which is a floating point number unless it is written as a whole number without
one; a number that is too large is no number. -/
def foundNumber (numeral : Numeral) : Except DecodeError FoundValue :=
  let size := numeral.coefficient
  if numeral.isWhole && !numeral.isNegative && size < UInt64.size then .ok (.integer size)
  else if size == 0 then .ok (.float (.ofNat 0))
  else if numeral.isWhole && numeral.isNegative && size ≤ Binary64.signBit then .ok (.integer (-size))
  else if numeral.toBinary64.isFinite then .ok (.float numeral.toBinary64)
  else .error .malformed

/-- Read a number. -/
def readNumber : Reader FoundValue := fun input => do
  let (numeral, rest) ← orMalformed (readNumeral? input)
  return (← foundNumber numeral, rest)

/-- Read a value of a type that was not expected, blanks before it being dropped
already: texts, numbers and literals as used values, lists and objects by passing
over them. -/
def readUnexpected (input : List UInt8) : Except DecodeError FoundValue :=
  match input with
  | 0x22 :: rest => return .text (← orMalformed (readText? rest)).1
  | 0x5b :: _ => do
      let _ ← skipValue input
      return .list
  | 0x7b :: _ => do
      let _ ← skipValue input
      return .object
  | 0x6e :: _ => do
      let _ ← orMalformed (readNull? input)
      return .null
  | 0x74 :: _ => do
      let _ ← orMalformed (readTrue? input)
      return .boolean true
  | 0x66 :: _ => do
      let _ ← orMalformed (readFalse? input)
      return .boolean false
  | _ => return (← readNumber input).1

/-- Refuse a value because of its type. -/
def refuse (expected : String) (input : List UInt8) : Except DecodeError α := do
  let found ← readUnexpected input
  .error (.invalidType found expected)

/-- Read a text that is used. -/
def readUsedText : Reader String := fun input =>
  match dropBlanks input with
  | 0x22 :: rest => orMalformed (readText? rest)
  | input => refuse "a string" input

/-- Whether a byte can start a number. -/
def startsNumber (byte : UInt8) : Bool :=
  byte == 0x2d || isDigit byte

/-- Read a whole number below `2 ^ 64`. -/
def readCount : Reader UInt64 := fun input =>
  match dropBlanks input with
  | [] => .error .malformed
  | byte :: rest =>
      if startsNumber byte then do
        let (number, rest) ← readNumber (byte :: rest)
        match number with
        | .integer (.ofNat value) => return (UInt64.ofNat value, rest)
        | .integer value => .error (.invalidValue (.integer value) "u64")
        | found => .error (.invalidType found "u64")
      else refuse "u64" (byte :: rest)

/-- Read a value that may be `null`, which stands for its default. -/
def orNull (default : α) (reader : Reader α) : Reader α := fun input =>
  match dropBlanks input with
  | 0x6e :: rest => do
      let rest ← orMalformed (readNull? (0x6e :: rest))
      return (default, rest)
  | input => reader input

end Reader
end TransitLoad
