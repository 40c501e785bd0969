/-!
# What a terminal shows

A text without what a terminal acts on: control sequences, which start with an escape
character, and control characters other than white space.  A sequence that does not end
extends over what follows, up to white space if it is one that white space interrupts,
or up to the next escape character.
-/

namespace TransitLoad
namespace Text

/-- Where in a control sequence a byte stands. -/
inductive ControlState where
  /-- Outside. -/
  | outside
  /-- After an escape character. -/
  | escape
  /-- After an escape character and intermediate bytes. -/
  | intermediate
  /-- In a control sequence proper, which starts with a bracket. -/
  | sequence
  /-- In a command to the operating system. -/
  | systemCommand
  /-- At the start of a device control string. -/
  | deviceStart
  /-- In the parameters of a device control string. -/
  | deviceParameters
  /-- After the intermediate bytes of a device control string. -/
  | deviceIntermediate
  /-- In a string that a device reads. -/
  | string
  deriving DecidableEq

/-- Whether a byte is a control character that shows as white space. -/
def isControlSpace (byte : UInt8) : Bool :=
  byte == 0x09 || byte == 0x0a || byte == 0x0c || byte == 0x0d

/-- Whether a byte is shown outside control sequences.  Bytes beyond ASCII belong to
characters that are shown. -/
def isShownByte (byte : UInt8) : Bool :=
  (0x20 ≤ byte && byte != 0x7f) || isControlSpace byte

namespace ControlState

/-- Whether white space interrupts a sequence. -/
def isInterruptible : ControlState → Bool
  | .escape => true
  | .intermediate => true
  | .sequence => true
  | _ => false

/-- The state after an escape character and a byte that is no control character. -/
def afterEscape (byte : UInt8) : ControlState :=
  if byte < 0x30 then .intermediate
  else if byte == 0x5b then .sequence
  else if byte == 0x5d then .systemCommand
  else if byte == 0x50 then .deviceStart
  else if byte == 0x58 || byte == 0x5e || byte == 0x5f then .string
  else if byte < 0x7f then .outside
  else .escape

/-- The state after a byte that is neither an escape character nor one of the two that
cancel a sequence. -/
def next (state : ControlState) (byte : UInt8) : ControlState :=
  let isParameter := 0x30 ≤ byte && byte < 0x40
  let isFinal := 0x40 ≤ byte && byte < 0x7f
  match state with
  | .outside => .outside
  | .escape => if byte < 0x20 then .escape else afterEscape byte
  | .intermediate => if isParameter || isFinal then .outside else .intermediate
  | .sequence => if isFinal then .outside else .sequence
  | .systemCommand => if byte == 0x07 then .outside else .systemCommand
  | .deviceStart =>
      if byte < 0x20 then .deviceStart
      else if byte < 0x30 then .deviceIntermediate
      else if isParameter then .deviceParameters
      else if isFinal then .string
      else .deviceStart
  | .deviceParameters =>
      if byte < 0x20 || (0x30 ≤ byte && byte < 0x3c) then .deviceParameters
      else if byte < 0x30 then .deviceIntermediate
      else if isParameter || isFinal then .string
      else .deviceParameters
  | .deviceIntermediate => if isParameter || isFinal then .string else .deviceIntermediate
  | .string => if byte == 0x9c then .outside else .string

end ControlState

/-- The bytes that are shown.  When bytes are hidden, those after them that continue a
character are hidden as well. -/
def shownBytes : ControlState → (isHiding : Bool) → List UInt8 → List UInt8
  | _, _, [] => []
  | state, isHiding, byte :: rest =>
      if byte == 0x1b then shownBytes .escape true rest
      else if byte == 0x18 || byte == 0x1a then shownBytes .outside true rest
      else if state = .outside then
        if isShownByte byte && !(isHiding && 0x80 ≤ byte && byte < 0xc0) then
          byte :: shownBytes .outside false rest
        else shownBytes .outside true rest
      else if state.isInterruptible && isControlSpace byte then
        byte :: shownBytes .outside false rest
      else shownBytes (state.next byte) true rest

/-- What a terminal shows of a text. -/
def shown (text : String) : String :=
  (String.fromUTF8? ⟨(shownBytes .outside false text.toUTF8.toList).toArray⟩).getD ""

end Text
end TransitLoad
