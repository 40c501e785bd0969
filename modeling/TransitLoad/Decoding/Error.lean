import TransitLoad.Decimal.Text
import TransitLoad.Text.Quoted

/-!
# Why a response cannot be decoded

Either the body is no JSON, or it is not of the shape that was asked for.
-/

namespace TransitLoad

/-- A value found where another one was expected. -/
inductive FoundValue where
  | null
  | boolean (value : Bool)
  | integer (value : Int)
  | float (value : Binary64)
  | text (value : String)
  | list
  | object
  deriving DecidableEq

/-- How a found value is called. -/
def FoundValue.description : FoundValue → String
  | .null => "null"
  | .boolean value => s!"boolean `{value}`"
  | .integer value => s!"integer `{value}`"
  | .float value => "floating point `" ++ Decimal.plainText value ++ "`"
  | .text value => "string " ++ Text.quoted value
  | .list => "sequence"
  | .object => "map"

/-- What keeps a body from being decoded. -/
inductive DecodeError where
  /-- The body is no JSON text. -/
  | malformed
  /-- A required field is absent. -/
  | missingField (name : String)
  /-- A field is given twice. -/
  | duplicateField (name : String)
  /-- A value is of another type than expected. -/
  | invalidType (found : FoundValue) (expected : String)
  /-- A value is of the right type and out of its range. -/
  | invalidValue (found : FoundValue) (expected : String)
  /-- A list ends before a required field. -/
  | invalidLength (length : Nat) (expected : String)
  /-- A text names none of the known variants. -/
  | unknownVariant (name : String) (known : List String)
  deriving DecidableEq

/-- The text that a decode error shows. -/
def DecodeError.message : DecodeError → String
  | .malformed => "malformed JSON"
  | .missingField name => s!"missing field `{name}`"
  | .duplicateField name => s!"duplicate field `{name}`"
  | .invalidType found expected => s!"invalid type: {found.description}, expected {expected}"
  | .invalidValue found expected => s!"invalid value: {found.description}, expected {expected}"
  | .invalidLength length expected => s!"invalid length {length}, expected {expected}"
  | .unknownVariant name known =>
      let quotedNames := known.map fun variant => "`" ++ variant ++ "`"
      s!"unknown variant `{name}`, expected one of " ++ ", ".intercalate quotedNames

end TransitLoad
