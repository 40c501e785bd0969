import TransitLoad.Decoding.Reader

/-!
# Shapes of responses

A shape says what a body must look like: a text, a count, a list of one shape, or
a record of named fields.  A shape has a type of values, and `Shape.decode` reads
a value of that type from a body.

A record is written as an object with its fields in any order and any further
members, or as a list of its fields in order.  An optional field may be absent or
`null` and then has the default of its shape.
-/

namespace TransitLoad

mutual

/-- What a part of a response looks like. -/
inductive Shape where
  | text
  | count
  | list (element : Shape)
  | record (name : String) (fields : Fields)

/-- The fields of a record, in order. -/
inductive Fields where
  | nil
  | cons (name : String) (isRequired : Bool) (shape : Shape) (rest : Fields)

end

mutual

/-- The values of a shape. -/
def Shape.Value : Shape → Type
  | .text => String
  | .count => UInt64
  | .list element => List element.Value
  | .record _ fields => fields.Values

/-- One value for each field. -/
def Fields.Values : Fields → Type
  | .nil => Unit
  | .cons _ _ shape rest => shape.Value × rest.Values

end

mutual

/-- What a shape is when nothing is written. -/
def Shape.default : (shape : Shape) → shape.Value
  | .text => ""
  | .count => (0 : UInt64)
  | .list _ => []
  | .record _ fields => fields.defaults

/-- The defaults of all fields. -/
def Fields.defaults : (fields : Fields) → fields.Values
  | .nil => ()
  | .cons _ _ shape rest => (shape.default, rest.defaults)

end

/-- What is read of a record so far: a value for each field already met. -/
def Fields.Partial : Fields → Type
  | .nil => Unit
  | .cons _ _ shape rest => Option shape.Value × rest.Partial

/-- Nothing has been read. -/
def Fields.blank : (fields : Fields) → fields.Partial
  | .nil => ()
  | .cons _ _ _ rest => (none, rest.blank)

/-- The values of a record that ends here, if no required field is missing. -/
def Fields.complete : (fields : Fields) → fields.Partial → Except DecodeError fields.Values
  | .nil, () => .ok ()
  | .cons name isRequired shape rest, (found, others) =>
      match found with
      | some value => return (value, ← rest.complete others)
      | none =>
          if isRequired then .error (.missingField name)
          else return (shape.default, ← rest.complete others)

/-- How many fields there are. -/
def Fields.size : Fields → Nat
  | .nil => 0
  | .cons _ _ _ rest => rest.size + 1

/-- What a record as a list is expected to be. -/
def Fields.lengthExpectation (name : String) (fields : Fields) : String :=
  let elements := if fields.size = 1 then "element" else "elements"
  s!"struct {name} with {fields.size} {elements}"

open Json Reader

mutual

/-- Read a value of a shape. -/
def Shape.read : (shape : Shape) → Reader shape.Value
  | .text => readUsedText
  | .count => readCount
  | .list element => fun input =>
      match dropBlanks input with
      | 0x5b :: rest => readElements element.read rest
      | input => refuse "a sequence" input
  | .record name fields => fun input =>
      match dropBlanks input with
      | 0x7b :: rest => do
          let (found, rest) ← readItems 0x7d
            (fun found input => do
              let (member, input) ← readName input
              fields.readMember member found input)
            fields.blank rest
          return (← fields.complete found, rest)
      | 0x5b :: rest => fields.readInOrder (fields.lengthExpectation name) 0 rest
      | input => refuse s!"struct {name}" input

/-- Read a member of an object after its name.  The value of a field is kept; a
field that was met before is refused, and the value of any other member is passed
over. -/
def Fields.readMember : (fields : Fields) → String → fields.Partial → Reader fields.Partial
  | .nil, _, () => skipMember ()
  | .cons name isRequired shape rest, member, (found, others) =>
      if member = name then
        match found with
        | some _ => fun _ => .error (.duplicateField name)
        | none => fun input => do
            let input ← expect 0x3a input
            let (value, input) ←
              if isRequired then shape.read input
              else orNull shape.default shape.read input
            return ((some value, others), input)
      else fun input => do
        let (others, input) ← rest.readMember member others input
        return ((found, others), input)

/-- Read fields in order from a list, up to and including its closing bracket;
so many elements come before.  When the list ends, the optional fields that are
left have their defaults. -/
def Fields.readInOrder : (fields : Fields) → String → Nat → Reader fields.Values
  | .nil, _, _ => fun input => do
      let rest ← expect 0x5d input
      return ((), rest)
  | .cons _ isRequired shape rest, expected, index => fun input =>
      match dropBlanks input with
      | 0x5d :: after =>
          if isRequired then .error (.invalidLength index expected)
          else do
            let (others, after) ← rest.readInOrder expected (index + 1) (0x5d :: after)
            return ((shape.default, others), after)
      | input => do
          let input ← if index = 0 then .ok input else expect 0x2c input
          let (value, input) ←
            if isRequired then shape.read input
            else orNull shape.default shape.read input
          let (others, after) ← rest.readInOrder expected (index + 1) input
          return ((value, others), after)

end

/-- Decode a whole body: valid UTF-8, one value of the shape, and nothing but
blanks around it. -/
def Shape.decode (shape : Shape) (body : List UInt8) : Except DecodeError shape.Value := do
  let _ ← orMalformed (textOfUtf8? body)
  let (value, rest) ← shape.read body
  match dropBlanks rest with
  | [] => return value
  | _ => .error .malformed

end TransitLoad
