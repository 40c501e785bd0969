import TransitLoad.Decoding.Reader

/-!
# Kinds of resources

A transit API has a root, systems, routes, stops and trips.  Observations are
grouped under the name of a kind.
-/

namespace TransitLoad

/-- A kind of resource. -/
inductive ResourceKind where
  | root
  | system
  | route
  | stop
  | trip
  deriving DecidableEq, Inhabited

namespace ResourceKind

/-- The name that observations are grouped under. -/
def name : ResourceKind → String
  | .root => "root"
  | .system => "system"
  | .route => "route"
  | .stop => "stop"
  | .trip => "trip"

/-- All kinds, in their order from the root downwards. -/
def all : List ResourceKind := [.root, .system, .route, .stop, .trip]

/-- The kind with this name. -/
def ofName? (name : String) : Option ResourceKind :=
  all.find? fun kind => kind.name = name

/-! ## Decoding -/

open Json Reader

/-- The kind with this name, or an error that lists all names. -/
def ofVariant (name : String) : Except DecodeError ResourceKind :=
  match ofName? name with
  | some kind => .ok kind
  | none => .error (.unknownVariant name (all.map ResourceKind.name))

/-- Read the name of a kind. -/
def readVariant : Reader ResourceKind := fun input =>
  match dropBlanks input with
  | 0x22 :: rest => do
      let (name, rest) ← orMalformed (readText? rest)
      return (← ofVariant name, rest)
  | input => refuse "variant identifier" input

/-- Read a kind: its name, or an object that gives `null` to its name. -/
def read : Reader ResourceKind := fun input =>
  match dropBlanks input with
  | 0x22 :: rest => readVariant (0x22 :: rest)
  | 0x7b :: rest => do
      let (kind, rest) ← readVariant rest
      let rest ← expect 0x3a rest
      let rest ← match dropBlanks rest with
        | 0x6e :: rest => orMalformed (readNull? (0x6e :: rest))
        | rest => refuse "unit" rest
      let rest ← expect 0x7d rest
      return (kind, rest)
  | _ => .error .malformed

/-- Decode a whole body. -/
def decode (body : List UInt8) : Except DecodeError ResourceKind := do
  let _ ← orMalformed (textOfUtf8? body)
  let (kind, rest) ← read body
  match dropBlanks rest with
  | [] => return kind
  | _ => .error .malformed

end ResourceKind
end TransitLoad
