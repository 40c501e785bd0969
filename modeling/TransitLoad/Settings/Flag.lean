import TransitLoad.Text.Shown
import TransitLoad.Url.Parse

/-!
# Flags

Every setting has a flag on the command line, an environment variable, and a
default.  This module names them and reads their values.
-/

namespace TransitLoad

/-- The settings of a test, in the order in which they are declared. -/
inductive Flag where
  | baseUrl
  | duration
  | maxConcurrency
  | minSpawnDelay
  | maxSpawnDelay
  | minActionPause
  | maxActionPause
  | seed
  | requestTimeout
  | tickInterval
  | output
  deriving DecidableEq, Inhabited

namespace Flag

/-- All flags in order. -/
def all : List Flag :=
  [.baseUrl, .duration, .maxConcurrency, .minSpawnDelay, .maxSpawnDelay, .minActionPause,
    .maxActionPause, .seed, .requestTimeout, .tickInterval, .output]

/-- The name of a flag without its dashes. -/
def name : Flag → String
  | .baseUrl => "base-url"
  | .duration => "duration-secs"
  | .maxConcurrency => "max-concurrency"
  | .minSpawnDelay => "min-spawn-delay-ms"
  | .maxSpawnDelay => "max-spawn-delay-ms"
  | .minActionPause => "min-action-pause-ms"
  | .maxActionPause => "max-action-pause-ms"
  | .seed => "seed"
  | .requestTimeout => "request-timeout-ms"
  | .tickInterval => "tick-interval-ms"
  | .output => "output"

/-- The environment variable of a flag, which also names its value. -/
def variableName : Flag → String
  | .baseUrl => "BASE_URL"
  | .duration => "DURATION_SECS"
  | .maxConcurrency => "MAX_CONCURRENCY"
  | .minSpawnDelay => "MIN_SPAWN_DELAY_MS"
  | .maxSpawnDelay => "MAX_SPAWN_DELAY_MS"
  | .minActionPause => "MIN_ACTION_PAUSE_MS"
  | .maxActionPause => "MAX_ACTION_PAUSE_MS"
  | .seed => "SEED"
  | .requestTimeout => "REQUEST_TIMEOUT_MS"
  | .tickInterval => "TICK_INTERVAL_MS"
  | .output => "OUTPUT"

/-- A flag with its value, as messages show it. -/
def usage (flag : Flag) : String := s!"--{flag.name} <{flag.variableName}>"

/-- The flag with this name. -/
def ofName? (name : String) : Option Flag := all.find? fun flag => flag.name = name

end Flag

/-! ## Values -/

/-- Why a text is no value. -/
inductive ValueError where
  | invalidDigit
  | noDigits
  | tooLarge
  | url (error : UrlError)
  deriving DecidableEq

/-- The text that a value error shows. -/
def ValueError.message : ValueError → String
  | .invalidDigit => "invalid digit found in string"
  | .noDigits => "cannot parse integer from empty string"
  | .tooLarge => "number too large to fit in target type"
  | .url error => error.message

/-- Read further digits of a number below `2 ^ 64`; the first problem counts. -/
def readDigits : List Char → Nat → Except ValueError UInt64
  | [], value => .ok (UInt64.ofNat value)
  | c :: rest, value =>
      if c.isDigit then
        let value := value * 10 + (c.toNat - 0x30)
        if value < UInt64.size then readDigits rest value else .error .tooLarge
      else .error .invalidDigit

/-- Read a number below `2 ^ 64`: digits, perhaps after a plus sign. -/
def readNumber (text : String) : Except ValueError UInt64 :=
  match text.toList with
  | [] => .error .noDigits
  | '+' :: [] => .error .invalidDigit
  | '+' :: digits => readDigits digits 0
  | digits => readDigits digits 0

/-- Why the command line or the environment cannot be used. -/
inductive UsageError where
  /-- An argument means nothing. -/
  | unexpected (argument : String)
  /-- A value is given to a flag that takes none. -/
  | unneededValue (value : String)
  /-- A flag has no value. -/
  | missingValue (flag : Flag)
  /-- A flag is given twice. -/
  | repeated (flag : Flag)
  /-- The value of a flag cannot be read. -/
  | invalidValue (flag : Flag) (value : String) (error : ValueError)
  deriving DecidableEq

namespace UsageError

/-- The text that a usage error shows.  What the user wrote is put as a terminal shows
it. -/
def fullMessage : UsageError → String
  | .unexpected argument => s!"error: unexpected argument '{Text.shown argument}' found"
  | .unneededValue value =>
      s!"error: unexpected value '{Text.shown value}' for '--help' found; no more were expected"
  | .missingValue flag =>
      s!"error: a value is required for '{flag.usage}' but none was supplied"
  | .repeated flag => s!"error: the argument '{flag.usage}' cannot be used multiple times"
  | .invalidValue flag value error =>
      s!"error: invalid value '{Text.shown value}' for '{flag.usage}': {error.message}"

/-- The first line of the text.  A carriage return belongs to the line break that it
comes right before. -/
def message (error : UsageError) : String :=
  String.ofList (firstLine error.fullMessage.toList)
where
  /-- The characters before the first line break. -/
  firstLine : List Char → List Char
    | [] => []
    | '\n' :: _ => []
    | '\r' :: '\n' :: _ => []
    | c :: rest => c :: firstLine rest

end UsageError

/-- Read the value of the base URL. -/
def Flag.readUrl (flag : Flag) (text : String) : Except UsageError Url :=
  match Url.parse text with
  | .ok url => .ok url
  | .error error => .error (.invalidValue flag text (.url error))

/-- Read the value of a flag that takes a number. -/
def Flag.readCount (flag : Flag) (text : String) : Except UsageError UInt64 :=
  match readNumber text with
  | .ok count => .ok count
  | .error error => .error (.invalidValue flag text error)

/-- Read the value of a flag that takes a path, which is not empty. -/
def Flag.readPath (flag : Flag) (text : String) : Except UsageError String :=
  if text.isEmpty then .error (.missingValue flag) else .ok text

/-- Check that a text is a value of a flag. -/
def Flag.check (flag : Flag) (text : String) : Except UsageError Unit :=
  match flag with
  | .baseUrl => (flag.readUrl text).map fun _ => ()
  | .output => (flag.readPath text).map fun _ => ()
  | _ => (flag.readCount text).map fun _ => ()

end TransitLoad
