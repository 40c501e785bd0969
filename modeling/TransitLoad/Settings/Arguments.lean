import TransitLoad.Settings.Basic

/-!
# Arguments and environment

Settings come from the command line, else from the environment, else they have
their defaults.  Arguments are read from left to right and the first problem
counts; then the environment is read, in the order of the flags, for those flags
that were not given.

A flag and its value are one argument with an equals sign or two arguments.  In the
second form the value waits to be checked until the next flag, or the end, so an
argument that means nothing is reported first.
-/

namespace TransitLoad

/-- What the environment holds, by the names of variables. -/
abbrev Environment := List (String × String)

/-- Why there are no settings. -/
inductive UsageStop where
  /-- The help text was asked for. -/
  | help
  /-- The command line or the environment cannot be used. -/
  | error (error : UsageError)
  deriving DecidableEq

/-! ## Arguments -/

/-- The texts given to flags so far, the last one first. -/
abbrev Given := List (Flag × String)

/-- A flag that stands alone, and the value that followed it, if one did. -/
structure Waiting where
  flag : Flag
  value : Option String
  deriving DecidableEq

/-- Take the text given to a flag. -/
def Given.accept (given : Given) (flag : Flag) (value : String) : Except UsageStop Given :=
  if (given.lookup flag).isSome then .error (.error (.repeated flag))
  else
    match flag.check value with
    | .ok () => .ok ((flag, value) :: given)
    | .error error => .error (.error error)

/-- Take the value that a flag waits for, if a flag waits. -/
def Given.settle (given : Given) : Option Waiting → Except UsageStop Given
  | none => .ok given
  | some ⟨flag, none⟩ => .error (.error (.missingValue flag))
  | some ⟨flag, some value⟩ => given.accept flag value

/-- An argument, by what it looks like. -/
inductive ArgumentForm where
  /-- Two dashes alone: all further arguments are no flags. -/
  | separator
  /-- A flag with two dashes, and a value after an equals sign. -/
  | long (name : String) (value : Option String)
  /-- Flags of one letter after one dash. -/
  | short (letter : Char)
  /-- Anything else. -/
  | plain
  deriving DecidableEq

/-- What an argument looks like. -/
def argumentForm (argument : String) : ArgumentForm :=
  match argument.toList with
  | ['-', '-'] => .separator
  | '-' :: '-' :: rest =>
      let name := String.ofList (rest.takeWhile (· != '='))
      match rest.dropWhile (· != '=') with
      | _ :: value => .long name (some (String.ofList value))
      | [] => .long name none
  | '-' :: letter :: _ => .short letter
  | _ => .plain

/-- Refuse an argument. -/
def unexpected (argument : String) : Except UsageStop α :=
  .error (.error (.unexpected argument))

/-- Read arguments from left to right. -/
def readArguments (given : Given) (waiting : Option Waiting) :
    List String → Except UsageStop Given
  | [] => given.settle waiting
  | argument :: rest =>
      match argumentForm argument with
      | .separator =>
          match rest with
          | [] => given.settle waiting
          | extra :: _ => unexpected extra
      | .long name value =>
          if name = "help" then
            match value with
            | none => do
                let _ ← given.settle waiting
                .error .help
            | some value => .error (.error (.unneededValue value))
          else
            match Flag.ofName? name, value with
            | none, _ => unexpected ("--" ++ name)
            | some flag, none => do
                let given ← given.settle waiting
                readArguments given (some ⟨flag, none⟩) rest
            | some flag, some value => do
                let given ← given.settle waiting
                let given ← given.accept flag value
                readArguments given none rest
      | .short letter =>
          if letter = 'h' then do
            let _ ← given.settle waiting
            .error .help
          else unexpected ("-" ++ letter.toString)
      | .plain =>
          match waiting with
          | some ⟨flag, none⟩ => readArguments given (some ⟨flag, some argument⟩) rest
          | _ => unexpected argument

/-! ## Settings -/

/-- The text of a flag: the one given to it, or else the one in the environment. -/
def settingText? (given : Given) (environment : Environment) (flag : Flag) : Option String :=
  given.lookup flag <|> environment.lookup flag.variableName

namespace Settings

/-- Read the text of a flag; without one the default counts. -/
def readOr (read : String → Except UsageError α) (default : α) :
    Option String → Except UsageError α
  | some text => read text
  | none => .ok default

/-- The settings for the texts of flags; a flag without a text has its default. -/
def ofTexts (text? : Flag → Option String) : Except UsageError Settings := do
  let count (flag : Flag) (default : UInt64) : Except UsageError UInt64 :=
    readOr flag.readCount default (text? flag)
  let baseUrl ← readOr Flag.baseUrl.readUrl defaults.baseUrl (text? .baseUrl)
  let durationSeconds ← count .duration defaults.durationSeconds
  let maxConcurrency ← count .maxConcurrency defaults.maxConcurrency
  let minSpawnDelay ← count .minSpawnDelay defaults.minSpawnDelay
  let maxSpawnDelay ← count .maxSpawnDelay defaults.maxSpawnDelay
  let minActionPause ← count .minActionPause defaults.minActionPause
  let maxActionPause ← count .maxActionPause defaults.maxActionPause
  let seed ← count .seed defaults.seed
  let requestTimeout ← count .requestTimeout defaults.requestTimeout
  let tickInterval ← count .tickInterval defaults.tickInterval
  let output ← readOr (fun text => (Flag.output.readPath text).map some) none (text? .output)
  return ⟨baseUrl, durationSeconds, maxConcurrency, minSpawnDelay, maxSpawnDelay, minActionPause,
    maxActionPause, seed, requestTimeout, tickInterval, output⟩

/-- The settings for a command line and an environment. -/
def parse (arguments : List String) (environment : Environment) : Except UsageStop Settings := do
  let given ← readArguments [] none arguments
  match ofTexts (settingText? given environment) with
  | .ok settings => return settings
  | .error error => throw (.error error)

end Settings
end TransitLoad
