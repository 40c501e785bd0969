import TransitLoad.Settings.Arguments

/-!
# The help text

Every flag with its purpose, its environment variable and what that holds, and its
default.  The names of flags are bold where that can be shown.
-/

namespace TransitLoad

/-- What a setting is for. -/
def Flag.purpose : Flag → String
  | .baseUrl => "Root URL of the API under test"
  | .duration => "Total test duration in seconds; no walkers are spawned after it elapses"
  | .maxConcurrency => "Maximum number of concurrently running walkers"
  | .minSpawnDelay => "Lower bound of the delay before each spawn, in milliseconds"
  | .maxSpawnDelay => "Upper bound of the delay before each spawn, in milliseconds"
  | .minActionPause => "Lower bound of the pause between walker steps, in milliseconds"
  | .maxActionPause => "Upper bound of the pause between walker steps, in milliseconds"
  | .seed => "Seed for every random choice made during the run"
  | .requestTimeout => "Per-request HTTP timeout in milliseconds"
  | .tickInterval => "Interval between in-use reports, in milliseconds"
  | .output => "Write a JSON report to this path"

/-- A text in bold type. -/
def bold (text : String) : String := "\x1b[1m" ++ text ++ "\x1b[0m"

/-- Indent all lines of a text but the first. -/
def indentFurtherLines (text : String) : String :=
  String.ofList (text.toList.flatMap fun c =>
    if c = '\n' then '\n' :: List.replicate 10 ' ' else [c])

/-- The lines about a flag. -/
def Flag.help (environment : Environment) (flag : Flag) : String :=
  let held := (environment.lookup flag.variableName).getD ""
  let default := match Settings.defaultText? flag with
    | some text => s!" [default: {text}]"
    | none => ""
  let purpose := s!"{flag.purpose} [env: {flag.variableName}={held}]{default}"
  let name := bold ("--" ++ flag.name)
  s!"      {name} <{flag.variableName}>\n          {indentFurtherLines purpose}\n"

/-- The help text in types. -/
def typesetHelp (environment : Environment) : String :=
  "Randomized traversal load test for a Transiter API\n\n" ++
    "Usage: transiter-loadtest [OPTIONS]\n\nOptions:\n" ++
    String.join (Flag.all.map (Flag.help environment)) ++
    "  " ++ bold "-h" ++ ", " ++ bold "--help" ++ "\n          Print help\n"

/-- The help text as it is shown.  A control sequence that the environment leaves open
hides what follows, up to the next bold name. -/
def helpText (environment : Environment) : String :=
  Text.shown (typesetHelp environment)

end TransitLoad
