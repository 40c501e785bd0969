/-!
# The log

Lines of a log have a level, a target that says which part of the program writes
them, and a message.  A filter decides which lines are shown.
-/

namespace TransitLoad

/-- How important a line is. -/
inductive Level where
  | error
  | warning
  | info
  | debug
  | trace
  deriving DecidableEq, Inhabited

namespace Level

/-- The more is shown, the higher the rank that is asked for. -/
def rank : Level → Nat
  | .error => 1
  | .warning => 2
  | .info => 3
  | .debug => 4
  | .trace => 5

/-- The name of a level in a line. -/
def name : Level → String
  | .error => "ERROR"
  | .warning => "WARN"
  | .info => "INFO"
  | .debug => "DEBUG"
  | .trace => "TRACE"

end Level

/-- The part of the program that writes a line. -/
inductive LogTarget where
  | program
  | driver
  | walker
  | report
  deriving DecidableEq, Inhabited

/-- The name of a target in a line. -/
def LogTarget.name : LogTarget → String
  | .program => "transiter_loadtest"
  | .driver => "transiter_loadtest::driver"
  | .walker => "transiter_loadtest::walker"
  | .report => "transiter_loadtest::report"

/-- A line of the log. -/
structure LogLine where
  level : Level
  target : LogTarget
  message : String
  deriving DecidableEq, Inhabited

/-- A line as it is printed: the level aligned to the right, the target and the
message. -/
def LogLine.text (line : LogLine) : String :=
  let name := line.level.name
  "".pushn ' ' (5 - name.length) ++ s!"{name} {line.target.name}: {line.message}\n"

end TransitLoad
