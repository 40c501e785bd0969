import TransitLoad.Http
import TransitLoad.Log.Filter
import TransitLoad.Report.Document
import TransitLoad.Report.Lines
import TransitLoad.Settings.Help

/-!
# The program

From arguments and an environment to a report.  Lines of the log and the samples go
to the output; errors go elsewhere, and the exit code tells them apart.
-/

namespace TransitLoad

/-- What remains of the program when it ends. -/
structure Finish where
  exitCode : UInt8
  output : String
  errors : String
  deriving DecidableEq

namespace Program

/-- The environment variable that holds the log filter. -/
def filterVariable : String := "RUST_LOG"

/-- The text of an error: what failed, and the cause if there is one. -/
def errorText : List String → String
  | [] => ""
  | [message] => s!"Error: {message}\n"
  | message :: cause :: _ => s!"Error: {message}\n\nCaused by:\n    {cause}\n"

/-- A line of the program itself. -/
def line (message : String) : LogLine := ⟨.info, .program, message⟩

/-- What the program says before a test. -/
def openingLines (settings : Settings) : List LogLine :=
  [line (rule 60),
    line "           TRANSITER LOAD TEST",
    line (rule 60),
    line s!"Target: {settings.baseUrl.text}",
    line s!"Duration: {settings.durationSeconds}s",
    line s!"Max Concurrency: {settings.maxConcurrency}",
    line s!"Spawn Delay: {settings.minSpawnDelay}-{settings.maxSpawnDelay}ms",
    line s!"Action Pause: {settings.minActionPause}-{settings.maxActionPause}ms",
    line s!"Seed: {settings.seed}",
    line (rule 60),
    line "Using fetcher: http"]

/-- What the program says after a test. -/
def closingLines : List LogLine :=
  [line (rule 60), line "                 LOAD TEST COMPLETE", line (rule 60)]

/-- Report on a test that is over. -/
def conclude
    [Monad m]
    (storage : Storage m)
    (filter : LogFilter)
    (settings : Settings)
    (state : RunState) : m Finish := do
  let summary := state.summary
  let lines := openingLines settings ++ state.notes.toList.filterMap RunNote.line? ++
    summary.logLines
  let output := filter.text lines ++ summary.sampleText
  match settings.output with
  | none => return ⟨0, output ++ filter.text closingLines, ""⟩
  | some path =>
      match ← summary.store storage path with
      | .ok stored => return ⟨0, output ++ filter.text (stored :: closingLines), ""⟩
      | .error error => return ⟨1, output, errorText error.messages⟩

/-- Run the program. -/
def execute
    [Monad m]
    (storage : Storage m)
    (api : Api)
    (arguments : List String)
    (environment : Environment) : m Finish := do
  let filter := LogFilter.ofVariable (environment.lookup filterVariable)
  match Settings.parse arguments environment with
  | .error .help => return ⟨0, helpText environment, ""⟩
  | .error (.error error) => return ⟨2, "", error.message⟩
  | .ok settings =>
      match settings.validate with
      | .error error => return ⟨1, "", errorText (RunFailure.invalidSettings error).messages⟩
      | .ok () =>
          let plan : RunPlan := ⟨settings, api, fun _ => 0⟩
          match plan.finalState with
          | .ok state => conclude storage filter settings state
          | .error error =>
              return ⟨1, filter.text (openingLines settings), errorText error.messages⟩

end Program
end TransitLoad
