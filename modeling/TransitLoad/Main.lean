import TransitLoad.Program

/-!
# The command line

Runs the program on the arguments and the environment of the process, and stores the
report in its working directory.  There is no network here, so every connection is
refused.
-/

open TransitLoad

/-- Carry out a file operation. -/
def attemptFile (operation : IO Unit) : IO (Except FileError Unit) := do
  try
    operation
    return .ok ()
  catch
    | .noFileOrDirectory _ _ _ => return .error .notFound
    | .alreadyExists _ _ _ => return .error .alreadyExists
    | error => return .error (.other (toString error))

/-- The file system of the process.  A directory is told by the entry for itself that
it has. -/
def hostStorage : Storage IO where
  makeDirectory path := attemptFile (IO.FS.createDir path)
  isDirectory path := do
    match ← attemptFile (IO.FS.createDir (path ++ "/.")) with
    | .error .alreadyExists => return true
    | _ => return false
  writeFile path bytes := attemptFile (IO.FS.writeBinFile path ⟨bytes.toArray⟩)

/-- The variables of the process that the program reads. -/
def readEnvironment : IO Environment := do
  let names := Program.filterVariable :: Flag.all.map Flag.variableName
  let pairs ← names.mapM fun name => do
    return (← IO.getEnv name).map fun value => (name, value)
  return pairs.filterMap id

def main (arguments : List String) : IO UInt32 := do
  let finish ← Program.execute hostStorage Http.unreachableApi arguments (← readEnvironment)
  IO.print finish.output
  IO.eprint finish.errors
  return finish.exitCode.toUInt32
