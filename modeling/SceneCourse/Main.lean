import SceneCourse.Command.Run

/-!
The program: reads the variables and the course file that a command line needs, and prints what the
run comes to.
-/

open SceneCourse

/-- What a path leads to. -/
def storedAt (path : String) : IO Stored := do
  try
    return .file (← IO.FS.readBinFile path)
  catch
    | .noFileOrDirectory .. => return .nothing
    | .inappropriateType .. => return .folder
    | e => throw e

/-- The variables that are set, of those that settings are read from. -/
def givenVariables : IO EnvFile.Variables := do
  let found ← Settings.variableNames.mapM fun name => return (name, ← IO.getEnv name)
  return found.filterMap fun (name, value) => value.map (name, ·)

def main (args : List String) : IO UInt32 := do
  let outcome ← match Command.plan (← givenVariables) args with
    | .ended outcome => pure outcome
    | .start job settings => pure (job.run settings (← storedAt job.path))
  for line in outcome.lines do
    IO.println line
  if let some e := outcome.fault then
    IO.eprintln (e.kind ++ ": " ++ e.message)
  return UInt32.ofNat outcome.code
