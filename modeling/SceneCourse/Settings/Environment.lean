import SceneCourse.Number.Numeral
import SceneCourse.Settings.Basic
import SceneCourse.Settings.EnvFile

/-!
Settings in environment variables. Variables that are not set, or set to nothing, leave a setting as
it is; how deep conditions and parameters are followed is not read from the environment.
-/

namespace SceneCourse.Settings

/-- What the names of all variables for settings start with. -/
def variableStart : String := "COURSEKIT_"

/-- The names of the variables that are read. -/
def variableNames : List String :=
  ["DEBUG", "MAX_LOGS", "LOG_LEVEL", "MAX_DRY_RUN_PATHS"].map (variableStart ++ ·)

/-- Words that switch a setting on. -/
def onWords : List String := ["1", "true", "yes", "on"]

/-- A variable that is set to something. -/
def nonEmpty? (env : EnvFile.Variables) (name : String) : Option String :=
  (env.lookup (variableStart ++ name)).filter (· != "")

/-- A whole number in a variable; the default stands where there is none. -/
def wholeNumber (env : EnvFile.Variables) (name : String) (default : Value) : Except Fault Value :=
  match nonEmpty? env name with
  | none => .ok default
  | some text =>
    match Numeral.integer text with
    | .ok n => .ok (.int n)
    | .error cause => .error (.badValue (.integer cause))

/-- An environment after a file of variables has been read, if there is one, and what went wrong. -/
def withFile (env : EnvFile.Variables) (stored : Stored) : EnvFile.Variables × Option Fault :=
  match stored with
  | .file content =>
    if EnvFile.isDisabled env then (env, none)
    else match (Stored.file content).text with
      | .ok text => EnvFile.extend env text
      | .error e => (env, some e)
  | _ => (env, none)

/-- The settings of an environment. -/
def ofEnvironment (env : EnvFile.Variables) : Except Fault Settings := do
  let usual : Settings := {}
  let debug := match env.lookup (variableStart ++ "DEBUG") with
    | some text => .bool (onWords.contains (Text.lower (Text.strip text)))
    | none => usual.debug
  let maxLogs ← wholeNumber env "MAX_LOGS" usual.maxLogs
  let logLevel := match nonEmpty? env "LOG_LEVEL" with
    | some text => .str (Text.upper (Text.strip text))
    | none => usual.logLevel
  let maxDryRunPaths ← wholeNumber env "MAX_DRY_RUN_PATHS" usual.maxDryRunPaths
  return { usual with debug, maxLogs, logLevel, maxDryRunPaths }

end SceneCourse.Settings
