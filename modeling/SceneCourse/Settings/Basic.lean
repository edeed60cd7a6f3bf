import SceneCourse.Json.Printer
import SceneCourse.Json.Reader
import SceneCourse.Log.RunLog
import SceneCourse.Session.Basic
import SceneCourse.Stored

/-!
Settings of a session and of a dry run. They are taken as they are written, whatever their kind;
what a setting must be shows only where it is used. Unknown settings are passed over.
-/

namespace SceneCourse

structure Settings where
  debug : Value := .bool false
  maxLogs : Value := .int 1000
  logLevel : Value := .str "WARNING"
  maxConditionDepth : Value := .int 64
  maxResolveDepth : Value := .int 64
  maxDryRunPaths : Value := .int 10000

namespace Settings

/-- The settings with one of them changed; none if there is none of that name. -/
def with? (s : Settings) (name : String) (v : Value) : Option Settings :=
  match name with
  | "debug" => some { s with debug := v }
  | "max_logs" => some { s with maxLogs := v }
  | "log_level" => some { s with logLevel := v }
  | "max_condition_depth" => some { s with maxConditionDepth := v }
  | "max_resolve_depth" => some { s with maxResolveDepth := v }
  | "max_dry_run_paths" => some { s with maxDryRunPaths := v }
  | _ => none

/-- Names that mean something for the settings as a whole and so cannot be given a value. -/
def reservedNames : List String := ["from_dict", "to_dict", "load", "save", "from_env", "mro",
  "__annotations__", "__base__", "__bases__", "__basicsize__", "__call__", "__class__",
    "__dataclass_fields__",
  "__dataclass_params__", "__delattr__", "__dict__", "__dictoffset__", "__dir__", "__doc__",
    "__eq__", "__flags__",
  "__format__", "__ge__", "__getattribute__", "__getstate__", "__gt__", "__hash__", "__init__",
    "__init_subclass__",
  "__instancecheck__", "__itemsize__", "__le__", "__lt__", "__match_args__", "__module__",
    "__mro__", "__name__",
  "__ne__", "__new__", "__or__", "__prepare__", "__qualname__", "__reduce__",
    "__reduce_ex__", "__repr__",
  "__ror__", "__setattr__", "__sizeof__", "__str__", "__subclasscheck__", "__subclasses__",
    "__subclasshook__",
  "__text_signature__", "__weakref__", "__weakrefoffset__"]

/-- One entry taken over. -/
def take (s : Settings) (entry : Key × Value) : Except Fault Settings :=
  match entry with
  | (.str name, v) =>
    if reservedNames.contains name then .error (.wrongKind "taking a setting" name)
    else .ok ((s.with? name v).getD s)
  | (k, _) => .error (.wrongKind "naming a setting" k.value.kindName)

/-- The settings that a mapping writes, with defaults for the others. -/
def ofValue : Value → Except Fault Settings
  | .map _ es => es.foldlM take {}
  | v => .error (.noOperation "entries" v.kindName)

def value (s : Settings) : Value :=
  .object [("debug", s.debug), ("max_logs", s.maxLogs), ("log_level", s.logLevel),
    ("max_condition_depth", s.maxConditionDepth), ("max_resolve_depth", s.maxResolveDepth),
    ("max_dry_run_paths", s.maxDryRunPaths)]

/-- The text of a file that holds the settings. -/
def text (s : Settings) : String := Json.print (.lines true 2) s.value

/-- The settings that a file holds; where there is no file the defaults stand. -/
def ofStored (stored : Stored) : Except Fault Settings := do
  match stored with
  | .nothing => return {}
  | stored =>
    match Json.parse .documents (← stored.text) with
    | .ok v => ofValue v
    | .error .syntaxError => .error .badJson
    | .error (.badInteger cause) => .error (.badValue (.integer cause))

/-- A new log as the settings ask for it. -/
def log (s : Settings) : Except Fault RunLog := RunLog.ofSettings s.maxLogs s.debug

def limits (s : Settings) : Limits := ⟨s.maxConditionDepth, s.maxResolveDepth⟩

/-- The threshold of the diagnostic stream; debugging has the lowest one. -/
def threshold (s : Settings) (verbose : Bool) : Value :=
  if verbose || s.debug.truthy then .str "DEBUG" else s.logLevel

/-- The diagnostic stream as the settings ask for it. -/
def stream (s : Settings) (verbose colours : Bool) : Except Fault Stream :=
  Stream.ofLevel (s.threshold verbose) colours

end Settings

end SceneCourse
