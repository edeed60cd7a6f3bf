import SceneCourse.Value.Display
import SceneCourse.Fault
import SceneCourse.Text.Letter

/-!
Lines of the diagnostic stream. Every line names its severity and the part of the program that it
comes from; on a terminal it is coloured by severity. `Stream` is the set-up of the stream: lines
below its threshold are dropped.
-/

namespace SceneCourse

inductive Severity where
  | debug | info | warning | error | critical
  deriving DecidableEq, Repr

namespace Severity

def name : Severity → String
  | debug => "DEBUG"
  | info => "INFO"
  | warning => "WARNING"
  | error => "ERROR"
  | critical => "CRITICAL"

def rank : Severity → Nat
  | debug => 10
  | info => 20
  | warning => 30
  | error => 40
  | critical => 50

def ofName? : String → Option Severity
  | "DEBUG" => some debug
  | "INFO" => some info
  | "WARNING" => some warning
  | "ERROR" => some error
  | "CRITICAL" => some critical
  | _ => none

/-- The sequence that switches a terminal to the colour of a severity. -/
def colour? : Severity → Option String
  | debug => some "\x1b[2m"
  | info => none
  | warning => some "\x1b[33m"
  | error => some "\x1b[31m"
  | critical => some "\x1b[1;31m"

end Severity

/-- The root of all source names. -/
def rootSource : String := "coursekit"

/-- The full name of a source: below the root, unless it is so already. -/
def fullSource (name : String) : String :=
  if name == rootSource || name.startsWith (rootSource ++ ".") then name
    else rootSource ++ "." ++ name

/-- A full name without the root, where something follows the root. -/
def shortSource (full : String) : String :=
  let root := (rootSource ++ ".").toList
  if root.isPrefixOf full.toList then .ofList (full.toList.drop root.length) else full

/-- A line of the stream: the severity in seven columns, the source in brackets, the message. -/
def streamLine (severity : Severity) (source message : String) : String :=
  let name := severity.name
  name ++ .ofList (List.replicate (7 - name.length) ' ') ++
    s!" [{shortSource (fullSource source)}] {message}"

/-- Names with the values that they are shown with. -/
def shownFields (fields : List (String × Value)) : String :=
  ", ".intercalate (fields.map fun (k, v) => k ++ "=" ++ v.shown)

/-- The message about an operation and its details. -/
def operationMessage (operation : String) (details : List (String × Value)) : String :=
  if details.isEmpty then operation else operation ++ ": " ++ shownFields details

/-- The message about an operation that failed with a fault of a kind. -/
def failureMessage (operation kind message : String) (context : List (String × Value)) : String :=
  s!"{operation} failed: {kind}: {message}" ++
    if context.isEmpty then "" else " (" ++ shownFields context ++ ")"

/-- The set-up of the diagnostic stream. -/
structure Stream where
  threshold : Severity := .warning
  colours : Bool := false

namespace Stream

/-- The severities that a set-up may ask for. -/
def threshold? (name : String) : Option Severity :=
  match Severity.ofName? (Text.upper name) with
  | some .critical => none
  | s => s

/-- A set-up with a threshold by name; the letters' case does not matter. -/
def setup (level : String) (colours : Bool) : Except Fault Stream :=
  match threshold? level with
  | some threshold => .ok ⟨threshold, colours⟩
  | none => .error (.badValue (.loggingLevel (Text.upper level)))

/-- A set-up with a threshold by a value, which must be a text. -/
def ofLevel (level : Value) (colours : Bool) : Except Fault Stream :=
  match level with
  | .str name => setup name colours
  | v => .error (.noOperation "letters" v.kindName)

/-- The line for a record with the colour of its severity, none below the threshold. The colour is
still on at the end of the line. -/
def openLine? (s : Stream) (severity : Severity) (source message : String) : Option String :=
  if severity.rank < s.threshold.rank then none
  else
    let line := streamLine severity source message
    some (if s.colours then severity.colour?.getD "" ++ line else line)

/-- The line for a record, none below the threshold. -/
def line? (s : Stream) (severity : Severity) (source message : String) : Option String :=
  (s.openLine? severity source message).map fun line =>
    if s.colours && severity.colour?.isSome then line ++ "\x1b[0m" else line

/-- The first part of the record of a failure. What follows on lines of their own, up to the end of
the colour, says where the failure arose. -/
def failureLine? (s : Stream) (source message : String) : Option String :=
  (s.openLine? .error source message).map fun line => if line.endsWith "\n"
    then (line.dropEnd 1).toString else line

end Stream

end SceneCourse
