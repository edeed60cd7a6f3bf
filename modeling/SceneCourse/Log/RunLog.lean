import SceneCourse.Course.Checked
import SceneCourse.Json.Record
import SceneCourse.Json.Text
import SceneCourse.Log.Line

/-!
The log of a running course: a window of the last entries. Warnings and errors, or all entries when
the log is verbose, are also written to the diagnostic stream. The data of an entry are held, not
copied, so they follow later edits.
-/

namespace SceneCourse

inductive Level where
  | debug | info | warn | error
  deriving DecidableEq, Repr

inductive Category where
  | event | condition | action | state | scene
  deriving DecidableEq, Repr

def Level.name : Level → String
  | .debug => "debug"
  | .info => "info"
  | .warn => "warn"
  | .error => "error"

def Level.ofName? : String → Option Level
  | "debug" => some .debug
  | "info" => some .info
  | "warn" => some .warn
  | "error" => some .error
  | _ => none

def Level.severity : Level → Severity
  | .debug => .debug
  | .info => .info
  | .warn => .warning
  | .error => .error

def Category.name : Category → String
  | .event => "event"
  | .condition => "condition"
  | .action => "action"
  | .state => "state"
  | .scene => "scene"

def Category.ofName? : String → Option Category
  | "event" => some .event
  | "condition" => some .condition
  | "action" => some .action
  | "state" => some .state
  | "scene" => some .scene
  | _ => none

/-- The level that a host names. -/
def Level.ofValue (v : Value) : Except Fault Level :=
  match v with
  | .str s => (ofName? s).elim (.error (.badValue (.level v))) .ok
  | _ => .error (.badValue (.level v))

/-- The category that a host names. -/
def Category.ofValue (v : Value) : Except Fault Category :=
  match v with
  | .str s => (ofName? s).elim (.error (.badValue (.category v))) .ok
  | _ => .error (.badValue (.category v))

/-- One record of the log. -/
structure LogEntry where
  level : Level
  category : Category
  message : String
  data : Value := .null
  time : Int := 0
  deriving Repr

namespace LogEntry

def dump (e : LogEntry) : Value :=
  .object [("level", .str e.level.name), ("category", .str e.category.name),
    ("message", .str e.message),
    ("data", e.data), ("timestamp", .int e.time)]

def follow (edit : Value.Edit) (e : LogEntry) : LogEntry := { e with data := e.data.follow edit }

/-- The data of an entry behind its message, if they can be shown. -/
def shownData (e : LogEntry) : Except Fault String :=
  match e.data with
  | .null => .ok ""
  | v => v.told.map (" | " ++ ·)

/-- The line that the diagnostic stream gets for an entry. -/
def line (e : LogEntry) : Except Fault String :=
  e.shownData.map fun data =>
    streamLine e.level.severity "engine.runtime" (s!"[{e.category.name}] {e.message}" ++ data)

/-- The only entries without a line are those with an integer in their data that is too long. -/
theorem line_fails_iff (e : LogEntry) :
    (∃ fault, e.line = .error fault) ↔ e.data.holdsLong = true := by
  have line : (∃ fault, e.line = .error fault) ↔ ∃ fault, e.shownData = .error fault := by
    rw [LogEntry.line]
    cases e.shownData <;> simp [Except.map]
  rw [line, shownData]
  split
  next null => simp [null, Value.holdsLong]
  next => cases long : e.data.holdsLong <;> simp [Value.told, long, Except.map]

def readLevel (v : Value) : Checked Level :=
  match v with
  | .str s => (Level.ofName? s).elim (.complain .notMember) .ok
  | _ => .complain .notMember

def readCategory (v : Value) : Checked Category :=
  match v with
  | .str s => (Category.ofName? s).elim (.complain .notMember) .ok
  | _ => .complain .notMember

/-- The entry that a mapping writes. -/
def read (v : Value) : Checked LogEntry :=
  v.readRecord fun es => mk <$> requiredField es ["level"] readLevel
    <*> requiredField es ["category"] readCategory
    <*> requiredField es ["message"] Value.readText
    <*> optionalField es ["data"] .null .ok
    <*> optionalField es ["timestamp"] 0 Value.readInteger

end LogEntry

/-- The window, oldest entry first; without a capacity it keeps every entry. `lines` is what the
diagnostic stream got. -/
structure RunLog where
  capacity : Option Nat := some 1000
  verbose : Bool := false
  entries : List LogEntry := []
  lines : List String := []
  /-- How many entries have been taken in so far. This is history: nothing depends on it. -/
  taken : Nat := 0

namespace RunLog

/-- The last entries that a capacity leaves room for. -/
def window (capacity : Option Nat) (es : List LogEntry) : List LogEntry :=
  match capacity with
  | none => es
  | some n => es.drop (es.length - n)

/-- The capacity that a setting names. -/
def capacityOf : Value → Except Fault (Option Nat)
  | .null => .ok none
  | .int n => if 0x8000000000000000 ≤ n || n < -0x8000000000000000 then .error .tooLarge
    else if n < 0 then .error (.badValue .negativeCapacity)
    else .ok (some n.toNat)
  | .bool b => .ok (some (if b then 1 else 0))
  | v => .error (.wrongKind "being a capacity" v.kindName)

/-- A new log with the settings for its capacity and for writing every entry to the stream. -/
def ofSettings (capacity verbose : Value) : Except Fault RunLog := do
  return { capacity := ← capacityOf capacity, verbose := verbose.truthy }

def size (log : RunLog) : Nat := log.entries.length

def reachesStream (log : RunLog) (e : LogEntry) : Bool :=
  log.verbose || e.level == .warn || e.level == .error

/-- The log with one entry more. An entry whose data cannot be shown has no line. -/
def add (log : RunLog) (e : LogEntry) : RunLog :=
  { log with
    entries := window log.capacity (log.entries ++ [e])
    lines := if log.reachesStream e then log.lines ++ e.line.toOption.toList else log.lines
    taken := log.taken + 1 }

/-- How writing an entry ends: well, unless the stream should get a line and there is none. -/
def outcome (log : RunLog) (e : LogEntry) : Except Fault Unit :=
  if log.reachesStream e then e.line.map fun _ => () else .ok ()

def addAll (log : RunLog) (es : List LogEntry) : RunLog := es.foldl add log

/-- Writing an entry whose data can be shown ends well. -/
theorem outcome_of_short (log : RunLog) {e : LogEntry} (short : e.data.holdsLong = false) :
    log.outcome e = .ok () := by
  have lined : ∀ fault, e.line ≠ .error fault := by
    intro fault none
    simp [e.line_fails_iff.mp ⟨fault, none⟩] at short
  rw [outcome]
  split
  · cases line : e.line with
    | ok l => rfl
    | error fault => exact absurd line (lined fault)
  · rfl

/-- The entry that a host asks for. The level is checked first, then the category, then the
message. -/
def entryOf (level category message : Value) (data : Value) : Except Fault LogEntry := do
  let level ← Level.ofValue level
  let category ← Category.ofValue category
  let message ← (message.readText.inside (.field "message")).toExcept "LogEntry"
  return { level, category, message, data }

/-- Writes the entry that a host asks for. A refused one leaves the log alone; any other stays
there, also when the stream should get a line and there is none. -/
def write (log : RunLog) (level category message data : Value) : Except Fault LogEntry × RunLog :=
  match entryOf level category message data with
  | .ok e => ((log.outcome e).map fun _ => e, log.add e)
  | .error fault => (.error fault, log)

/-- The last `n` entries, none if `n` is not positive. -/
def recent (log : RunLog) (n : Int) : List LogEntry :=
  log.entries.drop (log.entries.length - n.toNat)

/-- The last entries by a count that a host gives. -/
def recentOf (log : RunLog) : Value → Except Fault (List LogEntry)
  | .int n => .ok (log.recent n)
  | .bool b => .ok (log.recent (if b then 1 else 0))
  | .float x => if x.le .zero then .ok [] else .error (.wrongKind "counting" "float")
  | v => .error (.wrongKind "counting" v.kindName)

def byLevel (log : RunLog) (l : Level) : List LogEntry := log.entries.filter (·.level == l)

def byCategory (log : RunLog) (c : Category) : List LogEntry := log.entries.filter (·.category == c)

def clear (log : RunLog) : RunLog := { log with entries := [] }

/-- All entries as JSON text, oldest first. -/
def exportText (log : RunLog) (indent : Option Nat) : Except Fault String := do
  let records ← log.entries.mapM fun e => e.dump.record
  Json.text (.ofIndent true indent) (.ofList records)

/-- The entries that a text exports, or the number of its defects. The rules are those of the
program's reader; others say what a reader with more or less room would make of the text. -/
def readExport (text : String) (rules : Json.Rules := .records) : Except Nat (List LogEntry) :=
  match Json.parse rules text with
  | .error _ => .error 1
  | .ok v =>
    match v.readList LogEntry.read with
    | .ok es => .ok es
    | .faulty cs => .error cs.length
    | .stopped _ => .error 1

/-- Replaces the entries by those that a text exports; a text that exports none is reported on the
stream. -/
def importText (log : RunLog) (text : String) (rules : Json.Rules := .records) : Bool × RunLog :=
  match readExport text rules with
  | .ok es => (true, { log with entries := window log.capacity es, taken := log.taken + es.length })
  | .error n =>
    let line := streamLine .error "engine.runtime" s!"Failed to import logs: {n} invalid field(s)"
    (false, { log with lines := log.lines ++ [line] })

def follow (edit : Value.Edit) (log : RunLog) : RunLog :=
  { log with entries := log.entries.map (·.follow edit) }

end RunLog

end SceneCourse
