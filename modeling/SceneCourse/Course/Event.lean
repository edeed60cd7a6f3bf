import SceneCourse.Course.Checked

/-!
Events of a running course, and the requests for toasts and dialogs that a course hands to its host.
-/

namespace SceneCourse

/-- An event with its kind, the node or scene that it concerns, and free data. -/
structure Event where
  kind : String
  target : Option String := none
  payload : Option (List (String × Value)) := none
  time : Int := 0
  deriving Repr, Inhabited

namespace Event

/-- The event that follows every scene change. -/
def sceneEnter (sceneId : String) : Event := { kind := "sceneEnter", target := some sceneId }

def readPayload : Value → Checked (Option (List (String × Value)))
  | .null => .ok none
  | v => (v.readTextMap).map some

/-- The event that a mapping writes. -/
def ofValue (v : Value) : Except Fault Event :=
  (v.readRecord fun es => mk <$> requiredField es ["type"] Value.readText
    <*> optionalField es ["target"] none Value.readOptionalText
    <*> optionalField es ["payload"] none readPayload
    <*> optionalField es ["ts"] 0 Value.readInteger).toExcept "RuntimeEvent"

/-- An optional text as a value. -/
def optionalText (t : Option String) : Value := t.elim .null .str

def dump (e : Event) : Value :=
  .object [("type", .str e.kind), ("target", optionalText e.target),
    ("payload", e.payload.elim .null .object), ("ts", .int e.time)]

/-- An event as messages name it; an empty target is not named. -/
def shown (e : Event) : String :=
  match e.target with
  | none | some "" => s!"Event({e.kind})"
  | some t => s!"Event({e.kind} -> {t})"

/-- The kind and target of an event, as log entries give them. -/
def summary (e : Event) : Value :=
  .object [("type", .str e.kind), ("target", optionalText e.target)]

/-- The event written `KIND` or `KIND:TARGET`. -/
def ofSpec (spec : String) : Except Fault Event :=
  let kind := spec.toList.takeWhile (· != ':')
  let target := (spec.toList.dropWhile (· != ':')).drop 1
  if kind.isEmpty then .error (.badEventText spec)
  else .ok { kind := .ofList kind, target := if target.isEmpty then none
    else some (.ofList target) }

end Event

inductive UiKind where
  | toast | modal
  deriving DecidableEq, Repr

def UiKind.name : UiKind → String
  | .toast => "toast"
  | .modal => "modal"

/-- A request to the host; the text is complete, the options are the remaining parameters. -/
structure UiRequest where
  kind : UiKind
  text : String
  options : List (String × Value)
  deriving Repr

def UiRequest.dump (r : UiRequest) : Value :=
  .object [("kind", .str r.kind.name), ("text", .str r.text), ("options", .object r.options)]

end SceneCourse
