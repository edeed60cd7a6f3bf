import SceneCourse.Session.Basic
import SceneCourse.State.Truth

/-!
Running actions. Actions change the state and call back to navigate and to present; each is done
before the next one starts, and `parallel` is no exception. An action that cannot be read, or that
has no meaning, leaves a note and nothing else.
-/

namespace SceneCourse

/-- Adds two numbers. An integer meets a binary64 number as the nearest one, if there is one. -/
def Amount.add : Amount → Amount → Except Fault Amount
  | .int a, .int b => .ok (.int (a + b))
  | .float x, .float y => .ok (.float (x.add y))
  | .int a, .float y =>
    match Binary64.ofInt? a with
    | some x => .ok (.float (x.add y))
    | none => .error .tooLarge
  | .float x, .int b =>
    match Binary64.ofInt? b with
    | some y => .ok (.float (x.add y))
    | none => .error .tooLarge

/-- Where actions lead that leave the state: to another scene, and to what the host presents. -/
structure Callbacks (η : Type) where
  goto : Option (String → Step (Session η) Unit)
  present : Option (UiRequest → Step (Session η) Unit)

namespace Session

variable {η : Type}

/-- The number to add to at a path, and whether something else stands there. Nothing counts as
zero. -/
def addend (v : Value) : Except Fault (Amount × Bool) :=
  match v with
  | .null => .ok (.int 0, false)
  | .int n => .ok (.int n, false)
  | .float x => .ok (.float x, false)
  | v => do
    let x ← v.toNumber
    return if x.isNaN then (.int 0, true) else (.float x, false)

/-- Adds to the number at a path. -/
def increment (path : String) (amount : Amount) : Step (Session η) Unit := do
  let old ← Step.bind Step.current fun s => Step.ofExcept (s.store.get path)
  let (base, foreign) ← Step.ofExcept (addend old)
  if foreign then write .warn .state s!"Non-numeric value at {path} treated as 0" (.object [("value", old)])
  let sum ← Step.ofExcept (base.add amount)
  let written ← setCopy path sum.value
  let added ← Step.ofExcept amount.value.told
  write .debug .state s!"Incremented {path} by {added}" (.object [("value", written)])

/-- Writes a value, or a copy of the value that it refers to. -/
def assign (path : String) (v : Value) : Step (Session η) Unit := do
  let v ← current v
  let found ← ask fun store _ => store.resolve v
  let written ← setCopy path found
  write .debug .state s!"Set {path}" (.object [("value", written)])

/-- The request that a toast or a dialog makes. -/
def request (kind : UiKind) (text : String) (extras : List (String × Value)) (store : Store)
    (limits : Limits) : Noted UiRequest := do
  let text ← Noted.ofExcept (store.interpolate text)
  let options ← store.resolveWhole limits.resolve (.object extras)
  let options ← Noted.ofExcept
    (((options.readTextMap).inside (.field "options")).toExcept "UIAction")
  return ⟨kind, text, options⟩

def present (cb : Callbacks η) (kind : UiKind) (text : String) (extras : List (String × Value)) :
    Step (Session η) Unit := do
  let extras ← Step.bind Step.current fun s => Step.pure (mapFields s.refresh extras)
  let r ← ask (request kind text extras)
  match cb.present with
  | some call => call r
  | none => write .debug .action s!"No UI handler for {kind.name}: {r.text}"

/-- Leaves the scene for another one. -/
def leaveFor (cb : Callbacks η) (sceneId : String) : Step (Session η) Unit :=
  match cb.goto with
  | some call => call sceneId
  | none => write .warn .scene s!"gotoScene({sceneId}) ignored: no scene-change handler"

def announce (tag : String) : Step (Session η) Unit :=
  write .debug .action s!"Executing action: {tag}"

mutual

def execute (cb : Callbacks η) : Action → Step (Session η) Unit
  | .gotoScene sceneId _ => do announce "gotoScene"; leaveFor cb sceneId
  | .setVar path value => do announce "setVar"; assign path value
  | .incVar path amount => do announce "incVar"; increment path amount
  | .addScore value => do announce "addScore"; increment scorePath value
  | .toast text extras => do announce "toast"; present cb .toast text extras
  | .modal text extras => do announce "modal"; present cb .modal text extras
  | .resetNode nodeId => do announce "resetNode"; setNode nodeId .emptyMap
  | .delay _ => announce "delay"
  | .sequence actions => do announce "sequence"; executeAll cb actions
  | .parallel actions => do announce "parallel"; executeAll cb actions
  | .unknown tag params => do
    announce tag
    write .warn .action s!"Unknown action type: {tag}" (← current (.object params))

def executeAll (cb : Callbacks η) : List Action → Step (Session η) Unit
  | [] => Step.pure ()
  | a :: as => Step.bind (execute cb a) fun _ => executeAll cb as

end

/-- Runs the action that a value writes. -/
def executeValue (cb : Callbacks η) (v : Value) : Step (Session η) Unit :=
  match Action.ofValue v with
  | .ok a => execute cb a
  | .error e =>
    if e.isRefusal then write .warn .action s!"Malformed action skipped: {e.message}"
      else Step.fail e

/-- Runs the actions that values write, each read only when its turn comes. -/
def executeValues (cb : Callbacks η) (vs : List Value) : Step (Session η) Unit :=
  Step.each (executeValue cb) vs

/-! ### Triggers -/

/-- Whether the conditions of a trigger hold; without any it always fires its consequent. -/
def weigh (t : Trigger) : Step (Session η) Bool := do
  match t.conditions with
  | none => Step.pure true
  | some cs =>
    let cs := Condition.mapAllValues (← Step.current).refresh cs
    let holds ← ask fun store limits => store.allHold limits.condition 0 cs
    let records ← Step.ofExcept (cs.mapM fun c => c.dump.record)
    write .debug .condition s!"Condition result: {shownBool holds}"
      (.object [("conditions", .ofList records)])
    Step.pure holds

def runBranch (cb : Callbacks η) (t : Trigger) (holds : Bool) : Step (Session η) Unit := do
  if holds then
    write .info .action s!"Executing THEN actions ({t.consequent.length})"
    executeAll cb t.consequent
  else match t.alternative with
    | some as => do
      write .info .action s!"Executing ELSE actions ({as.length})"
      executeAll cb as
    | none => Step.pure ()

/-- Runs one branch of a trigger, as its conditions decide. -/
def fire (cb : Callbacks η) (e : Event) (index : Nat) (t : Trigger) : Step (Session η) Unit := do
  Step.update (·.moved (.fires e index t))
  write .info .event s!"Trigger #{index} matched {e.shown}" e.summary
  let holds ← weigh t
  runBranch cb t holds

/-- The triggers that an event matches, with their places in the list. -/
def matching (e : Event) (ts : List Trigger) : List (Nat × Trigger) :=
  (ts.zipIdx.map fun (t, i) => (i, t)).filter fun (_, t) => t.on.matches e.kind e.target

/-- Fires every trigger that an event matches, in order, and counts them. -/
def handle (cb : Callbacks η) (e : Event) (ts : List Trigger) : Step (Session η) Nat := do
  let found := matching e ts
  Step.each (fun (i, t) => fire cb e i t) found
  return found.length

/-- Handles an event against triggers, each of which may still have to be read. All of them are read
before the first one fires. -/
def handleGiven (cb : Callbacks η) (event : Given Event) (triggers : List (Given Trigger)) :
    Step (Session η) Nat := do
  let e ← Step.ofExcept (event.read Event.ofValue)
  let ts ← Step.ofExcept (triggers.mapM (Given.read Trigger.ofValue))
  handle cb e ts

/-- Handles the event that a value writes, against triggers that values write. -/
def handleValues (cb : Callbacks η) (event : Value) (triggers : List Value) :
    Step (Session η) Nat :=
  handleGiven cb (.raw event) (triggers.map .raw)

end Session

end SceneCourse
