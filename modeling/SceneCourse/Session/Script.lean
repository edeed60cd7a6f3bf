import SceneCourse.Session.Running

/-!
Hosts given as scripts: listeners that run a list of acts, callbacks that record what they are
called with. An act is anything that a host can ask of a session. A script host keeps a record of
the calls and of the listeners' turns.
-/

namespace SceneCourse

/-- What a host can ask of a session. -/
inductive Act where
  | load (course : Value)
  | start (scene : Option String) (snapshot : Value)
  | goto (scene : Value)
  | emit (event : Value)
  | getState
  | setState (state : Value)
  | getNode (id : String)
  | updateNode (id : String) (updates : Value)
  | scene
  | on (kind : Value) (name label : String)
  | onAll (name label : String)
  | off (kind : Value) (name : String)
  | offAll (name : String)
  | unsubscribe (label : String)
  | clear
  | count (kind : Value)
  | logs
  | exportLogs
  | reset
  | destroy
  | raise (message : String)

/-- What a callback does. -/
inductive Response where
  | absent
  | record
  /-- Records the call and then fails. -/
  | failing (message : String)
  deriving DecidableEq, Repr

/-- A host made of scripts, with the record of what happened to it and with what it has registered,
by its labels. What is registered can be ended any number of times. -/
structure ScriptHost where
  scripts : List (String × List Act) := []
  calls : List Value := []
  trace : List Value := []
  running : Nat := 0
  subscriptions : List (String × Subscription) := []

namespace ScriptHost

abbrev Run := Step (Session ScriptHost)

def change (f : ScriptHost → ScriptHost) : Run Unit :=
  Step.update fun s => { s with host := f s.host }

def recordCall (parts : List Value) : Run Unit :=
  change fun h => { h with calls := h.calls ++ [.ofList parts] }

def recordTurn (parts : List Value) : Run Unit :=
  change fun h => { h with trace := h.trace ++ [.ofList parts] }

/-- The callback with a response. -/
def callback {α : Type} (response : Response) (parts : α → List Value) : Option (α → Run Unit) :=
  match response with
  | .absent => none
  | .record => some fun a => recordCall (parts a)
  | .failing message => some fun a => do recordCall (parts a); Step.fail (.host message)

def onScene (r : Response) : Option (String → Run Unit) :=
  callback r fun id => [.str "scene", .str id]

def onState (r : Response) : Option (Value → Run Unit) := callback r fun v => [.str "state", v]

def onUi (r : Response) : Option (UiRequest → Run Unit) := callback r fun u => [.str "ui", u.dump]

/-- The key that a host subscribes by. -/
def kindKey (v : Value) : Except Fault Key :=
  match v.key? with
  | some k => .ok k
  | none => .error (.wrongKind "being an event kind" v.kindName)

def subscribe (sub : Subscription) (label : String) : Run Unit :=
  Step.update fun s =>
    { s with
      bus := s.bus.perform (.enter sub)
      host := { s.host with subscriptions := (label, sub) :: s.host.subscriptions } }

def unsubscribe (sub : Subscription) : Run Unit :=
  Step.update fun s => { s with bus := s.bus.perform (.leave sub) }

/-- The callbacks of a script host, and what its listeners do. -/
structure Responses where
  scene : Response := .record
  state : Response := .record
  ui : Response := .record

/-- The callbacks of a host that has no listeners. -/
def callbacks (r : Responses) : Host ScriptHost where
  onScene := (onScene r.scene).map fun call _ => call
  onState := (onState r.state).map fun call _ => call
  onUi := (onUi r.ui).map fun call _ => call
  onEvent := fun _ _ _ => Step.pure ()

/-- What holds of remembering a call, and of failing behind it, holds of all callbacks. -/
theorem callbacks_all {P : Emitter ScriptHost → Run Unit → Prop}
    (remember : ∀ emit parts, P emit (recordCall parts))
    (fail : ∀ emit parts message, P emit (do recordCall parts; Step.fail (.host message)))
    (r : Responses) :
    (∀ call, (callbacks r).onScene = some call → ∀ emit id, P emit (call emit id)) ∧
      (∀ call, (callbacks r).onState = some call → ∀ emit v, P emit (call emit v)) ∧
      ∀ call, (callbacks r).onUi = some call → ∀ emit u, P emit (call emit u) := by
  have one {α : Type} {response : Response} {parts : α → List Value} {call : α → Run Unit}
      (given : callback response parts = some call) (emit : Emitter ScriptHost) (a : α) :
          P emit (call a) := by
    cases response with
    | absent => cases given
    | record =>
      obtain rfl := Option.some.inj given
      exact remember emit _
    | failing message =>
      obtain rfl := Option.some.inj given
      exact fail emit _ message
  refine ⟨?_, ?_, ?_⟩
  all_goals
    intro call given emit a
    obtain ⟨answer, there, rfl⟩ := Option.map_eq_some_iff.1 given
    exact one there emit a

/-- One act, with the value that it gives. -/
def perform (host : Host ScriptHost) (emit : Event → Run Unit) : Act → Run Value
  | .load course => do
    let c ← Step.ofExcept (Course.ofValue course)
    Session.loadCourse c
    return .object [("id", .str c.about.id), ("version", .str c.about.version),
      ("start", .str c.start)]
  | .start scene snapshot => do Session.start host emit scene snapshot; return .null
  | .goto scene => do Session.gotoNamed host emit scene; return .null
  | .emit event => do
    let e ← Step.ofExcept (Event.ofValue event)
    emit e
    return .null
  | .getState => do return (← Step.current).store.root
  | .setState state => do Session.setState state; return .null
  | .getNode id => do Step.ofExcept ((← Step.current).store.nodeState id)
  | .updateNode id updates => do Session.changeNode host emit id updates; return .null
  | .scene => do
    match (← Step.current).activeScene with
    | some s => return s.dump
    | none => return .null
  | .on kind name label => do
    let k ← Step.ofExcept (kindKey kind)
    subscribe ⟨some k, .host name⟩ label
    return .null
  | .onAll name label => do subscribe ⟨none, .host name⟩ label; return .null
  | .off kind name => do
    let k ← Step.ofExcept (kindKey kind)
    unsubscribe ⟨some k, .host name⟩
    return .null
  | .offAll name => do unsubscribe ⟨none, .host name⟩; return .null
  | .unsubscribe label => do
    match (← Step.current).host.subscriptions.lookup label with
    | some sub => do unsubscribe sub; return .null
    | none => Step.fail (.noEntry (.str label))
  | .clear => do Step.update fun s => { s with bus := s.bus.clear }; return .null
  | .count .null => do return .int (← Step.current).bus.total
  | .count kind => do
    let k ← Step.ofExcept (kindKey kind)
    return .int ((← Step.current).bus.count k)
  | .logs => do return .ofList ((← Step.current).log.entries.map (·.dump))
  | .exportLogs => do return .str (← Step.ofExcept ((← Step.current).log.exportText (some 2)))
  | .reset => do Session.reset; return .null
  | .destroy => do Session.destroy; return .null
  | .raise message => Step.fail (.host message)

/-- How many listeners may run inside each other; a listener beyond that does nothing. -/
def deepest : Nat := 8

/-- A listener's turn: its acts in order, up to the first that fails. -/
def turn (host : Host ScriptHost) (emit : Event → Run Unit) (name : String) (e : Event) :
    Run Unit := do
  recordTurn [.str name, .str e.kind, Event.optionalText e.target]
  let h := (← Step.current).host
  if h.running < deepest then
    change fun h => { h with running := h.running + 1 }
    let acts := (h.scripts.lookup name).getD []
    let outcome ← (Step.each (fun act => do let _ ← perform host emit act) acts).attempt
    change fun h => { h with running := h.running - 1 }
    let _ ← Step.ofExcept outcome
    recordTurn [.str name, .str "end"]

/-- The host whose listeners run their scripts. -/
def host (r : Responses) : Host ScriptHost :=
  { callbacks r with onEvent := fun emit name e => turn (callbacks r) emit name e }

end ScriptHost

end SceneCourse
