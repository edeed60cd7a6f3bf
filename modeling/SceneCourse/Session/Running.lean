import SceneCourse.Session.Execution

/-!
Running a course: loading it, entering its scenes, and telling events to the listeners and to the
triggers of the active scene. An event is told to the listeners of its kind, then to those of all
events, as they are registered when each of the two rounds begins; a listener that fails is reported
and stops nobody. Events emitted on the way are told completely before the next listener's turn, so
`emit` calls itself; the nesting that it is allowed is a number, and every run that ends does so
within some number.
-/

namespace SceneCourse

namespace Session

variable {η : Type}

/-! ### Telling events -/

/-- How a report names a listener of one kind, or of all events. -/
def listenerText (e : Event) (l : Listener) (ofAll : Bool) : String :=
  (if ofAll then "global event listener" else s!"event listener for '{e.kind}'") ++ s!" '{l.name}'"

/-- Reports that a listener failed. -/
def reportFailure (e : Event) (l : Listener) (ofAll : Bool) (fault : Fault) :
    Step (Session η) Unit := do
  let s ← Step.current
  let who := listenerText e l ofAll
  if s.diagnosed then
    write .error .event s!"Error in {who}: {fault.kind}: {fault.message}" e.summary
  else
    let context := [("type", .str e.kind), ("target", Event.optionalText e.target)]
    Step.update (·.addLine (streamLine .error "engine.event_bus"
      (failureMessage who fault.kind fault.message context)))

/-- Tells an event to one listener. -/
def tellSafely (tell : Listener → Event → Step (Session η) Unit) (e : Event) (ofAll : Bool)
    (l : Listener) : Step (Session η) Unit := do
  Step.update (·.chronicle (.calls l))
  match ← (tell l e).attempt with
  | .ok () => Step.update (·.chronicle (.returns l))
  | .error fault => do
    reportFailure e l ofAll fault
    Step.update (·.chronicle (.raises l fault))

/-- Tells an event to everyone: two rounds, each with the listeners of its beginning. -/
def tellAll (tell : Listener → Event → Step (Session η) Unit) (e : Event) : Step (Session η) Unit :=
  do
  Step.update (·.chronicle (.begins e))
  let s ← Step.current
  Step.each (tellSafely tell e false) (s.bus.listeners (.str e.kind))
  let s ← Step.current
  Step.each (tellSafely tell e true) s.bus.forAll
  Step.update (·.chronicle (.ends e))

/-! ### Scenes -/

/-- Writes variables into a tier, each with the value that it has when its turn comes. -/
def seed (tier : String) (vars : Session η → List (String × Value)) : Step (Session η) Unit :=
  fun s =>
  Step.each (fun name => do
    let s ← Step.current
    match (vars s).lookup name with
    | some v => sow tier name v
    | none => Step.pure ()) ((vars s).map (·.1)) s

def globalVars (s : Session η) : List (String × Value) := (s.course.map (·.globals.vars)).getD []

def sceneVars (id : String) (s : Session η) : List (String × Value) :=
  ((s.course.bind (·.scene? id)).map (·.vars)).getD []

/-- The scene that is active, with the variables as they stand in the loaded course. -/
def activeScene (s : Session η) : Option Scene := do (← s.course).scene? (← s.scene)

def refuseScene (name : String) : Step (Session η) Unit := do
  write .error .scene s!"Scene not found: {name}"
  Step.update fun s => { s with passages := .refused name :: s.passages }
  Step.fail (.noScene name)

/-- Makes a scene of the course active, with its part of the state made anew or left as it is. -/
def activate (id : String) (scene : Scene) (anew : Bool) : Step (Session η) Unit := do
  write .info .scene s!"Entering scene: {id}"
  Step.update fun s =>
    { s with
      scene := some id
      passages := .entered id :: s.passages
      entrances := ⟨id, s.moves⟩ :: s.entrances }
  if anew then
    Step.update fun s => { s with store := s.store.resetScene }
    seed "scene" (sceneVars id)
  else
    write .debug .scene s!"Re-entering active scene {id}; scene state kept"
  Step.update ({ · with triggers := scene.triggers })
  write .debug .event s!"Active trigger set replaced ({scene.triggers.length} triggers)"

/-- Makes a scene active, if there is one of that name. Its part of the state is left as it is if it
is active already. -/
def enterScene (id : String) : Step (Session η) Unit := do
  let s ← Step.current
  match s.course with
  | none => Step.fail (.noCourse false)
  | some course =>
    match course.scene? id with
    | none => refuseScene id
    | some scene => activate id scene (s.scene != some id)

/-- Makes a scene active, tells the host, and emits the scene's `sceneEnter` event. -/
def gotoScene (host : Host η) (emit : Emitter η) (id : String) : Step (Session η) Unit := do
  enterScene id
  match host.onScene with
  | some call => call emit id
  | none => Step.pure ()
  Step.update (·.moved (.arrives id))
  emit (.sceneEnter id)

/-! ### Emitting -/

/-- Gives the host a snapshot of the state, if it asked for one, after an event or else after an
update. -/
def reportState (host : Host η) (emit : Emitter η) (cause : Option Event) : Step (Session η) Unit :=
  do
  match host.onState with
  | some call => do
    let s ← Step.current
    Step.update (·.chronicle (.reports cause s.store.root))
    call emit s.store.root
  | none => Step.pure ()

/-- The record of an event. Neither its own level counts nor that of its payload. -/
def eventRecord (e : Event) : Except Fault Value := e.dump.recorded (Value.mostLevels + 2)

/-- Fires the active triggers that an event matches, with a note of where that begins and ends. -/
def interpret (cb : Callbacks η) (e : Event) : Step (Session η) Unit := do
  let s ← Step.current
  Step.update (·.moved (.begins e s.scene))
  let outcome ← (handle cb e s.triggers).attempt
  Step.update (·.moved .ends)
  let _ ← Step.ofExcept outcome

/-- The course's own listener: logs the event and fires the triggers of the active scene. -/
def dispatch (host : Host η) (emit : Emitter η) (e : Event) : Step (Session η) Unit := do
  write .info .event s!"Event: {e.kind}" (← Step.ofExcept (eventRecord e))
  interpret ⟨some (gotoScene host emit), host.onUi.map (· emit)⟩ e

def tell (host : Host η) (emit : Emitter η) (l : Listener) (e : Event) : Step (Session η) Unit :=
  match l with
  | .course => dispatch host emit e
  | .host name => host.onEvent emit name e

/-- Tells an event to everyone and reports the state that results; `inner` emits the events on the
way. -/
def emitOnce (host : Host η) (inner : Emitter η) (e : Event) : Step (Session η) Unit := do
  tellAll (tell host inner) e
  reportState host inner (some e)

/-- More emits inside each other than a course needs that comes to an end. -/
def usualNesting : Nat := 400

/-- Emits an event, with at most `nesting` emits inside each other. -/
def emit (host : Host η) : (nesting : Nat) → Emitter η
  | 0, _ => Step.unfinished
  | n + 1, e => emitOnce host (emit host n) e

/-! ### Lifecycle -/

/-- Variables whose values are copies that belong to the session. -/
def adoptVars (next : Nat) : List (String × Value) → List (String × Value) × Nat
  | [] => ([], next)
  | (k, v) :: vs =>
    let (w, next) := v.copy next
    let (ws, next) := adoptVars next vs
    ((k, w) :: ws, next)

def adoptScenes (next : Nat) : List Scene → List Scene × Nat
  | [] => ([], next)
  | s :: ss =>
    let (vars, next) := adoptVars next s.vars
    let (ts, next) := adoptScenes next ss
    ({ s with vars } :: ts, next)

/-- A course that belongs to the session: its variables are copies, or its marks are the session's
if it has any. -/
def adoptCourse (next : Nat) (c : Course) : Course × Nat :=
  if c.marks = 0 then
    let (vars, next) := adoptVars next c.globals.vars
    let (scenes, next) := adoptScenes next c.scenes
    ({ c with globals := { c.globals with vars }, scenes }, next)
  else (c.mapValues (Value.shift next), next + c.marks + 1)

/-- Loads a course and writes its global variables. Scene and nodes are left alone. -/
def loadCourse (c : Course) : Step (Session η) Unit := do
  write .info .scene s!"Loading course: {c.about.id} v{c.about.version}"
  Step.update fun s =>
    let (course, next) := adoptCourse s.store.next c
    { s with course := some course, store :=
      { s.store with next, shared := s.store.shared || c.marks != 0 } }
  seed "globals" globalVars

/-- Enters the first scene, or another one that the host names, after taking over a snapshot if
there is one. -/
def start (host : Host η) (emit : Emitter η) (scene : Option String) (snapshot : Value) :
    Step (Session η) Unit := do
  let s ← Step.current
  match s.course with
  | none => Step.fail (.noCourse true)
  | some course =>
    if snapshot.truthy then
      let store ← Step.ofExcept (s.store.restore snapshot)
      Step.update ({ · with store })
    let id := match scene with
      | none | some "" => course.start
      | some id => id
    write .info .scene s!"Starting course from scene: {id}"
    gotoScene host emit id

/-- Drops the course, the state, the log and all listeners of the host. -/
def reset : Step (Session η) Unit := do
  write .info .scene "Resetting runtime"
  Step.update fun s =>
    { s with
      bus := s.bus.clear.onAll .course
      store := s.store.reset
      course := none
      scene := none
      triggers := []
      written := []
      log := s.log.clear }

def destroy : Step (Session η) Unit := do
  reset
  write .info .scene "Runtime destroyed"

/-- The session as it is before a course is loaded. -/
def fresh (limits : Limits) (log : RunLog) (host : η) : Session η :=
  { limits, log, bus := ({} : Bus).onAll .course, host }

inductive Phase where
  | unloaded | loaded | active
  deriving DecidableEq, Repr

def Phase.name : Phase → String
  | .unloaded => "unloaded"
  | .loaded => "loaded"
  | .active => "active"

def phase (s : Session η) : Phase :=
  match s.course, s.scene with
  | none, _ => .unloaded
  | some _, none => .loaded
  | some _, some _ => .active

/-! ### State access -/

/-- An entry that must be a mapping where there is anything in its place; nothing counts as the
empty mapping. -/
def mappingAt (state : List (Key × Value)) (name : String) : Except Fault (List (Key × Value)) :=
  let v := (Entries.get? (.str name) state).getD .null
  if !v.truthy then .ok []
  else match v with
    | .map _ es => .ok es
    | v => .error (.noOperation "entries" v.kindName)

/-- The variables of a tier in a partial state. -/
def varsAt (state : List (Key × Value)) (name : String) : Except Fault (List (Key × Value)) := do
  let tier ← mappingAt state name
  match Entries.get? (.str "vars") tier with
  | none => return []
  | some (.map _ es) => return es
  | some v => .error (.noOperation "entries" v.kindName)

/-- Writes the variables of a tier in a partial state, one by one. -/
def mergeVars (state : List (Key × Value)) (tier : String) : Step (Session η) Unit := do
  let vars ← Step.ofExcept (varsAt state tier)
  Step.each (fun (k, v) => do
    let _ ← setCopy s!"{tier}.vars.{k.value.shown}" v) vars

/-- Merges a partial state: variables one by one, the states of nodes as wholes. -/
def setState (state : Value) : Step (Session η) Unit := do
  match state with
  | .map _ es =>
    mergeVars es "globals"
    mergeVars es "scene"
    let nodes ← Step.ofExcept (mappingAt es "nodes")
    Step.each (fun (k, v) => setNode k.value.shown v) nodes
  | v => Step.fail (.noOperation "entries" v.kindName)

/-- Merges updates into a node's state and reports the state that results. -/
def changeNode (host : Host η) (emit : Emitter η) (id : String) (updates : Value) :
    Step (Session η) Unit := do
  updateNode id updates
  reportState host emit none

/-- The scene that a host names by a value; only a text names one. -/
def gotoNamed (host : Host η) (emit : Emitter η) (scene : Value) : Step (Session η) Unit := do
  match scene with
  | .str id => gotoScene host emit id
  | v =>
    let s ← Step.current
    if s.course.isNone then Step.fail (.noCourse false) else refuseScene v.shown

end Session

end SceneCourse
