import SceneCourse.Course.Document
import SceneCourse.Session.Bus
import SceneCourse.Session.Step
import SceneCourse.State.Noted
import SceneCourse.State.Store

/-!
A session: the state, the log, the subscriptions, the loaded course with the scene that is active,
and whatever the host keeps for itself. Every change of the state goes through `commit`, which lets
the log and the variables of the course follow. A session keeps the edits of shared containers,
since the actions and conditions of a course may hold such containers too; they are looked at
through `refresh`.
-/

namespace SceneCourse

open Value (Edit)

/-- How deep conditions and nested parameters are followed. -/
structure Limits where
  condition : Value := .int 64
  resolve : Value := .int 64

/-- What became of a wish to make a scene active. -/
inductive Passage where
  | entered (id : String)
  /-- The course has no scene of that name. -/
  | refused (id : String)
  deriving DecidableEq, Repr

/-- A variable of the course as it was written into a tier, and the scene that was active then. -/
structure Seed where
  scene : Option String
  tier : String
  name : String
  value : Value
  deriving Repr

/-- What happens while events are told. -/
inductive Occurrence where
  | begins (e : Event)
  | calls (l : Listener)
  | returns (l : Listener)
  | raises (l : Listener) (fault : Fault)
  | ends (e : Event)
  /-- The host is given a snapshot of the state, after an event or else after an update. -/
  | reports (cause : Option Event) (state : Value)

/-- What happens while triggers fire. -/
inductive Move where
  /-- A scene has become active and its own event is about to be emitted. -/
  | arrives (id : String)
  /-- The triggers that are active with a scene begin to be told an event. -/
  | begins (e : Event) (scene : Option String)
  | fires (e : Event) (index : Nat) (t : Trigger)
  | ends

/-- A scene that became active, with what had happened by then while triggers fired. -/
structure Entrance where
  scene : String
  moves : List Move

/-- A session whose host keeps an `η`. -/
structure Session (η : Type) where
  limits : Limits := {}
  store : Store := .empty
  log : RunLog := {}
  /-- Whether failures of listeners are entries of the log; otherwise they are lines of the
  stream. -/
  diagnosed : Bool := true
  bus : Bus := {}
  course : Option Course := none
  scene : Option String := none
  triggers : List Trigger := []
  /-- What became of all wishes so far, the latest first. This is history: nothing that a session
  does depends on it. -/
  passages : List Passage := []
  /-- All variables of the course that were written so far, the latest first. This is history as
  well. -/
  seeds : List Seed := []
  /-- What happened while events were told, the latest first. This is history too. -/
  history : List Occurrence := []
  /-- What happened while triggers fired, the latest first. This is history too. -/
  moves : List Move := []
  /-- All scenes that became active, the latest first. This is history as well. -/
  entrances : List Entrance := []
  /-- The edits so far, as long as the store is shared. -/
  written : List Edit := []
  /-- All edits so far, the latest first. This is history too. -/
  edits : List Edit := []
  host : η

/-- How a host emits an event when it is called. -/
abbrev Emitter (η : Type) := Event → Step (Session η) Unit

/-- What a host does when it is called. It may emit events in turn, through the emitter that it is
given. -/
structure Host (η : Type) where
  onScene : Option (Emitter η → String → Step (Session η) Unit)
  onState : Option (Emitter η → Value → Step (Session η) Unit)
  onUi : Option (Emitter η → UiRequest → Step (Session η) Unit)
  onEvent : Emitter η → String → Event → Step (Session η) Unit

namespace Session

variable {η α : Type}

/-- The session with a changed state, after everything that shares containers with it has
followed. -/
def commit (s : Session η) (store : Store) (edits : List Edit) : Session η :=
  let followed (v : Value) : Value := if store.shared then (v.followAll edits).tie
    else v.followAll edits
  { s with
    store
    log := edits.foldl (fun log e => log.follow e) s.log
    course := s.course.map (·.mapVars followed)
    written := if store.shared then s.written ++ edits else s.written
    edits := edits.reverse ++ s.edits }

/-- A value of the course as it has become by the edits so far. -/
def refresh (s : Session η) (v : Value) : Value :=
  if s.written.isEmpty then v else (v.followAll s.written).tie

/-- A value of the course as it is now. -/
def current (v : Value) : Step (Session η) Value := fun s => (.done (s.refresh v), s)

/-- The session with one occurrence more in its history. -/
def chronicle (s : Session η) (o : Occurrence) : Session η := { s with history := o :: s.history }

/-- The session after one move more. -/
def moved (s : Session η) (m : Move) : Session η := { s with moves := m :: s.moves }

def addEntry (s : Session η) (e : LogEntry) : Session η := { s with log := s.log.add e }

def addLine (s : Session η) (line : String) : Session η :=
  { s with log := { s.log with lines := s.log.lines ++ [line] } }

/-- Writes an entry to the log. It stays there also when the diagnostic stream should get it and its
data cannot be shown. -/
def write (level : Level) (category : Category) (message : String) (data : Value := .null) :
    Step (Session η) Unit :=
  fun s =>
    let e : LogEntry := { level, category, message, data }
    Step.ofExcept (s.log.outcome e) (s.addEntry e)

/-- Writing an entry whose data can be shown is a plain change of the log. -/
theorem write_of_short (level : Level) (category : Category) (message : String) {data : Value}
    (short : data.holdsLong = false) :
    (write level category message data : Step (Session η) Unit) =
      Step.update (·.addEntry { level, category, message, data }) := by
  funext s
  rw [write, s.log.outcome_of_short short]
  rfl

@[simp] theorem write_null (level : Level) (category : Category) (message : String) :
    (write level category message : Step (Session η) Unit) = Step.update
      (·.addEntry { level, category, message }) :=
  write_of_short level category message rfl

/-- Asks a question about the state and writes its notes to the log. -/
def ask (question : Store → Limits → Noted α) : Step (Session η) α := fun s =>
  let answer := question s.store s.limits
  Step.ofExcept answer.result { s with log := s.log.addAll answer.notes }

/-- The session with one variable more in its history. -/
def remember (s : Session η) (tier name : String) (v : Value) : Session η :=
  { s with seeds := ⟨s.scene, tier, name, v⟩ :: s.seeds }

/-- Writes a variable of the course into a tier, as it is. -/
def sow (tier name : String) (v : Value) : Step (Session η) Unit :=
  Step.update fun s =>
    let (store, edits) := s.store.set s!"{tier}.vars.{name}" v
    (s.commit store edits).remember tier name v

/-- Writes a copy of a plain value at a path and gives that copy. -/
def setCopy (path : String) (v : Value) : Step (Session η) Value := fun s =>
  let (w, store) := s.store.adopt v
  let (store, edits) := store.set path w
  (.done w, s.commit store edits)

/-- Puts a value in the place of a node's state. -/
def setNode (id : String) (v : Value) : Step (Session η) Unit := fun s =>
  let (w, store) := s.store.adopt v
  match store.setNodeState id w with
  | .ok (store, edits) => (.done (), s.commit store edits)
  | .error e => (.failed e, s)

/-- Merges copies of updates into a node's state; what was written before a fault stays. -/
def updateNode (id : String) (updates : Value) : Step (Session η) Unit := fun s =>
  match s.store.adoptUpdates id updates with
  | .ok (store, edits, none) => (.done (), s.commit store edits)
  | .ok (store, edits, some e) => (.failed e, s.commit store edits)
  | .error e => (.failed e, s)

end Session

end SceneCourse
