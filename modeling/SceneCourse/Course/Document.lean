import SceneCourse.Course.Action
import SceneCourse.Course.Condition
import SceneCourse.Course.Event

/-!
Course documents: scenes with variables, nodes and triggers. `Course.ofValue` reads a document,
`Course.dump` writes it back with every field filled in and everything else that it held. `mapVars`
and `mapValues` give the same document other values for its variables, or for all that it holds.
-/

namespace SceneCourse

/-- Which events a trigger listens to. -/
structure Matcher where
  event : String
  target : Option String
  extras : List (String × Value)
  deriving Repr

/-- A trigger with a target fires only for events with that very target; an empty target counts as
none. -/
def Matcher.matches (m : Matcher) (kind : String) (target : Option String) : Bool :=
  m.event == kind &&
    match m.target with
    | none | some "" => true
    | some t => target == some t

/-- When an event matches and the conditions hold, the consequent is run, and otherwise the
alternative. -/
structure Trigger where
  on : Matcher
  conditions : Option (List Condition)
  consequent : List Action
  alternative : Option (List Action)
  extras : List (String × Value)
  deriving Repr

namespace Trigger

def hasConditions (t : Trigger) : Bool := !(t.conditions.getD []).isEmpty

def hasAlternative (t : Trigger) : Bool := !(t.alternative.getD []).isEmpty

/-- The actions of both branches. -/
def actions (t : Trigger) : List Action := t.consequent ++ t.alternative.getD []

end Trigger

structure Node where
  id : String
  kind : String
  props : List (String × Value)
  extras : List (String × Value)
  deriving Repr

structure Scene where
  id : String
  vars : List (String × Value)
  nodes : List Node
  triggers : List Trigger
  extras : List (String × Value)
  deriving Repr

structure Meta where
  id : String
  version : String
  extras : List (String × Value)
  deriving Repr

structure Globals where
  vars : List (String × Value)
  extras : List (String × Value)
  deriving Repr

structure Course where
  schema : String
  about : Meta
  globals : Globals
  start : String
  scenes : List Scene
  extras : List (String × Value)
  /-- The greatest mark in the document; 0 where nothing in it is held at several places. -/
  marks : Nat := 0
  deriving Repr

/-- The scenes that some trigger of a scene goes to, first mention first. -/
def Scene.next (s : Scene) : List String :=
  firstMentions (s.triggers.flatMap fun t => Action.destinations t.actions)

def Scene.nodeIds (s : Scene) : List String := s.nodes.map (·.id)

namespace Course

/-- The first scene with an id. -/
def scene? (c : Course) (id : String) : Option Scene := c.scenes.find? (·.id == id)

def sceneIds (c : Course) : List String := c.scenes.map (·.id)

end Course

/-! ### Other values -/

def Scene.mapVars (f : Value → Value) (s : Scene) : Scene := { s with vars := mapFields f s.vars }

/-- The same course with other values for its variables. -/
def Course.mapVars (f : Value → Value) (c : Course) : Course :=
  { c with
    globals := { c.globals with vars := mapFields f c.globals.vars }
    scenes := c.scenes.map (Scene.mapVars f) }

theorem Course.scene?_mapVars (f : Value → Value) (c : Course) (id : String) :
    (c.mapVars f).scene? id = (c.scene? id).map (Scene.mapVars f) := by
  simp only [scene?, mapVars, List.find?_map]
  rfl

def Matcher.mapValues (f : Value → Value) (m : Matcher) : Matcher :=
  { m with extras := mapFields f m.extras }

def Trigger.mapValues (f : Value → Value) (t : Trigger) : Trigger where
  on := t.on.mapValues f
  conditions := t.conditions.map (Condition.mapAllValues f)
  consequent := Action.mapAllValues f t.consequent
  alternative := t.alternative.map (Action.mapAllValues f)
  extras := mapFields f t.extras

def Node.mapValues (f : Value → Value) (n : Node) : Node :=
  { n with props := mapFields f n.props, extras := mapFields f n.extras }

def Scene.mapValues (f : Value → Value) (s : Scene) : Scene where
  id := s.id
  vars := mapFields f s.vars
  nodes := s.nodes.map (Node.mapValues f)
  triggers := s.triggers.map (Trigger.mapValues f)
  extras := mapFields f s.extras

/-- The same course with other values for everything in it. -/
def Course.mapValues (f : Value → Value) (c : Course) : Course :=
  { c with
    about := { c.about with extras := mapFields f c.about.extras }
    globals := ⟨mapFields f c.globals.vars, mapFields f c.globals.extras⟩
    scenes := c.scenes.map (Scene.mapValues f)
    extras := mapFields f c.extras }

/-! ### Reading -/

def Matcher.read (v : Value) : Checked Matcher :=
  v.readRecord fun es => mk <$> requiredField es ["event"] Value.readText
    <*> optionalField es ["target"] none Value.readOptionalText
    <*> readExtras es [["event"], ["target"]]

def Trigger.read (v : Value) : Checked Trigger :=
  v.readRecord fun es => mk <$> requiredField es ["on"] Matcher.read
    <*> optionalField es ["if", "conditions"] none (Value.readOptionalList Condition.read)
    <*> optionalField es ["then"] [] (Value.readList Action.read)
    <*> optionalField es ["else", "otherwise"] none (Value.readOptionalList Action.read)
    <*> readExtras es [["on"], ["if", "conditions"], ["then"], ["else", "otherwise"]]

/-- The trigger that a mapping writes. -/
def Trigger.ofValue (v : Value) : Except Fault Trigger := (read v).toExcept "Trigger"

def Node.read (v : Value) : Checked Node :=
  v.readRecord fun es => mk <$> requiredField es ["id"] Value.readText
    <*> optionalField es ["type"] "" Value.readText
    <*> optionalField es ["props"] [] Value.readTextMap
    <*> readExtras es [["id"], ["type"], ["props"]]

def Scene.read (v : Value) : Checked Scene :=
  v.readRecord fun es => mk <$> requiredField es ["id"] Value.readText
    <*> optionalField es ["vars"] [] Value.readTextMap
    <*> optionalField es ["nodes"] [] (Value.readList Node.read)
    <*> optionalField es ["triggers"] [] (Value.readList Trigger.read)
    <*> readExtras es [["id"], ["vars"], ["nodes"], ["triggers"]]

def Meta.read (v : Value) : Checked Meta :=
  v.readRecord fun es => mk <$> requiredField es ["id"] Value.readText
    <*> optionalField es ["version"] "1.0.0" Value.readText
    <*> readExtras es [["id"], ["version"]]

def Globals.read (v : Value) : Checked Globals :=
  v.readRecord fun es => mk <$> optionalField es ["vars"] [] Value.readTextMap <*>
    readExtras es [["vars"]]

namespace Course

def schemaNames : List String := ["schema", "schema_id"]

def startNames : List String := ["startSceneId", "start_scene_id"]

def read (v : Value) : Checked Course :=
  v.readRecord fun es => (mk · · · · · · v.mark) <$>
    optionalField es schemaNames "vvce.dsl.v1" Value.readText
    <*> requiredField es ["meta"] Meta.read
    <*> optionalField es ["globals"] ⟨[], []⟩ Globals.read
    <*> requiredField es startNames Value.readText
    <*> optionalField es ["scenes"] [] (Value.readList Scene.read)
    <*> readExtras es [schemaNames, ["meta"], ["globals"], startNames, ["scenes"]]

/-- The course that a mapping writes. -/
def ofValue (v : Value) : Except Fault Course := (read v).toExcept "Course"

/-- The course that a mapping writes, with all defects told as one loading fault. -/
def parse (v : Value) : Except Fault Course :=
  match ofValue v with
  | .error (.malformed _ cs) => .error (.load (.invalid cs))
  | r => r

end Course

/-! ### Writing -/

def Matcher.dump (m : Matcher) : Value :=
  .object ([("event", .str m.event), ("target", Event.optionalText m.target)] ++ m.extras)

def Trigger.dump (t : Trigger) : Value :=
  .object ([("on", t.on.dump), ("if", t.conditions.elim .null fun cs => .ofList (cs.map (·.dump))),
    ("then", .ofList (t.consequent.map (·.dump))),
    ("else", t.alternative.elim .null fun as => .ofList (as.map (·.dump)))] ++ t.extras)

def Node.dump (n : Node) : Value :=
  .object ([("id", .str n.id), ("type", .str n.kind), ("props", .object n.props)] ++ n.extras)

def Scene.dump (s : Scene) : Value :=
  .object ([("id", .str s.id), ("vars", .object s.vars), ("nodes", .ofList (s.nodes.map (·.dump))),
    ("triggers", .ofList (s.triggers.map (·.dump)))] ++ s.extras)

def Meta.dump (m : Meta) : Value :=
  .object ([("id", .str m.id), ("version", .str m.version)] ++ m.extras)

def Globals.dump (g : Globals) : Value := .object (("vars", .object g.vars) :: g.extras)

def Course.dump (c : Course) : Value :=
  .object ([("schema", .str c.schema), ("meta", c.about.dump), ("globals", c.globals.dump),
    ("startSceneId", .str c.start), ("scenes", .ofList (c.scenes.map (·.dump)))] ++ c.extras)

end SceneCourse
