import SceneCourse.DryRun.Walk
import SceneCourse.Json.Printer

/-!
The dry run of a course: every walk through its scene graph up to a limit, what its actions would
change, what each trigger does, how much of the course is used, and what can never be used. Nothing
is run; both branches of every trigger count.
-/

namespace SceneCourse

/-- An action that changes the state, by the trigger that it belongs to. -/
structure Mutation where
  path : String
  tag : String
  sceneId : String
  trigger : Nat
  deriving DecidableEq, Repr

/-- What a trigger does: the tags of its actions, first mention first, and the number of its
conditions. -/
structure TriggerSummary where
  event : String
  target : Option String
  sceneId : String
  tags : List String
  conditions : Nat
  deriving DecidableEq, Repr

structure Coverage where
  scenes : Nat
  reachedScenes : Nat
  nodes : Nat
  referencedNodes : Nat
  triggers : Nat
  withConditions : Nat
  withAlternative : Nat
  /-- How often each tag occurs, first mention first. -/
  tagCounts : List (String × Nat)
  deriving DecidableEq, Repr

structure DeadTrigger where
  sceneId : String
  trigger : Nat
  deriving DecidableEq, Repr

def DeadTrigger.shown (d : DeadTrigger) : String := s!"{d.sceneId}[{d.trigger}]"

structure DeadCode where
  unreachable : List String
  unusedNodes : List String
  deadTriggers : List DeadTrigger
  deriving DecidableEq, Repr

def DeadCode.isEmpty (d : DeadCode) : Bool :=
  d.unreachable.isEmpty && d.unusedNodes.isEmpty && d.deadTriggers.isEmpty

structure Complexity where
  scenes : Nat
  nodes : Nat
  triggers : Nat
  /-- The actions at the top of the branches; those inside composites are not counted. -/
  actions : Nat
  longest : Nat
  averageLength : Binary64
  branching : Binary64
  deriving DecidableEq, Repr

structure DryRun where
  start : String
  graph : SceneGraph
  /-- The number of nodes of every scene, in document order. -/
  nodeCounts : List (String × Nat)
  walks : List Walk
  mutations : List Mutation
  triggers : List TriggerSummary
  coverage : Coverage
  deadCode : DeadCode
  complexity : Complexity
  unknownTargets : List String
  truncated : Bool

/-- How often each element occurs, first mention first. -/
def tally {α : Type} [BEq α] (xs : List α) : List (α × Nat) :=
  (firstMentions xs).map fun x => (x, xs.count x)

/-- A part of a whole in percent; nothing of nothing is zero. -/
def percent (part whole : Nat) : Binary64 :=
  if whole = 0 then .zero else (Binary64.ofQuotient false part whole).mul (.ofQuotient false 100 1)

/-- A quotient to two decimal places; zero when there is nothing to divide by. -/
def ratio (num den : Nat) : Binary64 :=
  if den = 0 then .zero else (Binary64.ofQuotient false num den).roundTo 2

/-- The path that an action writes to. -/
def Action.writtenPath? : Action → Option String
  | .setVar path _ => some path
  | .incVar path _ => some path
  | .addScore _ => some scorePath
  | _ => none

namespace Course

variable (c : Course)

/-- Every trigger with its scene and its place there. -/
def placedTriggers : List (Scene × Nat × Trigger) :=
  c.scenes.flatMap fun s => s.triggers.zipIdx.map fun (t, i) => (s, i, t)

def mutations : List Mutation :=
  c.placedTriggers.flatMap fun (s, i, t) => (Action.preorderAll t.actions).filterMap fun a =>
    a.writtenPath?.map fun path => ⟨path, a.tag, s.id, i⟩

def triggerSummaries : List TriggerSummary :=
  c.placedTriggers.map fun (s, _, t) =>
    { event := t.on.event
      target := if t.on.target = some "" then none else t.on.target
      sceneId := s.id
      tags := firstMentions ((Action.preorderAll t.actions).map (·.tag))
      conditions := (t.conditions.getD []).length }

/-- A node by its scene. -/
def nodeKey (sceneId nodeId : String) : String := sceneId ++ ":" ++ nodeId

/-- The nodes that some trigger listens to or some action points at. -/
def referencedKeys : List String :=
  c.placedTriggers.flatMap fun (s, _, t) =>
    (t.on.target.toList ++ (Action.preorderAll t.actions).filterMap
        (·.nodeTarget?)).filterMap fun target =>
      if target = "" then none else some (nodeKey s.id target)

def declaredKeys : List String := c.scenes.flatMap fun s => s.nodeIds.map (nodeKey s.id)

/-- The tags of all actions, in document order. -/
def tags : List String :=
  c.placedTriggers.flatMap fun (_, _, t) => (Action.preorderAll t.actions).map (·.tag)

def coverage (visited : List String) : Coverage :=
  let referenced := c.referencedKeys
  let triggers := c.placedTriggers.map fun (_, _, t) => t
  { scenes := c.scenes.length
    reachedScenes := visited.length
    nodes := c.declaredKeys.length
    referencedNodes := (c.declaredKeys.filter referenced.contains).length
    triggers := triggers.length
    withConditions := (triggers.filter (·.hasConditions)).length
    withAlternative := (triggers.filter (·.hasAlternative)).length
    tagCounts := tally c.tags }

def deadCode (visited : List String) : DeadCode :=
  let referenced := c.referencedKeys
  { unreachable := c.sceneIds.filter (!visited.contains ·)
    unusedNodes := c.declaredKeys.filter (!referenced.contains ·)
    deadTriggers := c.placedTriggers.filterMap fun (s, i, t) =>
      if Action.anySignificant t.consequent ||
        Action.anySignificant (t.alternative.getD []) then none
      else some ⟨s.id, i⟩ }

/-- A trigger branches once if it has conditions and once if it has an alternative. -/
def branches (t : Trigger) : Nat :=
  (if t.alternative.isSome then 1 else 0) + (if t.hasConditions then 1 else 0)

def complexity (walks : List Walk) : Complexity :=
  let triggers := c.placedTriggers.map fun (_, _, t) => t
  { scenes := c.scenes.length
    nodes := (c.scenes.flatMap (·.nodes)).length
    triggers := triggers.length
    actions := (triggers.flatMap (·.actions)).length
    longest := (walks.map (·.scenes.length)).foldl max 0
    averageLength := ratio (walks.flatMap (·.scenes)).length walks.length
    branching := ratio (triggers.foldl (fun n t => n + branches t) 0) triggers.length }

/-- The dry run with a limit for the number of walks. -/
def dryRun (limit : Int) : DryRun :=
  let graph := SceneGraph.ofCourse c
  let x := graph.explore c.start limit
  let walks := x.found.toList
  { start := c.start
    graph
    nodeCounts := c.scenes.map fun s => (s.id, s.nodes.length)
    walks
    mutations := c.mutations
    triggers := c.triggerSummaries
    coverage := c.coverage x.visited
    deadCode := c.deadCode x.visited
    complexity := c.complexity walks
    unknownTargets := x.unknown
    truncated := x.truncated }

end Course

namespace DryRun

/-- The limit when none is given. -/
def defaultLimit : Int := 10000

/-- The walks with their names. -/
def namedWalks (r : DryRun) : List (String × Walk) :=
  r.walks.zipIdx.map fun (w, i) => (s!"path-{i + 1}", w)

def complete (r : DryRun) : List (String × Walk) :=
  r.namedWalks.filter fun (_, w) => w.ending == .complete

def loops (r : DryRun) : List (String × Walk) := r.namedWalks.filter fun (_, w) => w.ending == .loop

/-! ### As a value -/

def texts (xs : List String) : Value := .ofList (xs.map .str)

def stepValue (r : DryRun) (sceneId : String) : Value :=
  .object [("type", .str "scene_enter"), ("sceneId", .str sceneId),
    ("details", .object [("nodeCount", .int ((r.nodeCounts.lookup sceneId).getD 0))]),
    ("possibleNextSteps", texts (r.graph.successors sceneId))]

def walkValue (r : DryRun) (name : String) (w : Walk) : Value :=
  .object [("id", .str name), ("steps", .ofList (w.scenes.map r.stepValue)),
    ("startScene", .str r.start),
    ("endScene", .str w.finish), ("isComplete", .bool (w.ending == .complete)),
    ("loopDetected", .bool (w.ending == .loop))]

def mutationValue (m : Mutation) : Value :=
  .object [("path", .str m.path), ("action", .str m.tag), ("sceneId", .str m.sceneId),
    ("triggerIndex", .int m.trigger)]

def summaryValue (t : TriggerSummary) : Value :=
  .object [("event", .str t.event), ("target", Event.optionalText t.target),
    ("sceneId", .str t.sceneId),
    ("actions", texts t.tags), ("conditions", .int t.conditions)]

def coverageValue (c : Coverage) : Value :=
  .object [
    ("scenes", .object [("total", .int c.scenes), ("reachable", .int c.reachedScenes),
      ("coverage", .float (percent c.reachedScenes c.scenes))]),
    ("nodes", .object [("total", .int c.nodes), ("referenced", .int c.referencedNodes),
      ("coverage", .float (percent c.referencedNodes c.nodes))]),
    ("triggers", .object [("total", .int c.triggers), ("withConditions", .int c.withConditions),
      ("withElse", .int c.withAlternative)]),
    ("actions", .object [("total", .int (c.tagCounts.foldl (fun n (_, k) => n + k) 0 : Nat)),
      ("byType", .object (c.tagCounts.map fun (tag, n) => (tag, .int n)))])]

def deadCodeValue (d : DeadCode) : Value :=
  .object [("unreachableScenes", texts d.unreachable), ("unusedNodes", texts d.unusedNodes),
    ("deadTriggers", .ofList (d.deadTriggers.map fun t =>
      .object [("sceneId", .str t.sceneId), ("triggerIndex", .int t.trigger)]))]

def complexityValue (c : Complexity) : Value :=
  .object [("totalScenes", .int c.scenes), ("totalNodes", .int c.nodes),
    ("totalTriggers", .int c.triggers),
    ("totalActions", .int c.actions), ("maxPathLength", .int c.longest),
      ("averagePathLength", .float c.averageLength),
    ("branchingFactor", .float c.branching)]

def value (r : DryRun) : Value :=
  .object [("paths", .ofList (r.namedWalks.map fun (name, w) => r.walkValue name w)),
    ("mutations", .ofList (r.mutations.map mutationValue)),
      ("eventActionMap", .ofList (r.triggers.map summaryValue)),
    ("coverage", coverageValue r.coverage), ("deadCode", deadCodeValue r.deadCode),
    ("complexity", complexityValue r.complexity), ("unknownSceneTargets", texts r.unknownTargets),
    ("truncated", .bool r.truncated)]

/-- The dry run as JSON text: a member a line with an indent, and otherwise one line without blanks.
No indent is negative. -/
def jsonText (r : DryRun) : Option Int → Except Fault String
  | none => .ok (Json.print .tight r.value)
  | some n => if n < 0 then .error .tooLarge else .ok (Json.print (.lines false n.toNat) r.value)

end DryRun

end SceneCourse
