import SceneCourse.Course.Document

/-!
The scene graph of a course: an arrow from a scene to every scene that some action of its triggers
goes to, in either branch. Declared scenes come first, in document order, then the targets that no
scene declares.
-/

namespace SceneCourse

structure GraphNode where
  id : String
  declared : Bool
  nodeCount : Nat
  triggerCount : Nat
  successors : List String := []
  deriving DecidableEq, Repr

structure SceneGraph where
  nodes : List GraphNode := []
  deriving DecidableEq, Repr

namespace SceneGraph

def node? (g : SceneGraph) (id : String) : Option GraphNode := g.nodes.find? (·.id == id)

def successors (g : SceneGraph) (id : String) : List String :=
  ((g.node? id).map (·.successors)).getD []

/-- The ids of the declared scenes. -/
def declaredIds (g : SceneGraph) : List String := (g.nodes.filter (·.declared)).map (·.id)

/-- Changes the node with an id. -/
def alter (g : SceneGraph) (id : String) (f : GraphNode → GraphNode) : SceneGraph :=
  ⟨g.nodes.map fun n => if n.id == id then f n else n⟩

/-- Adds a declared scene; a later scene with the same id replaces the counts of the earlier one. -/
def declare (g : SceneGraph) (s : Scene) : SceneGraph :=
  let n : GraphNode := ⟨s.id, true, s.nodes.length, s.triggers.length, []⟩
  if (g.node? s.id).isSome then g.alter s.id fun old => { n with successors := old.successors }
  else ⟨g.nodes ++ [n]⟩

/-- Adds an arrow, and its end if nothing has declared it; an arrow that is there is not added
again. -/
def connect (g : SceneGraph) (source target : String) : SceneGraph :=
  let g := if (g.node? target).isSome then g else ⟨g.nodes ++ [⟨target, false, 0, 0, []⟩]⟩
  g.alter source fun n =>
    { n with successors := if n.successors.contains target then n.successors
      else n.successors ++ [target] }

/-- The scene graph of a course. -/
def ofCourse (c : Course) : SceneGraph :=
  let g := c.scenes.foldl declare {}
  c.scenes.foldl (fun g s => s.next.foldl (·.connect s.id) g) g

/-- The largest number of arrows from any scene. -/
def degree (g : SceneGraph) : Nat := g.nodes.foldr (fun n d => max n.successors.length d) 0

theorem length_successors_le (g : SceneGraph) (id : String) :
    (g.successors id).length ≤ g.degree := by
  obtain ⟨nodes⟩ := g
  unfold successors node? degree
  induction nodes with
  | nil => simp
  | cons n nodes ih =>
    simp only [List.find?_cons, List.foldr_cons]
    split
    · exact Nat.le_max_left ..
    · exact Nat.le_trans ih (Nat.le_max_right ..)

end SceneGraph

end SceneCourse
