import SceneCourse.DryRun.Graph

/-!
Walks through a scene graph. A walk follows arrows from the start scene and ends where it cannot go
on: in a scene without arrows, in a scene that it has been to already, or at a target that no scene
declares. `walks` lists all of them by recursion; `explore` finds them with a stack and stops at a
limit.
-/

namespace SceneCourse

inductive WalkEnd where
  /-- A scene without arrows. -/
  | complete
  /-- A scene that the walk has been to. -/
  | loop
  /-- A target that no scene declares. -/
  | unknown
  deriving DecidableEq, Repr

/-- The scenes that were walked through, the scene at which the walk ended, and why. -/
structure Walk where
  scenes : List String
  finish : String
  ending : WalkEnd
  deriving DecidableEq, Repr

namespace SceneGraph

/-- How many of the declared scenes a walk has not been to. -/
def unvisited (g : SceneGraph) (been : List String) : Nat :=
  (g.declaredIds.filter (!been.contains ·)).length

theorem unvisited_cons_lt (g : SceneGraph) {s : String} {been : List String}
    (declared : s ∈ g.declaredIds) (new : s ∉ been) :
    g.unvisited (s :: been) < g.unvisited been := by
  unfold unvisited
  have : g.declaredIds.filter (!(s :: been).contains ·) =
      (g.declaredIds.filter (!been.contains ·)).filter (· != s) := by
    rw [List.filter_filter]
    congr 1
    funext t
    by_cases h : t = s <;> simp [h]
  rw [this]
  apply List.length_filter_lt_length_iff_exists.2
  exact ⟨s, by simp [declared, new], by simp⟩

/-- All walks that go on from a scene, after the scenes of `been` with the last one first. -/
def walksFrom (g : SceneGraph) (been : List String) (s : String) : List Walk :=
  if _declared : s ∈ g.declaredIds then
    if _new : s ∈ been then [⟨been.reverse, s, .loop⟩]
    else match g.successors s with
      | [] => [⟨(s :: been).reverse, s, .complete⟩]
      | ts => ts.flatMap (walksFrom g (s :: been))
  else [⟨been.reverse, s, .unknown⟩]
termination_by g.unvisited been
decreasing_by exact unvisited_cons_lt g _declared _new

/-- All walks from a scene, branches in the order of the arrows. -/
def walks (g : SceneGraph) (start : String) : List Walk := walksFrom g [] start

end SceneGraph

/-! ### Exploring with a stack -/

/-- A scene that waits for its turn, and the scenes on the way to it with the last one first. -/
structure Pending where
  scene : String
  been : List String

/-- What an exploration has found so far. -/
structure Exploration where
  found : Array Walk := #[]
  visited : List String := []
  unknown : List String := []
  truncated : Bool := false

namespace Exploration

def record (x : Exploration) (w : Walk) : Exploration := { x with found := x.found.push w }

def visit (x : Exploration) (s : String) : Exploration :=
  { x with visited := if x.visited.contains s then x.visited else x.visited ++ [s] }

def miss (x : Exploration) (s : String) : Exploration :=
  { x with unknown := if x.unknown.contains s then x.unknown else x.unknown ++ [s] }

/-- How much there is to explore below a waiting scene. -/
def weight (g : SceneGraph) (p : Pending) : Nat := Nat.pow (g.degree + 1) (g.unvisited p.been + 1)

theorem weight_pos (g : SceneGraph) (p : Pending) : 0 < weight g p := Nat.pow_pos (Nat.succ_pos _)

/-- How much there is to explore below all that wait. -/
def weightAll (g : SceneGraph) : List Pending → Nat
  | [] => 0
  | p :: ps => weight g p + weightAll g ps

theorem weightAll_append (g : SceneGraph) (ps qs : List Pending) :
    weightAll g (ps ++ qs) = weightAll g ps + weightAll g qs := by
  induction ps with
  | nil => simp [weightAll]
  | cons p ps ih => simp [weightAll, ih, Nat.add_assoc]

theorem weightAll_map (g : SceneGraph) (been : List String) (ts : List String) :
    weightAll g (ts.map fun t => ⟨t, been⟩) = ts.length * Nat.pow (g.degree + 1)
    (g.unvisited been + 1) := by
  induction ts with
  | nil => rw [List.map_nil, weightAll, List.length_nil, Nat.zero_mul]
  | cons t ts ih =>
    rw [List.map_cons, weightAll, ih, weight, List.length_cons, Nat.succ_mul, Nat.add_comm]

/-- A scene weighs more than all that follows it. -/
theorem weightAll_successors_lt (g : SceneGraph) {p : Pending} (declared : p.scene ∈ g.declaredIds)
    (new : p.scene ∉ p.been) :
    weightAll g ((g.successors p.scene).map fun t => ⟨t, p.scene :: p.been⟩) < weight g p := by
  have fewer := g.unvisited_cons_lt declared new
  rw [weightAll_map]
  calc (g.successors p.scene).length * Nat.pow (g.degree + 1) (g.unvisited (p.scene :: p.been) + 1)
      ≤ g.degree * Nat.pow (g.degree + 1) (g.unvisited (p.scene :: p.been) + 1) :=
        Nat.mul_le_mul_right _ (g.length_successors_le _)
    _ < (g.degree + 1) * Nat.pow (g.degree + 1) (g.unvisited (p.scene :: p.been) + 1) :=
        Nat.mul_lt_mul_of_pos_right (Nat.lt_succ_self _) (Nat.pow_pos (Nat.succ_pos _))
    _ = Nat.pow (g.degree + 1) (g.unvisited (p.scene :: p.been) + 1 + 1) := Nat.pow_succ'.symm
    _ ≤ weight g p := Nat.pow_le_pow_right (Nat.succ_pos _) (Nat.succ_le_succ fewer)

/-- Explores what waits on a stack, until it is empty or as many walks as the limit allows have been
found. -/
def run (g : SceneGraph) (limit : Int) (stack : List Pending) (x : Exploration) : Exploration :=
  match stack with
  | [] => x
  | p :: stack =>
    if limit ≤ x.found.size then { x with truncated := true }
    else if _declared : p.scene ∈ g.declaredIds then
      if _new : p.scene ∈ p.been then run g limit stack
        ((x.visit p.scene).record ⟨p.been.reverse, p.scene, .loop⟩)
      else
        let x := x.visit p.scene
        match next : g.successors p.scene with
        | [] => run g limit stack (x.record ⟨(p.scene :: p.been).reverse, p.scene, .complete⟩)
        | ts => run g limit (ts.map (fun t => ⟨t, p.scene :: p.been⟩) ++ stack) x
    else run g limit stack ((x.miss p.scene).record ⟨p.been.reverse, p.scene, .unknown⟩)
termination_by weightAll g stack
decreasing_by
  · exact Nat.lt_add_of_pos_left (weight_pos g p)
  · exact Nat.lt_add_of_pos_left (weight_pos g p)
  · rw [weightAll_append, weightAll, ← next]
    exact Nat.add_lt_add_right (weightAll_successors_lt g _declared _new) _
  · exact Nat.lt_add_of_pos_left (weight_pos g p)

end Exploration

/-- Explores a graph from its start scene. -/
def SceneGraph.explore (g : SceneGraph) (start : String) (limit : Int) : Exploration :=
  Exploration.run g limit [⟨start, []⟩] {}

end SceneCourse
