import SceneCourse.DryRun.Graph

/-! The scene graph of a course, read back from the document. A graph is looked at through two
views: which ids its declared nodes have, and which successors stand at an id. Each step of building
a graph says what it does to both; from that, the declared ids are the ids of the course's scenes,
and the successors at an id are the targets of all scenes with that id, first mention first. -/

namespace SceneCourse

namespace SceneGraph

variable {g : SceneGraph} {s t : String}

theorem id_of_node? {n : GraphNode} (h : g.node? s = some n) : n.id = s := by
  have found := List.find?_some h
  simpa using found

/-- A change of the nodes with one id that keeps the id. -/
theorem node?_alter (g : SceneGraph) (id s : String) {f : GraphNode → GraphNode}
    (keep : ∀ n, n.id = id → (f n).id = id) :
    (g.alter id f).node? s = (g.node? s).map fun n => if n.id == id then f n else n := by
  have same : ((·.id == s) ∘ fun n : GraphNode => if n.id == id then f n else n) = (·.id == s) := by
    funext n
    by_cases h : n.id = id
    · simp [h, keep n h]
    · simp [h]
  simp only [node?, alter, List.find?_map, same]

theorem successors_append_new (g : SceneGraph) (id : String) (declared : Bool) (m n : Nat)
    (s : String) :
    SceneGraph.successors ⟨g.nodes ++ [⟨id, declared, m, n, []⟩]⟩ s = g.successors s := by
  cases h : g.nodes.find? (·.id == s) with
  | some _ => simp [successors, node?, List.find?_append, h]
  | none => by_cases here : id = s <;> simp [successors, node?, List.find?_append, h, here]

/-! ### Declaring a scene -/

def renewed (sc : Scene) (n : GraphNode) : GraphNode :=
  ⟨sc.id, true, sc.nodes.length, sc.triggers.length, n.successors⟩

theorem declare_of_isSome {sc : Scene} (h : (g.node? sc.id).isSome = true) :
    g.declare sc = g.alter sc.id (renewed sc) := if_pos h

theorem declare_of_not_isSome {sc : Scene} (h : ¬(g.node? sc.id).isSome = true) :
    g.declare sc = ⟨g.nodes ++ [⟨sc.id, true, sc.nodes.length, sc.triggers.length, []⟩]⟩ := if_neg h

theorem isSome_node?_declare (g : SceneGraph) (sc : Scene) (s : String) :
    ((g.declare sc).node? s).isSome = true ↔ s = sc.id ∨ (g.node? s).isSome = true := by
  by_cases present : (g.node? sc.id).isSome = true
  · rw [declare_of_isSome present, node?_alter g sc.id s (fun _ _ => rfl), Option.isSome_map]
    constructor
    · exact Or.inr
    · rintro (rfl | h)
      · exact present
      · exact h
  · rw [declare_of_not_isSome present]
    by_cases h : s = sc.id
    · simp [node?, h]
    · simp [node?, h, Ne.symm h]

theorem successors_declare (g : SceneGraph) (sc : Scene) (s : String) :
    (g.declare sc).successors s = g.successors s := by
  by_cases present : (g.node? sc.id).isSome = true
  · rw [declare_of_isSome present, successors, node?_alter g sc.id s (fun _ _ => rfl), successors]
    cases g.node? s with
    | none => rfl
    | some n => by_cases here : n.id = sc.id <;> simp [here, renewed]
  · rw [declare_of_not_isSome present, successors_append_new]

theorem mem_declaredIds_declare (g : SceneGraph) (sc : Scene) (s : String) :
    s ∈ (g.declare sc).declaredIds ↔ s = sc.id ∨ s ∈ g.declaredIds := by
  by_cases present : (g.node? sc.id).isSome = true
  · rw [declare_of_isSome present]
    obtain ⟨n, hn⟩ := Option.isSome_iff_exists.1 present
    have member : n ∈ g.nodes := List.mem_of_find?_eq_some hn
    have here : n.id = sc.id := id_of_node? hn
    simp only [declaredIds, alter, List.mem_map, List.mem_filter]
    constructor
    · rintro ⟨_, ⟨⟨m, hm, rfl⟩, declared⟩, rfl⟩
      by_cases h : m.id = sc.id
      · left
        simp [h, renewed]
      · right
        exact ⟨m, ⟨hm, by simpa [h] using declared⟩, by simp [h]⟩
    · rintro (rfl | ⟨m, ⟨hm, declared⟩, rfl⟩)
      · exact ⟨_, ⟨⟨n, member, rfl⟩, by simp [here, renewed]⟩, by simp [here, renewed]⟩
      · refine ⟨_, ⟨⟨m, hm, rfl⟩, ?_⟩, ?_⟩ <;> by_cases h : m.id = sc.id <;>
          simp [h, declared, renewed]
  · rw [declare_of_not_isSome present]
    have appended : s ∈ SceneGraph.declaredIds
        ⟨g.nodes ++ [⟨sc.id, true, sc.nodes.length, sc.triggers.length, []⟩]⟩ ↔
        s ∈ g.declaredIds ∨ s = sc.id := by simp [declaredIds]
    rw [appended, or_comm]

/-! ### Adding an arrow -/

/-- The graph with the end of an arrow added, if it was not there. -/
def withEnd (g : SceneGraph) (t : String) : SceneGraph :=
  if (g.node? t).isSome then g else ⟨g.nodes ++ [⟨t, false, 0, 0, []⟩]⟩

/-- A node with one arrow more, if it was not there. -/
def pointing (t : String) (n : GraphNode) : GraphNode :=
  { n with successors := if n.successors.contains t then n.successors else n.successors ++ [t] }

theorem connect_eq (g : SceneGraph) (s t : String) :
    g.connect s t = (g.withEnd t).alter s (pointing t) := rfl

theorem node?_connect (g : SceneGraph) (a b s : String) :
    (g.connect a b).node? s = ((g.withEnd b).node? s).map fun n => if n.id == a
      then pointing b n else n :=
  node?_alter (g.withEnd b) a s fun _ h => h

theorem isSome_node?_withEnd (t : String) (h : (g.node? s).isSome = true) :
    ((g.withEnd t).node? s).isSome = true := by
  unfold withEnd
  split
  next => exact h
  next => simpa [node?, List.find?_append] using Or.inl h

theorem successors_withEnd (g : SceneGraph) (t s : String) :
    (g.withEnd t).successors s = g.successors s := by
  unfold withEnd
  split
  next => rfl
  next => rw [successors_append_new]

theorem declaredIds_withEnd (g : SceneGraph) (t : String) :
    (g.withEnd t).declaredIds = g.declaredIds := by
  unfold withEnd
  split <;> simp [declaredIds]

theorem isSome_node?_connect (a b : String) (h : (g.node? s).isSome = true) :
    ((g.connect a b).node? s).isSome = true := by
  rw [node?_connect, Option.isSome_map]
  exact isSome_node?_withEnd b h

theorem successors_connect_self (b : String) (h : (g.node? s).isSome = true) :
    (g.connect s b).successors s =
      if (g.successors s).contains b then g.successors s else g.successors s ++ [b] := by
  obtain ⟨n, hn⟩ := Option.isSome_iff_exists.1 (isSome_node?_withEnd b h)
  have old : g.successors s = n.successors := by rw [← successors_withEnd g b, successors, hn]; rfl
  rw [successors, node?_connect, hn, old]
  simp [id_of_node? hn, pointing]

theorem successors_connect_of_ne (g : SceneGraph) (b : String) (h : t ≠ s) :
    (g.connect t b).successors s = g.successors s := by
  rw [successors, node?_connect, ← successors_withEnd g b, successors]
  cases hn : (g.withEnd b).node? s with
  | none => rfl
  | some n => simp [id_of_node? hn, Ne.symm h]

theorem declaredIds_connect (g : SceneGraph) (a b : String) :
    (g.connect a b).declaredIds = g.declaredIds := by
  have mark : ((·.declared) ∘ fun n : GraphNode => if n.id == a then pointing b n else n) =
      (·.declared) := by
    funext n
    by_cases h : n.id = a <;> simp [h, pointing]
  have name : ((·.id) ∘ fun n : GraphNode => if n.id == a then pointing b n else n) = (·.id) := by
    funext n
    by_cases h : n.id = a <;> simp [h, pointing]
  rw [connect_eq, ← declaredIds_withEnd g b]
  simp only [declaredIds, alter, List.filter_map, List.map_map, mark, name]

/-! ### All arrows of a scene -/

theorem isSome_node?_connectAll (a : String) (bs : List String) (h : (g.node? s).isSome = true) :
    ((bs.foldl (·.connect a) g).node? s).isSome = true := by
  induction bs generalizing g with
  | nil => exact h
  | cons b bs ih => exact ih (isSome_node?_connect a b h)

theorem successors_connectAll_self (bs : List String) (h : (g.node? s).isSome = true) :
    (bs.foldl (·.connect s) g).successors s =
      bs.foldl (fun seen x => if seen.contains x then seen else seen ++ [x]) (g.successors s) := by
  induction bs generalizing g with
  | nil => rfl
  | cons b bs ih =>
    rw [List.foldl_cons, ih (isSome_node?_connect s b h), successors_connect_self b h,
      List.foldl_cons]

theorem successors_connectAll_of_ne (g : SceneGraph) (bs : List String) (h : t ≠ s) :
    (bs.foldl (·.connect t) g).successors s = g.successors s := by
  induction bs generalizing g with
  | nil => rfl
  | cons b bs ih => rw [List.foldl_cons, ih, successors_connect_of_ne g b h]

theorem declaredIds_connectAll (g : SceneGraph) (a : String) (bs : List String) :
    (bs.foldl (·.connect a) g).declaredIds = g.declaredIds := by
  induction bs generalizing g with
  | nil => rfl
  | cons b bs ih => rw [List.foldl_cons, ih, declaredIds_connect]

/-! ### The graph of a course -/

theorem isSome_node?_declareAll (scs : List Scene) :
    ((scs.foldl declare g).node? s).isSome = true ↔
      s ∈ scs.map (·.id) ∨ (g.node? s).isSome = true := by
  induction scs generalizing g with
  | nil => simp
  | cons sc scs ih =>
    rw [List.foldl_cons, ih, isSome_node?_declare, List.map_cons, List.mem_cons,
      or_assoc, or_left_comm]

theorem successors_declareAll (g : SceneGraph) (scs : List Scene) (s : String) :
    (scs.foldl declare g).successors s = g.successors s := by
  induction scs generalizing g with
  | nil => rfl
  | cons sc scs ih => rw [List.foldl_cons, ih, successors_declare]

theorem mem_declaredIds_declareAll (scs : List Scene) :
    s ∈ (scs.foldl declare g).declaredIds ↔ s ∈ scs.map (·.id) ∨ s ∈ g.declaredIds := by
  induction scs generalizing g with
  | nil => simp
  | cons sc scs ih =>
    rw [List.foldl_cons, ih, mem_declaredIds_declare, List.map_cons, List.mem_cons,
      or_assoc, or_left_comm]

/-- Scenes with an id add their targets at that id, the others nothing. -/
theorem successors_connectScenes (scs : List Scene) (h : (g.node? s).isSome = true) :
    (scs.foldl (fun g sc => sc.next.foldl (·.connect sc.id) g) g).successors s =
      ((scs.filter (·.id == s)).flatMap (·.next)).foldl
        (fun seen x => if seen.contains x then seen else seen ++ [x]) (g.successors s) := by
  induction scs generalizing g with
  | nil => rfl
  | cons sc scs ih =>
    rw [List.foldl_cons, ih (isSome_node?_connectAll sc.id sc.next h)]
    by_cases here : sc.id = s
    · subst here
      rw [successors_connectAll_self sc.next h, List.filter_cons_of_pos (by simp),
        List.flatMap_cons, List.foldl_append]
    · rw [successors_connectAll_of_ne g sc.next here, List.filter_cons_of_neg (by simp [here])]

theorem successors_connectScenes_of_not_mem (g : SceneGraph) (scs : List Scene)
    (h : s ∉ scs.map (·.id)) :
    (scs.foldl (fun g sc => sc.next.foldl (·.connect sc.id) g) g).successors s =
      g.successors s := by
  induction scs generalizing g with
  | nil => rfl
  | cons sc scs ih =>
    rw [List.map_cons, List.mem_cons, not_or] at h
    rw [List.foldl_cons, ih _ h.2, successors_connectAll_of_ne g sc.next (Ne.symm h.1)]

theorem declaredIds_connectScenes (g : SceneGraph) (scs : List Scene) :
    (scs.foldl (fun g sc => sc.next.foldl (·.connect sc.id) g) g).declaredIds = g.declaredIds := by
  induction scs generalizing g with
  | nil => rfl
  | cons sc scs ih => rw [List.foldl_cons, ih, declaredIds_connectAll]

end SceneGraph

namespace Course

/-- The scenes that some trigger of a scene with an id goes to, first mention first. -/
def targets (c : Course) (id : String) : List String :=
  firstMentions ((c.scenes.filter (·.id == id)).flatMap (·.next))

theorem scene?_eq_none_iff (c : Course) (id : String) : c.scene? id = none ↔ id ∉ c.sceneIds := by
  simp [scene?, sceneIds]

theorem mem_sceneIds_of_scene? {c : Course} {id : String} {sc : Scene} (h : c.scene? id = some sc) :
    sc ∈ c.scenes ∧ sc.id = id := by
  have found := List.find?_some h
  exact ⟨List.mem_of_find?_eq_some h, by simpa using found⟩

open SceneGraph

theorem mem_declaredIds_ofCourse (c : Course) (id : String) :
    id ∈ (ofCourse c).declaredIds ↔ id ∈ c.sceneIds := by
  rw [ofCourse, declaredIds_connectScenes, mem_declaredIds_declareAll]
  simp [declaredIds, sceneIds]

theorem mem_declaredIds_iff_scene? (c : Course) (id : String) :
    id ∈ (ofCourse c).declaredIds ↔ ¬c.scene? id = none := by
  rw [mem_declaredIds_ofCourse, scene?_eq_none_iff, Decidable.not_not]

/-- An arrow leads to every target of a scene's triggers, and the arrows stand in the order of the
document. -/
theorem successors_ofCourse (c : Course) (id : String) :
    (ofCourse c).successors id = c.targets id := by
  have empty : SceneGraph.successors {} id = [] := rfl
  by_cases h : id ∈ c.scenes.map (·.id)
  · have declared : ((c.scenes.foldl declare {}).node? id).isSome = true :=
      (isSome_node?_declareAll _).2 (Or.inl h)
    rw [ofCourse, successors_connectScenes _ declared, successors_declareAll, empty]
    rfl
  · have none : c.scenes.filter (·.id == id) = [] := by
      rw [List.filter_eq_nil_iff]
      intro sc member same
      exact h (List.mem_map.2 ⟨sc, member, by simpa using same⟩)
    rw [ofCourse, successors_connectScenes_of_not_mem _ _ h, successors_declareAll, empty,
      targets, none]
    rfl

theorem nodup_successors_ofCourse (c : Course) (id : String) :
    ((ofCourse c).successors id).Nodup := by
  rw [successors_ofCourse]
  exact nodup_firstMentions _

theorem mem_targets {c : Course} {id t : String} :
    t ∈ c.targets id ↔ ∃ sc ∈ c.scenes, sc.id = id ∧ t ∈ sc.next := by
  simp [targets, mem_firstMentions, and_assoc]

end Course

end SceneCourse
