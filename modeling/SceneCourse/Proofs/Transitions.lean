import Mathlib.Data.List.Induction
import Mathlib.Data.List.Nodup
import SceneCourse.Proofs.SceneGraph

/-! The transitions that a course declares, and nothing else, are the arrows of its scene graph.
Actions are nested, a trigger has two branches, a scene has several triggers, and an id may even be
that of several scenes; at each of these levels what is found again is dropped. Proved: dropping it
level by level comes to the same as dropping it once, in the row of all mentions in document order.
So the arrows from a scene stand in the order in which the document first mentions their ends, and
the nodes are the ids of the scenes, then the ends that no scene declares, each of them once. -/

namespace SceneCourse

/-! ### First mentions -/

section

variable {α β : Type} [BEq α]

/-- A list has the elements of another one, each of them once, and those first that are first
mentioned there. -/
structure MentionOrder (mentions xs : List α) : Prop where
  mem : ∀ x, x ∈ xs ↔ x ∈ mentions
  once : xs.Nodup
  order : xs.Pairwise fun x y => mentions.idxOf x < mentions.idxOf y

theorem foldl_mention_concat (seen xs : List α) (x : α) :
    (xs ++ [x]).foldl (fun seen x => if seen.contains x then seen else seen ++ [x]) seen =
      let before := xs.foldl (fun seen x => if seen.contains x then seen else seen ++ [x]) seen
      if before.contains x then before else before ++ [x] := by
  rw [List.foldl_append]
  rfl

variable [LawfulBEq α]

theorem firstMentions_concat (xs : List α) (x : α) :
    firstMentions (xs ++ [x]) = if x ∈ xs then firstMentions xs else firstMentions xs ++ [x] := by
  have same : (firstMentions xs).contains x = true ↔
      x ∈ xs := List.contains_iff_mem.trans mem_firstMentions
  exact (foldl_mention_concat [] xs x).trans (if_congr same rfl rfl)

theorem mentionOrder_firstMentions (xs : List α) : MentionOrder xs (firstMentions xs) := by
  refine ⟨fun x => mem_firstMentions, nodup_firstMentions xs, ?_⟩
  induction xs using List.reverseRecOn with
  | nil => exact .nil
  | append_singleton xs x ih =>
    have early {y : α} (mem : y ∈ firstMentions xs) : (xs ++ [x]).idxOf y = xs.idxOf y :=
      List.idxOf_append_of_mem (mem_firstMentions.1 mem)
    have kept : (firstMentions xs).Pairwise fun y z => (xs ++ [x]).idxOf y < (xs ++ [x]).idxOf z :=
      ih.imp_of_mem fun hy hz before => by rwa [early hy, early hz]
    rw [firstMentions_concat]
    split
    next => exact kept
    next new =>
      refine List.pairwise_append.2 ⟨kept, List.pairwise_singleton .., ?_⟩
      intro y hy z hz
      obtain rfl := List.mem_singleton.1 hz
      have last : (xs ++ [z]).idxOf z = xs.length := by
        rw [List.idxOf_append_of_notMem new, List.idxOf_cons_self, Nat.add_zero]
      rw [early hy, last]
      exact List.idxOf_lt_length_of_mem (mem_firstMentions.1 hy)

/-- What is mentioned again is dropped in any case. -/
theorem foldl_mention_firstMentions (seen xs : List α) :
    (firstMentions xs).foldl (fun seen x => if seen.contains x then seen else seen ++ [x]) seen =
      xs.foldl (fun seen x => if seen.contains x then seen else seen ++ [x]) seen := by
  induction xs using List.reverseRecOn with
  | nil => rfl
  | append_singleton xs x ih =>
    rw [firstMentions_concat, foldl_mention_concat seen xs]
    split
    next old =>
      have found : (xs.foldl (fun seen x => if seen.contains x then seen else seen ++ [x])
          seen).contains x = true :=
        List.contains_iff_mem.2 (mem_foldl_mention.2 (Or.inr old))
      rw [ih]
      exact (if_pos found).symm
    next =>
      rw [foldl_mention_concat, ih]

theorem firstMentions_flatMap (f : β → List α) (bs : List β) :
    firstMentions (bs.flatMap fun b => firstMentions (f b)) = firstMentions (bs.flatMap f) := by
  have grow (bs : List β) (seen : List α) :
      (bs.flatMap fun b => firstMentions (f b)).foldl
        (fun seen x => if seen.contains x then seen else seen ++ [x]) seen =
        (bs.flatMap f).foldl (fun seen x => if seen.contains x then seen
            else seen ++ [x]) seen := by
    induction bs generalizing seen with
    | nil => rfl
    | cons b bs ih =>
      rw [List.flatMap_cons, List.flatMap_cons, List.foldl_append, List.foldl_append,
        foldl_mention_firstMentions, ih]
  exact grow bs []

end

/-! ### Where a document leads -/

namespace Action

/-- An action leads to a scene that it goes to, and a composite leads where an action in it
leads. -/
inductive GoesTo (id : String) : Action → Prop where
  | goes (transition : Value) : GoesTo id (.gotoScene id transition)
  | sequence {as : List Action} {a : Action} (mem : a ∈ as) (leads : GoesTo id a) :
    GoesTo id (.sequence as)
  | parallel {as : List Action} {a : Action} (mem : a ∈ as) (leads : GoesTo id a) :
    GoesTo id (.parallel as)

mutual

/-- The scenes that an action mentions as its goals, in document order. -/
def mentions : Action → List String
  | gotoScene id _ => [id]
  | sequence as => allMentions as
  | parallel as => allMentions as
  | _ => []

def allMentions : List Action → List String
  | [] => []
  | a :: as => mentions a ++ allMentions as

end

theorem allMentions_eq_flatMap (as : List Action) : allMentions as = as.flatMap mentions := by
  induction as with
  | nil => rfl
  | cons a as ih => rw [allMentions, ih, List.flatMap_cons]

mutual

theorem filterMap_preorder (a : Action) : (preorder a).filterMap destination? = a.mentions := by
  cases a with
  | sequence as => exact filterMap_preorderAll as
  | parallel as => exact filterMap_preorderAll as
  | _ => rfl

theorem filterMap_preorderAll (as : List Action) :
    (preorderAll as).filterMap destination? = allMentions as := by
  cases as with
  | nil => rfl
  | cons a as =>
    rw [preorderAll, List.filterMap_append, filterMap_preorder a, filterMap_preorderAll as]
    rfl

end

mutual

theorem mem_mentions_iff (id : String) (a : Action) : id ∈ a.mentions ↔ a.GoesTo id := by
  cases a with
  | gotoScene target transition =>
    constructor
    · intro mem
      obtain rfl := List.mem_singleton.1 mem
      exact .goes transition
    · rintro ⟨⟩
      exact List.mem_singleton_self id
  | sequence as =>
    refine (mem_allMentions_iff id as).trans ⟨?_, ?_⟩
    · rintro ⟨a, mem, leads⟩
      exact .sequence mem leads
    · rintro (_ | ⟨mem, leads⟩)
      exact ⟨_, mem, leads⟩
  | parallel as =>
    refine (mem_allMentions_iff id as).trans ⟨?_, ?_⟩
    · rintro ⟨a, mem, leads⟩
      exact .parallel mem leads
    · rintro (_ | _ | ⟨mem, leads⟩)
      exact ⟨_, mem, leads⟩
  | _ => exact iff_of_false (List.not_mem_nil) nofun

theorem mem_allMentions_iff (id : String) (as : List Action) :
    id ∈ allMentions as ↔ ∃ a ∈ as, a.GoesTo id := by
  cases as with
  | nil => simp [allMentions]
  | cons a as =>
    rw [allMentions, List.mem_append, mem_mentions_iff id a, mem_allMentions_iff id as]
    simp

end

end Action

/-- A trigger leads to a scene if an action of either branch does. -/
def Trigger.GoesTo (t : Trigger) (id : String) : Prop :=
  (∃ a ∈ t.consequent, a.GoesTo id) ∨ ∃ as, t.alternative = some as ∧ ∃ a ∈ as, a.GoesTo id

/-- The scenes that a trigger mentions as its goals, the consequent before the alternative. -/
def Trigger.mentions (t : Trigger) : List String :=
  Action.allMentions t.consequent ++ Action.allMentions (t.alternative.getD [])

def Scene.mentions (s : Scene) : List String := s.triggers.flatMap Trigger.mentions

/-- Some scene with the first id has a trigger that leads to the second. -/
def Course.Transition (c : Course) (s t : String) : Prop :=
  ∃ sc ∈ c.scenes, sc.id = s ∧ ∃ trigger ∈ sc.triggers, trigger.GoesTo t

theorem Trigger.mem_mentions_iff (t : Trigger) (id : String) : id ∈ t.mentions ↔ t.GoesTo id := by
  rw [mentions, GoesTo, List.mem_append, Action.mem_allMentions_iff, Action.mem_allMentions_iff]
  cases t.alternative <;> simp

theorem Trigger.destinations_actions (t : Trigger) :
    Action.destinations t.actions = firstMentions t.mentions := by
  rw [Action.destinations, Action.filterMap_preorderAll, actions, mentions,
    Action.allMentions_eq_flatMap,
    List.flatMap_append, Action.allMentions_eq_flatMap, Action.allMentions_eq_flatMap]

/-- The scenes that come next are told apart once, among all mentions. -/
theorem Scene.next_eq (s : Scene) : s.next = firstMentions s.mentions := by
  rw [next, mentions]
  simp only [Trigger.destinations_actions]
  exact firstMentions_flatMap Trigger.mentions s.triggers

theorem Scene.mem_next_iff (s : Scene) (id : String) :
    id ∈ s.next ↔ ∃ t ∈ s.triggers, t.GoesTo id := by
  rw [next_eq, mem_firstMentions, mentions, List.mem_flatMap]
  simp only [Trigger.mem_mentions_iff]

theorem Course.mem_targets_iff {c : Course} {s t : String} :
    t ∈ c.targets s ↔ c.Transition s t := by
  simp only [mem_targets, Scene.mem_next_iff, Transition]

/-- The targets of an id that one scene has are what comes next of that scene. -/
theorem Course.targets_of_count_eq_one {c : Course} {sc : Scene} (mem : sc ∈ c.scenes)
    (alone : c.sceneIds.count sc.id = 1) : c.targets sc.id = sc.next := by
  have one : (c.scenes.filter (·.id == sc.id)).length = 1 := by
    rw [← alone, sceneIds, List.count, List.countP_map, List.countP_eq_length_filter]
    rfl
  obtain ⟨only, found⟩ := List.length_eq_one_iff.1 one
  have here : sc ∈ c.scenes.filter (·.id == sc.id) := List.mem_filter.2 ⟨mem, beq_self_eq_true _⟩
  rw [found, List.mem_singleton] at here
  rw [targets, found, ← here, List.flatMap_singleton, Scene.next_eq]
  exact foldl_mention_firstMentions [] sc.mentions

/-! ### The nodes of a graph -/

namespace SceneGraph

variable {g : SceneGraph}

def ids (g : SceneGraph) : List String := g.nodes.map (·.id)

def HasArrow (g : SceneGraph) (s t : String) : Prop := ∃ n ∈ g.nodes, n.id = s ∧ t ∈ n.successors

theorem isSome_node?_iff (g : SceneGraph) (id : String) :
    (g.node? id).isSome = true ↔ g.ids.contains id = true := by
  rw [node?, List.find?_isSome, List.contains_iff_mem, ids, List.mem_map]
  simp

theorem ids_alter (g : SceneGraph) (id : String) {f : GraphNode → GraphNode}
    (keep : ∀ n, n.id = id → (f n).id = id) : (g.alter id f).ids = g.ids := by
  rw [ids, ids, alter, List.map_map]
  refine List.map_congr_left fun n _ => ?_
  by_cases here : n.id = id
  · simp [here, keep n here]
  · simp [here]

theorem ids_declare (g : SceneGraph) (sc : Scene) :
    (g.declare sc).ids = if g.ids.contains sc.id then g.ids else g.ids ++ [sc.id] := by
  by_cases present : (g.node? sc.id).isSome = true
  · rw [declare_of_isSome present, ids_alter g sc.id fun _ _ => rfl,
      if_pos ((isSome_node?_iff g _).1 present)]
  · rw [declare_of_not_isSome present, if_neg (mt (isSome_node?_iff g _).2 present)]
    exact List.map_append

theorem ids_connect (g : SceneGraph) (a b : String) :
    (g.connect a b).ids = if g.ids.contains b then g.ids else g.ids ++ [b] := by
  rw [connect_eq, ids_alter (f := pointing b) (g.withEnd b) a fun _ h => h, withEnd,
    if_congr (isSome_node?_iff g b) rfl rfl]
  split
  next => rfl
  next => exact List.map_append

theorem ids_declareAll (g : SceneGraph) (scs : List Scene) : (scs.foldl declare g).ids =
    (scs.map (·.id)).foldl (fun seen x => if seen.contains x then seen else seen ++ [x]) g.ids := by
  induction scs generalizing g with
  | nil => rfl
  | cons sc scs ih => rw [List.foldl_cons, ih, ids_declare, List.map_cons, List.foldl_cons]

theorem ids_connectAll (g : SceneGraph) (a : String) (bs : List String) :
    (bs.foldl (·.connect a) g).ids =
    bs.foldl (fun seen x => if seen.contains x then seen else seen ++ [x]) g.ids := by
  induction bs generalizing g with
  | nil => rfl
  | cons b bs ih => rw [List.foldl_cons, ih, ids_connect, List.foldl_cons]

theorem ids_connectScenes (g : SceneGraph) (scs : List Scene) :
    (scs.foldl (fun g sc => sc.next.foldl (·.connect sc.id) g) g).ids =
      (scs.flatMap (·.next)).foldl (fun seen x => if seen.contains x then seen
        else seen ++ [x]) g.ids := by
  induction scs generalizing g with
  | nil => rfl
  | cons sc scs ih => rw [List.foldl_cons, ih, ids_connectAll, List.flatMap_cons, List.foldl_append]

/-- The nodes stand in the order in which the document first mentions them, declarations before
arrows. -/
theorem ids_ofCourse (c : Course) :
    (ofCourse c).ids = firstMentions (c.sceneIds ++ c.scenes.flatMap (·.next)) := by
  rw [ofCourse, ids_connectScenes, ids_declareAll, firstMentions, List.foldl_append]
  rfl

theorem eq_of_id_eq (once : g.ids.Nodup) {m n : GraphNode} (hm : m ∈ g.nodes) (hn : n ∈ g.nodes)
    (same : m.id = n.id) : m = n := List.inj_on_of_nodup_map once hm hn same

theorem node?_eq_some (once : g.ids.Nodup) {n : GraphNode} (mem : n ∈ g.nodes) :
    g.node? n.id = some n := by
  cases found : g.node? n.id with
  | none => exact absurd (beq_self_eq_true n.id) (List.find?_eq_none.1 found n mem)
  | some m => rw [eq_of_id_eq once (List.mem_of_find?_eq_some found) mem (id_of_node? found)]

theorem hasArrow_iff (once : g.ids.Nodup) (s t : String) : g.HasArrow s t ↔ t ∈ g.successors s := by
  constructor
  · rintro ⟨n, mem, rfl, arrow⟩
    rw [successors, node?_eq_some once mem]
    exact arrow
  · intro arrow
    rw [successors] at arrow
    cases found : g.node? s with
    | none => simp [found] at arrow
    | some n =>
      rw [found] at arrow
      exact ⟨n, List.mem_of_find?_eq_some found, id_of_node? found, arrow⟩

/-- What a scene graph has to say about a course. -/
structure Depicts (g : SceneGraph) (c : Course) : Prop where
  arrows : ∀ s t, g.HasArrow s t ↔ c.Transition s t
  nodes : ∀ id, id ∈ g.ids ↔ id ∈ c.sceneIds ∨ ∃ s, c.Transition s id
  once : g.ids.Nodup
  declared : ∀ n ∈ g.nodes, n.declared = true ↔ n.id ∈ c.sceneIds
  /-- The arrows from any node, of several scenes with its id perhaps. -/
  successors : ∀ n ∈ g.nodes, n.successors.Nodup
  /-- The arrows from the one scene with an id. -/
  order : ∀ sc ∈ c.scenes, c.sceneIds.count sc.id = 1 →
    g.successors sc.id = sc.next ∧ MentionOrder sc.mentions (g.successors sc.id)

theorem ofCourse_depicts (c : Course) : (ofCourse c).Depicts c := by
  have once : (ofCourse c).ids.Nodup := by
    rw [ids_ofCourse]
    exact nodup_firstMentions _
  have arrow (s t : String) : (ofCourse c).HasArrow s t ↔ c.Transition s t := by
    rw [hasArrow_iff once, Course.successors_ofCourse, Course.mem_targets_iff]
  refine ⟨arrow, fun id => ?_, once, fun n mem => ?_, fun n mem => ?_, fun sc mem alone => ?_⟩
  · rw [ids_ofCourse, mem_firstMentions, List.mem_append, List.mem_flatMap]
    simp only [Scene.mem_next_iff, Course.Transition]
    exact or_congr_right ⟨fun ⟨sc, mem, leads⟩ => ⟨sc.id, sc, mem, rfl, leads⟩,
      fun ⟨_, sc, mem, _, leads⟩ => ⟨sc, mem, leads⟩⟩
  · rw [← Course.mem_declaredIds_ofCourse, declaredIds, List.mem_map]
    constructor
    · exact fun declared => ⟨n, List.mem_filter.2 ⟨mem, declared⟩, rfl⟩
    · rintro ⟨m, kept, same⟩
      obtain ⟨inside, declared⟩ := List.mem_filter.1 kept
      rwa [← eq_of_id_eq once inside mem same]
  · have all := Course.nodup_successors_ofCourse c n.id
    rwa [SceneGraph.successors, node?_eq_some once mem] at all
  · have next : (ofCourse c).successors sc.id = sc.next := by
      rw [Course.successors_ofCourse, Course.targets_of_count_eq_one mem alone]
    refine ⟨next, ?_⟩
    rw [next, Scene.next_eq]
    exact mentionOrder_firstMentions sc.mentions

def lobby : Scene where
  id := "lobby"
  vars := []
  nodes := []
  triggers := [⟨⟨"ticket", none, []⟩, some [],
    [.sequence [.gotoScene "hall" .null, .parallel
      [.gotoScene "vault" .null, .gotoScene "hall" .null]]],
    some [.gotoScene "lobby" .null], []⟩]
  extras := []

def museum : Course where
  schema := "vvce.dsl.v1"
  about := ⟨"museum", "1.0.0", []⟩
  globals := ⟨[], []⟩
  start := "lobby"
  scenes :=
    [lobby, ⟨"hall", [], [], [⟨⟨"bell", none, []⟩, none, [.gotoScene "lobby" .null], none, []⟩],
    []⟩]
  extras := []

/-- The way from the lobby into the vault is an arrow, although it is two composites deep. -/
theorem ofCourse_depicts_museum : museum.sceneIds.count "lobby" = 1 ∧
    (ofCourse museum).successors "lobby" = ["hall", "vault", "lobby"] ∧
    MentionOrder ["hall", "vault", "hall", "lobby"] ["hall", "vault", "lobby"] ∧
    (ofCourse museum).ids = ["lobby", "hall", "vault"] ∧
    (ofCourse museum).declaredIds = ["lobby", "hall"] := by
  have alone : museum.sceneIds.count "lobby" = 1 := by decide +kernel
  have found : (ofCourse museum).successors "lobby" =
      ["hall", "vault", "lobby"] := by decide +kernel
  obtain ⟨-, order⟩ := (ofCourse_depicts museum).order lobby List.mem_cons_self alone
  have there : (ofCourse museum).successors lobby.id = ["hall", "vault", "lobby"] := found
  rw [there] at order
  exact ⟨alone, found, order, by decide +kernel, by decide +kernel⟩

end SceneGraph

end SceneCourse
