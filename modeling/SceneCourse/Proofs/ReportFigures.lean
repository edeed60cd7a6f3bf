import Mathlib.Algebra.BigOperators.Group.List.Lemmas
import Mathlib.Algebra.GroupWithZero.Nat
import SceneCourse.Proofs.Normalization
import SceneCourse.Proofs.VisitedScenes

/-! The figures of a dry run side by side. Some are counted over the scenes, some over the triggers,
some over all actions in the triggers and some over the walks. Counts over triggers are brought to
one list, the actions of all branches in document order, and what is inside them is counted by
opening that list. Proved: the figures for scenes, nodes and triggers add up in each section and
agree between the sections, the tags of the triggers are those that are counted, the counts add up
to the number of actions at all depths, the actions that write are counted by their tags, and no
walk goes through more scenes than are declared; all of that whatever the limit. -/

namespace SceneCourse

open Checked

/-! ### Counting elements -/

section

variable {α : Type} [DecidableEq α]

theorem firstMentions_perm_dedup (xs : List α) : (firstMentions xs).Perm xs.dedup := by
  refine (List.perm_ext_iff_of_nodup (nodup_firstMentions xs) (List.nodup_dedup xs)).2 fun x => ?_
  rw [mem_firstMentions, List.mem_dedup]

theorem keys_tally (xs : List α) : (tally xs).map (·.1) = firstMentions xs := by
  rw [tally, List.map_map]
  exact List.map_id _

/-- What a tally counts are all elements. -/
theorem sum_tally (xs : List α) : ((tally xs).map (·.2)).sum = xs.length := by
  have counts : (tally xs).map (·.2) = (firstMentions xs).map fun x => xs.count x := List.map_map
  rw [counts, ((firstMentions_perm_dedup xs).map _).sum_eq, List.sum_map_count_dedup_eq_length]

theorem lookup_map_graph (f : α → Nat) (xs : List α) (x : α) :
    (xs.map fun y => (y, f y)).lookup x = if x ∈ xs then some (f x) else none := by
  induction xs with
  | nil => rfl
  | cons y xs ih =>
    rw [List.map_cons, List.lookup_cons, ih]
    by_cases here : x = y
    · simp [here]
    · rw [beq_false_of_ne here]
      simp [here]

/-- A tally counts what it does not list as nothing. -/
theorem lookup_tally (xs : List α) (x : α) : ((tally xs).lookup x).getD 0 = xs.count x := by
  rw [tally, lookup_map_graph]
  by_cases member : x ∈ xs
  · simp [mem_firstMentions.2 member]
  · simp [mt mem_firstMentions.1 member, List.count_eq_zero_of_not_mem member]

end

theorem foldl_max_le {xs : List Nat} {start bound : Nat} (first : start ≤ bound)
    (all : ∀ x ∈ xs, x ≤ bound) : xs.foldl max start ≤ bound := by
  induction xs generalizing start with
  | nil => exact first
  | cons x xs ih =>
    obtain ⟨here, later⟩ := List.forall_mem_cons.1 all
    exact ih (Nat.max_le.2 ⟨first, here⟩) later

/-! ### Counting actions -/

namespace Action

theorem preorderAll_eq_nil_iff {as : List Action} : preorderAll as = [] ↔ as = [] := by
  cases as with
  | nil => simp [preorderAll]
  | cons a as => simp [preorderAll, preorder_eq]

/-- There are as many actions inside a list as in it, and more if one of them has parts. -/
theorem length_preorderAll (as : List Action) :
    as.length ≤ (preorderAll as).length ∧
      ((preorderAll as).length = as.length ↔ ∀ a ∈ preorderAll as, a.parts = []) := by
  induction as with
  | nil => simp [preorderAll]
  | cons a as ih =>
    obtain ⟨atLeast, exactly⟩ := ih
    have first : (preorder a).length = (preorderAll a.parts).length + 1 := by
      rw [preorder_eq, List.length_cons]
    rw [preorderAll, List.length_append, List.length_cons, first, List.forall_mem_append,
      ← exactly, preorder_eq,
      List.forall_mem_cons]
    refine ⟨by omega, ?_, ?_⟩
    · intro same
      have empty : a.parts = [] := preorderAll_eq_nil_iff.1
        (List.eq_nil_of_length_eq_zero (by omega))
      refine ⟨⟨empty, ?_⟩, by omega⟩
      rw [empty, preorderAll]
      exact List.forall_mem_nil _
    · rintro ⟨⟨empty, -⟩, rest⟩
      rw [empty, preorderAll, rest, List.length_nil]
      omega

/-- An honest action that writes has one of three tags. -/
theorem isSome_writtenPath?_iff {a : Action} (honest : a.Honest) :
    a.writtenPath?.isSome = true ↔ a.tag = "setVar" ∨ a.tag = "incVar" ∨ a.tag = "addScore" := by
  cases a with
  | unknown t params =>
    have other := honest t params rfl
    simp only [writtenPath?, Option.isSome_none, Bool.false_eq_true, false_iff]
    rintro (rfl | rfl | rfl) <;> exact other (by decide)
  | _ => simp [writtenPath?, tag]

/-- Among honest actions, those that write are counted by their tags. -/
theorem length_writes {as : List Action} (honest : ∀ a ∈ as, a.Honest) :
    (as.filterMap (·.writtenPath?)).length =
    (as.map (·.tag)).count "setVar" + (as.map (·.tag)).count "incVar" +
      (as.map (·.tag)).count "addScore" := by
  induction as with
  | nil => rfl
  | cons a as ih =>
    obtain ⟨first, others⟩ := List.forall_mem_cons.1 honest
    have writes := isSome_writtenPath?_iff first
    rw [List.filterMap_cons, List.map_cons, List.count_cons, List.count_cons, List.count_cons]
    cases path : a.writtenPath? with
    | none =>
      obtain ⟨noSet, noIncrement, noScore⟩ : a.tag ≠ "setVar" ∧ a.tag ≠ "incVar" ∧
          a.tag ≠ "addScore" := by
        simpa [path] using writes
      simp only [beq_false_of_ne noSet, beq_false_of_ne noIncrement, beq_false_of_ne noScore]
      exact ih others
    | some _ =>
      rw [List.length_cons, ih others]
      have counted : (if a.tag == "setVar" then 1 else 0) + (if a.tag == "incVar" then 1 else 0) +
          (if a.tag == "addScore" then 1 else 0) = 1 := by
        rcases writes.1 (by rw [path]; rfl) with named | named | named <;> rw [named] <;> rfl
      omega

theorem parts_of_not_isComposite {a : Action} (plain : a.isComposite = false) : a.parts = [] := by
  cases a with
  | sequence _ => simp [isComposite] at plain
  | parallel _ => simp [isComposite] at plain
  | _ => rfl

end Action

/-! ### Tags of a document -/

theorem Trigger.ensures_honest :
    Ensures read fun t => ∀ a ∈ Action.preorderAll t.actions, a.Honest := by
  intro v t h
  obtain ⟨es, h₀⟩ := exists_of_readRecord h
  obtain ⟨_, extras, h₁, -, rfl⟩ := seq_eq_ok h₀
  obtain ⟨_, alternative, h₂, otherwise, rfl⟩ := seq_eq_ok h₁
  obtain ⟨_, consequent, h₃, acts, rfl⟩ := seq_eq_ok h₂
  obtain ⟨_, conditions, h₄, -, rfl⟩ := seq_eq_ok h₃
  obtain ⟨on, -, rfl⟩ := map_eq_ok h₄
  have first := Action.ensures_honest.list.optional (List.forall_mem_nil _) acts
  have second := Action.ensures_honest.optionalList.optional (List.forall_mem_nil _) otherwise
  intro a mem
  rw [Action.preorderAll_eq_flatMap, List.mem_flatMap] at mem
  obtain ⟨b, branch, inside⟩ := mem
  rcases List.mem_append.1 branch with leading | otherwise
  · exact first b leading a inside
  · exact second b otherwise a inside

theorem Scene.ensures_honest :
    Ensures read fun s => ∀ t ∈ s.triggers, ∀ a ∈ Action.preorderAll t.actions, a.Honest := by
  intro v s h
  obtain ⟨es, h₀⟩ := exists_of_readRecord h
  obtain ⟨_, extras, h₁, -, rfl⟩ := seq_eq_ok h₀
  obtain ⟨_, triggers, h₂, listens, rfl⟩ := seq_eq_ok h₁
  obtain ⟨_, nodes, h₃, -, rfl⟩ := seq_eq_ok h₂
  obtain ⟨_, vars, h₄, -, rfl⟩ := seq_eq_ok h₃
  obtain ⟨id, -, rfl⟩ := map_eq_ok h₄
  exact Trigger.ensures_honest.list.optional (List.forall_mem_nil _) listens

namespace Course

variable (c : Course)

def triggers : List Trigger := c.scenes.flatMap (·.triggers)

def actions : List Action := c.triggers.flatMap (·.actions)

theorem preorderAll_actions :
    Action.preorderAll c.actions = c.triggers.flatMap fun t => Action.preorderAll t.actions := by
  rw [Action.preorderAll_eq_flatMap, actions, List.flatMap_assoc]
  exact congrArg (List.flatMap · _) (funext fun t => (Action.preorderAll_eq_flatMap t.actions).symm)

theorem honest_of_ofValue {c : Course} {v : Value} (h : ofValue v = .ok c) :
    ∀ a ∈ Action.preorderAll c.actions, a.Honest := by
  obtain ⟨es, h₀⟩ := exists_of_readRecord (toExcept_eq_ok.1 h)
  obtain ⟨_, extras, h₁, -, rfl⟩ := seq_eq_ok h₀
  obtain ⟨_, scenes, h₂, shows, rfl⟩ := seq_eq_ok h₁
  obtain ⟨_, start, h₃, -, rfl⟩ := seq_eq_ok h₂
  obtain ⟨_, globals, h₄, -, rfl⟩ := seq_eq_ok h₃
  obtain ⟨_, about, h₅, -, rfl⟩ := seq_eq_ok h₄
  obtain ⟨schema, -, rfl⟩ := map_eq_ok h₅
  have all := Scene.ensures_honest.list.optional (List.forall_mem_nil _) shows
  intro a mem
  rw [preorderAll_actions, List.mem_flatMap] at mem
  obtain ⟨t, placed, inside⟩ := mem
  obtain ⟨s, hs, ht⟩ := List.mem_flatMap.1 placed
  exact all s hs t ht a inside

/-! ### Sections of a report -/

theorem map_placedTriggers : (c.placedTriggers.map fun (_, _, t) => t) = c.triggers := by
  rw [placedTriggers, triggers, List.map_flatMap]
  refine congrArg (List.flatMap · _) (funext fun s => ?_)
  rw [List.map_map]
  exact List.zipIdx_map_fst 0 s.triggers

theorem flatMap_placedTriggers {β : Type} (f : Trigger → List β) :
    (c.placedTriggers.flatMap fun (_, _, t) => f t) = c.triggers.flatMap f := by
  rw [← map_placedTriggers, List.flatMap_map]

theorem tags_eq : c.tags = (Action.preorderAll c.actions).map (·.tag) := by
  rw [tags, flatMap_placedTriggers c fun t => (Action.preorderAll t.actions).map (·.tag),
    preorderAll_actions,
    List.map_flatMap]

theorem paths_mutations :
    c.mutations.map (·.path) = (Action.preorderAll c.actions).filterMap (·.writtenPath?) := by
  rw [preorderAll_actions, List.filterMap_flatMap, mutations, List.map_flatMap,
    ← flatMap_placedTriggers c fun t => (Action.preorderAll t.actions).filterMap (·.writtenPath?)]
  refine congrArg (List.flatMap · _) (funext fun (s, i, t) => ?_)
  rw [List.map_filterMap]
  refine congrArg (List.filterMap · _) (funext fun a => ?_)
  rw [Option.map_map]
  exact Option.map_id'

theorem length_visited (limit : Int) (unique : c.sceneIds.Nodup) :
    ((SceneGraph.ofCourse c).explore c.start limit).visited.length =
      (c.sceneIds.filter (((SceneGraph.ofCourse c).explore c.start limit).visited.contains
        ·)).length := by
  obtain ⟨rest, led⟩ := SceneGraph.explore_led (SceneGraph.ofCourse c) c.start limit
  refine List.Perm.length_eq
    ((List.perm_ext_iff_of_nodup led.visitedOnce (unique.filter _)).2 fun id => ?_)
  rw [List.mem_filter, List.contains_iff_mem, ← c.mem_declaredIds_ofCourse id]
  exact ⟨fun visited => ⟨(led.visited id visited).declared, visited⟩, And.right⟩

/-- Each walk goes through declared scenes, and through none of them twice. -/
theorem length_scenes_le {limit : Int} {w : Walk} (h : w ∈ (c.dryRun limit).walks) :
    w.scenes.length ≤ c.sceneIds.dedup.length := by
  have walk : w ∈ (SceneGraph.ofCourse c).walks c.start := by
    rw [walks_dryRun] at h
    exact List.mem_of_mem_take h
  have once : w.scenes.Nodup := SceneGraph.nodup_scenes_of_mem_walksFrom walk List.nodup_nil
  refine (List.subperm_of_subset once fun id through => ?_).length_le
  rw [List.mem_dedup, ← c.mem_declaredIds_ofCourse id]
  exact (SceneGraph.reaches_iff_walk.2 ⟨w, walk, through⟩).declared

end Course

/-- The figure that a report shows for the total of the actions. -/
def DryRun.shownTotal? (r : DryRun) : Option Value :=
  do (← (← r.value.field? "coverage").field? "actions").field? "total"

/-- The figures of a dry run agree with each other and with the course. -/
structure DryRun.Agrees (c : Course) (r : DryRun) : Prop where
  scenes : r.coverage.reachedScenes + r.deadCode.unreachable.length = r.coverage.scenes
  allScenes : r.coverage.scenes = r.complexity.scenes
  nodes : r.coverage.referencedNodes + r.deadCode.unusedNodes.length = r.coverage.nodes
  allNodes : r.coverage.nodes = r.complexity.nodes
  /-- There is an entry for every trigger, scene by scene, with the tags of the actions in it. -/
  entries : r.triggers.map (fun e => (e.sceneId, e.event, e.tags)) =
      c.scenes.flatMap fun s => s.triggers.map fun t =>
    (s.id, t.on.event, firstMentions ((Action.preorderAll t.actions).map (·.tag)))
  triggers : r.triggers.length = r.coverage.triggers
  allTriggers : r.coverage.triggers = r.complexity.triggers
  counted : ∀ tag, tag ∈ r.coverage.tagCounts.map (·.1) ↔ ∃ e ∈ r.triggers, tag ∈ e.tags
  countedOnce : (r.coverage.tagCounts.map (·.1)).Nodup
  total : r.shownTotal? = some (.int ((r.coverage.tagCounts.map (·.2)).sum : Nat))
  nested : r.complexity.actions ≤ (r.coverage.tagCounts.map (·.2)).sum
  /-- The two totals differ only by what is inside composites. -/
  flat : (r.coverage.tagCounts.map (·.2)).sum = r.complexity.actions ↔
    ∀ a ∈ Action.preorderAll c.actions, a.isComposite = true → a.parts = []
  /-- In a document that was read, only the actions that write have their tags. -/
  mutations : (∃ v, Course.ofValue v = .ok c) → r.mutations.length =
    (r.coverage.tagCounts.lookup "setVar").getD 0 +
    (r.coverage.tagCounts.lookup "incVar").getD 0 + (r.coverage.tagCounts.lookup "addScore").getD 0
  longest : r.complexity.longest ≤ c.sceneIds.dedup.length

namespace Course

/-- The sections of a dry run agree, whatever its limit, if no two scenes have the same id. -/
theorem dryRun_agrees (c : Course) (limit : Int) (unique : c.sceneIds.Nodup) :
    (c.dryRun limit).Agrees c where
  scenes := by
    show List.length _ + (c.sceneIds.filter _).length = c.scenes.length
    rw [length_visited c limit unique, ← List.length_eq_length_filter_add, sceneIds,
      List.length_map]
  allScenes := rfl
  nodes := (List.length_eq_length_filter_add _).symm
  allNodes := by
    show c.declaredKeys.length = (c.scenes.flatMap (·.nodes)).length
    simp [declaredKeys, Scene.nodeIds, List.length_flatMap]
  entries := by
    show c.triggerSummaries.map _ = _
    rw [triggerSummaries, List.map_map, placedTriggers, List.map_flatMap]
    refine congrArg (List.flatMap · _) (funext fun s => ?_)
    rw [List.map_map, ← List.zipIdx_map_fst 0 s.triggers, List.map_map, List.zipIdx_map_fst]
    rfl
  triggers := by
    show c.triggerSummaries.length = (c.placedTriggers.map _).length
    rw [triggerSummaries, List.length_map, List.length_map]
  allTriggers := rfl
  counted tag := by
    show tag ∈ (tally c.tags).map (·.1) ↔ ∃ e ∈ c.triggerSummaries, tag ∈ e.tags
    rw [keys_tally, mem_firstMentions, tags, triggerSummaries, List.mem_flatMap]
    constructor
    · rintro ⟨p, placed, here⟩
      exact ⟨_, List.mem_map_of_mem placed, mem_firstMentions.2 here⟩
    · rintro ⟨e, mem, here⟩
      obtain ⟨p, placed, rfl⟩ := List.mem_map.1 mem
      exact ⟨p, placed, mem_firstMentions.1 here⟩
  countedOnce := by
    show ((tally c.tags).map (·.1)).Nodup
    rw [keys_tally]
    exact nodup_firstMentions _
  total := by
    show some (Value.int ((tally c.tags).foldl (fun n e => n + e.2) 0 : Nat)) = _
    rw [List.sum_eq_foldl, List.foldl_map]
    rfl
  nested := by
    show (List.flatMap _ _).length ≤ ((tally c.tags).map (·.2)).sum
    rw [map_placedTriggers, sum_tally, tags_eq, List.length_map]
    exact (Action.length_preorderAll c.actions).1
  flat := by
    show ((tally c.tags).map (·.2)).sum = (List.flatMap _ _).length ↔ _
    rw [map_placedTriggers, sum_tally, tags_eq, List.length_map]
    refine (Action.length_preorderAll c.actions).2.trans (forall₂_congr fun a _ => ?_)
    cases composite : a.isComposite with
    | true => simp
    | false => simp [Action.parts_of_not_isComposite composite]
  mutations := by
    rintro ⟨v, read⟩
    show c.mutations.length = ((tally c.tags).lookup _).getD 0 + ((tally c.tags).lookup _).getD 0 +
      ((tally c.tags).lookup _).getD 0
    rw [lookup_tally, lookup_tally, lookup_tally, tags_eq,
      ← Action.length_writes (honest_of_ofValue read),
      ← paths_mutations, List.length_map]
  longest := by
    refine foldl_max_le (Nat.zero_le _) fun n mem => ?_
    obtain ⟨w, found, rfl⟩ := List.mem_map.1 mem
    exact c.length_scenes_le found

theorem dryRun_agrees_twiceNamed :
    twiceNamedCourse.sceneIds.Nodup ∧ ofValue twiceNamed = .ok twiceNamedCourse ∧
      (twiceNamedCourse.dryRun 0).Agrees twiceNamedCourse ∧
      (twiceNamedCourse.dryRun 0).mutations.length = 1 := by
  have unique : twiceNamedCourse.sceneIds.Nodup := by decide
  have read : ofValue twiceNamed = .ok twiceNamedCourse :=
    toExcept_eq_ok.2 (parse_eq_ok.1 parse_twiceNamed)
  have agrees := dryRun_agrees twiceNamedCourse 0 unique
  exact ⟨unique, read, agrees, (agrees.mutations ⟨twiceNamed, read⟩).trans (by decide +kernel)⟩

end Course

end SceneCourse
