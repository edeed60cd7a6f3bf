import Mathlib.Data.List.Nodup
import SceneCourse.DryRun.Analysis
import SceneCourse.Proofs.SceneGraph

/-! Exploring a scene graph with a stack, and walking through it by recursion. What one turn of the
stack can do is said once, by the relation `Explores`: it stops at the limit, it finds the one walk
of a scene where nothing goes on, or it puts the successors of a scene in the scene's place.
Everything about an exploration is an induction on that relation. Proved: the walks that are found
are the first of those that recursion lists, as many as the limit allows; the exploration is cut
short exactly when there are more; no walk is found twice, and no walk goes through a scene
twice. -/

namespace SceneCourse

namespace SceneGraph

variable {g : SceneGraph} {been : List String} {s : String}

/-! ### Walks by recursion -/

theorem walksFrom_unknown (undeclared : s ∉ g.declaredIds) :
    g.walksFrom been s = [⟨been.reverse, s, .unknown⟩] := by
  rw [walksFrom, dif_neg undeclared]

theorem walksFrom_loop (declared : s ∈ g.declaredIds) (old : s ∈ been) :
    g.walksFrom been s = [⟨been.reverse, s, .loop⟩] := by
  rw [walksFrom, dif_pos declared, dif_pos old]

theorem walksFrom_complete (declared : s ∈ g.declaredIds) (new : s ∉ been)
    (last : g.successors s = []) : g.walksFrom been s = [⟨(s :: been).reverse, s, .complete⟩] := by
  rw [walksFrom, dif_pos declared, dif_neg new, last]

theorem walksFrom_branch (declared : s ∈ g.declaredIds) (new : s ∉ been)
    (more : g.successors s ≠ []) :
    g.walksFrom been s = (g.successors s).flatMap (g.walksFrom (s :: been)) := by
  rw [walksFrom, dif_pos declared, dif_neg new]
  split
  next last => exact absurd last more
  next => rfl

theorem walksFrom_ne_nil (g : SceneGraph) (been : List String) (s : String) :
    g.walksFrom been s ≠ [] := by
  induction been, s using walksFrom.induct g with
  | case1 been s declared old => simp [walksFrom_loop declared old]
  | case2 been s declared new last => simp [walksFrom_complete declared new last]
  | case3 been s declared new more ih =>
    rw [walksFrom_branch declared new more]
    obtain ⟨t, ts, h⟩ := List.exists_cons_of_ne_nil more
    rw [h, List.flatMap_cons]
    exact List.append_ne_nil_of_left_ne_nil (ih t) _
  | case4 been s undeclared => simp [walksFrom_unknown undeclared]

/-- No walk goes through a scene twice. -/
theorem nodup_scenes_of_mem_walksFrom {w : Walk} (h : w ∈ g.walksFrom been s) (once : been.Nodup) :
    w.scenes.Nodup := by
  induction been, s using walksFrom.induct g with
  | case1 been s declared old =>
    rw [walksFrom_loop declared old, List.mem_singleton] at h
    subst h
    exact List.nodup_reverse.2 once
  | case2 been s declared new last =>
    rw [walksFrom_complete declared new last, List.mem_singleton] at h
    subst h
    exact List.nodup_reverse.2 (List.nodup_cons.2 ⟨new, once⟩)
  | case3 been s declared new more ih =>
    rw [walksFrom_branch declared new more, List.mem_flatMap] at h
    obtain ⟨t, -, ht⟩ := h
    exact ih t ht (List.nodup_cons.2 ⟨new, once⟩)
  | case4 been s undeclared =>
    rw [walksFrom_unknown undeclared, List.mem_singleton] at h
    subst h
    exact List.nodup_reverse.2 once

/-! ### No walk twice -/

/-- Why a walk can only end in a scene in one way. -/
def endingAt (g : SceneGraph) (s : String) : WalkEnd :=
  if s ∈ g.declaredIds then if g.successors s = [] then .complete else .loop else .unknown

/-- A scene that a walk has been to has successors, so a walk that comes back to it did not end
there before. -/
theorem ending_of_mem_walksFrom {w : Walk} (h : w ∈ g.walksFrom been s)
    (went : ∀ b ∈ been, g.successors b ≠ []) : w.ending = g.endingAt w.finish := by
  induction been, s using walksFrom.induct g with
  | case1 been s declared old =>
    rw [walksFrom_loop declared old, List.mem_singleton] at h
    subst h
    simp [endingAt, declared, went s old]
  | case2 been s declared new last =>
    rw [walksFrom_complete declared new last, List.mem_singleton] at h
    subst h
    simp [endingAt, declared, last]
  | case3 been s declared new more ih =>
    rw [walksFrom_branch declared new more, List.mem_flatMap] at h
    obtain ⟨t, -, ht⟩ := h
    exact ih t ht (List.forall_mem_cons.2 ⟨more, went⟩)
  | case4 been s undeclared =>
    rw [walksFrom_unknown undeclared, List.mem_singleton] at h
    subst h
    simp [endingAt, undeclared]

end SceneGraph

/-- All scenes of a walk and the place where it ended. -/
def Walk.trail (w : Walk) : List String :=
  if w.ending = .complete then w.scenes else w.scenes ++ [w.finish]

namespace SceneGraph

variable {g : SceneGraph} {been : List String} {s : String}

theorem prefix_trail_of_mem_walksFrom {w : Walk} (h : w ∈ g.walksFrom been s) :
    (s :: been).reverse <+: w.trail := by
  induction been, s using walksFrom.induct g with
  | case1 been s declared old =>
    rw [walksFrom_loop declared old, List.mem_singleton] at h
    subst h
    simp [Walk.trail]
  | case2 been s declared new last =>
    rw [walksFrom_complete declared new last, List.mem_singleton] at h
    subst h
    simp [Walk.trail]
  | case3 been s declared new more ih =>
    rw [walksFrom_branch declared new more, List.mem_flatMap] at h
    obtain ⟨t, -, ht⟩ := h
    have longer := ih t ht
    rw [List.reverse_cons] at longer
    exact (List.prefix_append _ _).trans longer
  | case4 been s undeclared =>
    rw [walksFrom_unknown undeclared, List.mem_singleton] at h
    subst h
    simp [Walk.trail]

/-- Walks that leave a scene for different successors differ behind that scene. -/
theorem nodup_trails (once : ∀ s, (g.successors s).Nodup) (been : List String) (s : String) :
    ((g.walksFrom been s).map Walk.trail).Nodup := by
  induction been, s using walksFrom.induct g with
  | case1 been s declared old => simp [walksFrom_loop declared old]
  | case2 been s declared new last => simp [walksFrom_complete declared new last]
  | case3 been s declared new more ih =>
    rw [walksFrom_branch declared new more, List.map_flatMap, List.nodup_flatMap]
    refine ⟨fun t _ => ih t, (once s).imp ?_⟩
    intro t u different trail ht hu
    obtain ⟨w, hw, rfl⟩ := List.mem_map.1 ht
    obtain ⟨v, hv, same⟩ := List.mem_map.1 hu
    have left := prefix_trail_of_mem_walksFrom hw
    have right := prefix_trail_of_mem_walksFrom hv
    rw [same] at right
    have equal := (List.prefix_of_prefix_length_le left right (by simp)).eq_of_length (by simp)
    rw [List.reverse_inj] at equal
    exact different (List.cons.inj equal).1
  | case4 been s undeclared => simp [walksFrom_unknown undeclared]

/-- No two walks from a scene have the same scenes and the same end. -/
theorem nodup_walks (once : ∀ s, (g.successors s).Nodup) (start : String) :
    ((g.walks start).map fun w => (w.scenes, w.finish)).Nodup := by
  have trails : ((g.walks start).map Walk.trail).Nodup := nodup_trails once [] start
  rw [List.nodup_map_iff_inj_on (List.Nodup.of_map _ trails)]
  intro w hw v hv same
  obtain ⟨scenes, finish⟩ := Prod.mk.inj same
  have ending : w.ending = v.ending := by
    rw [ending_of_mem_walksFrom hw (by simp), ending_of_mem_walksFrom hv (by simp), finish]
  have trail : w.trail = v.trail := by rw [Walk.trail, Walk.trail, scenes, finish, ending]
  exact List.inj_on_of_nodup_map trails hw hv trail

end SceneGraph

/-! ### Turns of the stack -/

namespace Exploration

variable {g : SceneGraph} {limit : Int}

def pendingWalks (g : SceneGraph) (stack : List Pending) : List Walk :=
  stack.flatMap fun p => g.walksFrom p.been p.scene

def children (g : SceneGraph) (p : Pending) : List Pending :=
  (g.successors p.scene).map fun t => ⟨t, p.scene :: p.been⟩

def meet (g : SceneGraph) (x : Exploration) (s : String) : Exploration :=
  if s ∈ g.declaredIds then x.visit s else x.miss s

/-- An exploration of a stack from one state to another, turn by turn. -/
inductive Explores (g : SceneGraph) (limit : Int) :
    List Pending → Exploration → Exploration → Prop where
  | finished (x : Exploration) : Explores g limit [] x x
  | stopped {p : Pending} {stack : List Pending} {x : Exploration} (full : limit ≤ x.found.size) :
    Explores g limit (p :: stack) x { x with truncated := true }
  | leaf {p : Pending} {stack : List Pending} {x y : Exploration} {w : Walk}
    (room : ¬limit ≤ x.found.size) (only : g.walksFrom p.been p.scene = [w])
    (ends : p.scene ∈ g.declaredIds → p.scene ∈ p.been ∨ g.successors p.scene = [])
    (rest : Explores g limit stack ((meet g x p.scene).record w) y) :
    Explores g limit (p :: stack) x y
  | branch {p : Pending} {stack : List Pending} {x y : Exploration} (room : ¬limit ≤ x.found.size)
    (declared : p.scene ∈ g.declaredIds) (new : p.scene ∉ p.been) (more : g.successors p.scene ≠ [])
    (rest : Explores g limit (children g p ++ stack) (x.visit p.scene) y) :
      Explores g limit (p :: stack) x y

theorem explores_run (g : SceneGraph) (limit : Int) (stack : List Pending) (x : Exploration) :
    Explores g limit stack x (run g limit stack x) := by
  induction stack, x using run.induct g limit with
  | case1 x =>
    rw [run]
    exact .finished x
  | case2 x p stack full =>
    rw [run, if_pos full]
    exact .stopped full
  | case3 x p stack room declared old ih =>
    rw [run, if_neg room, dif_pos declared, dif_pos old]
    rw [List.unattach_reverse, List.unattach_attach] at ih
    refine .leaf room (SceneGraph.walksFrom_loop declared old) (fun _ => .inl old) ?_
    rwa [meet, if_pos declared]
  | case4 x p stack room declared new _ last ih =>
    rw [run, if_neg room, dif_pos declared, dif_neg new]
    refine .leaf room (SceneGraph.walksFrom_complete declared new last) (fun _ => .inr last) ?_
    rw [meet, if_pos declared]
    split
    next => exact ih
    next more => exact absurd last more
  | case5 x p stack room declared new _ more ih =>
    rw [run, if_neg room, dif_pos declared, dif_neg new]
    refine .branch room declared new more ?_
    split
    next last => exact absurd last more
    next => exact ih
  | case6 x p stack room undeclared ih =>
    rw [run, if_neg room, dif_neg undeclared]
    rw [List.unattach_reverse, List.unattach_attach] at ih
    refine .leaf room (SceneGraph.walksFrom_unknown undeclared) (fun h => absurd h undeclared) ?_
    rwa [meet, if_neg undeclared]

/-! ### What is found -/

@[simp] theorem found_meet (g : SceneGraph) (x : Exploration) (s : String) :
    (meet g x s).found = x.found := by
  unfold meet
  split <;> rfl

@[simp] theorem truncated_meet (g : SceneGraph) (x : Exploration) (s : String) :
    (meet g x s).truncated = x.truncated := by
  unfold meet
  split <;> rfl

theorem pendingWalks_cons (g : SceneGraph) (p : Pending) (stack : List Pending) :
    pendingWalks g (p :: stack) = g.walksFrom p.been p.scene ++ pendingWalks g stack :=
  List.flatMap_cons

/-- Putting a scene's successors in its place changes nothing about the walks that go on. -/
theorem pendingWalks_branch {p : Pending} (stack : List Pending)
    (declared : p.scene ∈ g.declaredIds) (new : p.scene ∉ p.been)
    (more : g.successors p.scene ≠ []) :
    pendingWalks g (children g p ++ stack) = pendingWalks g (p :: stack) := by
  rw [pendingWalks_cons, SceneGraph.walksFrom_branch declared new more, pendingWalks,
    List.flatMap_append, children,
    List.flatMap_map]
  rfl

theorem pendingWalks_ne_nil (g : SceneGraph) (p : Pending) (stack : List Pending) :
    pendingWalks g (p :: stack) ≠ [] := by
  rw [pendingWalks_cons]
  exact List.append_ne_nil_of_left_ne_nil (g.walksFrom_ne_nil _ _) _

theorem Explores.found {stack : List Pending} {x y : Exploration} (h : Explores g limit stack x y) :
    y.found.toList = x.found.toList ++ (pendingWalks g stack).take
      (limit - x.found.size).toNat := by
  induction h with
  | finished x => simp [pendingWalks]
  | @stopped p stack x full =>
    have none : (limit - x.found.size).toNat = 0 := by omega
    simp [none]
  | @leaf p stack x y w room only ends rest ih =>
    have size : (limit - x.found.size).toNat =
        (limit - ((meet g x p.scene).record w).found.size).toNat + 1 := by
      simp only [record, found_meet, Array.size_push]
      omega
    rw [ih, pendingWalks_cons, only, size]
    simp [record]
  | branch room declared new more rest ih => rw [ih, pendingWalks_branch _ declared new more]; rfl

/-- Every waiting scene stands for a walk, so what waits at the limit would have been more. -/
theorem Explores.truncated_iff {stack : List Pending} {x y : Exploration}
    (h : Explores g limit stack x y) :
    y.truncated = true ↔
      x.truncated = true ∨ stack ≠ [] ∧ limit < x.found.size +
        ((pendingWalks g stack).length : Int) := by
  induction h with
  | finished x => simp
  | @stopped p stack x full =>
    have some := List.length_pos_of_ne_nil (pendingWalks_ne_nil g p stack)
    have more : limit < x.found.size + ((pendingWalks g (p :: stack)).length : Int) := by omega
    simp [more]
  | @leaf p stack x y w room only ends rest ih =>
    have count : (pendingWalks g (p :: stack)).length = (pendingWalks g stack).length + 1 := by
      rw [pendingWalks_cons, only, List.length_append, List.length_singleton, Nat.add_comm]
    rw [ih, count]
    simp only [record, found_meet, truncated_meet, Array.size_push]
    cases stack with
    | nil =>
      simp only [pendingWalks, List.flatMap_nil, List.length_nil]
      constructor
      · rintro (h | ⟨h, -⟩)
        · exact Or.inl h
        · exact absurd rfl h
      · rintro (h | ⟨-, h⟩)
        · exact Or.inl h
        · omega
    | cons q stack =>
      refine or_congr_right (and_congr (by simp) ?_)
      push_cast
      omega
  | @branch p stack x y room declared new more rest ih =>
    have waiting : children g p ++ stack ≠ [] := by simp [children, more]
    rw [ih, pendingWalks_branch _ declared new more]
    simp [waiting, visit]

/-! ### What is seen -/

def Seen (x : Exploration) (s : String) : Prop := s ∈ x.visited ∨ s ∈ x.unknown

theorem mem_visited_visit {x : Exploration} {s t : String} :
    t ∈ (x.visit s).visited ↔ t ∈ x.visited ∨ t = s :=
  mem_mention

theorem mem_unknown_miss {x : Exploration} {s t : String} :
    t ∈ (x.miss s).unknown ↔ t ∈ x.unknown ∨ t = s :=
  mem_mention

theorem mem_visited_meet {x : Exploration} {s t : String} :
    t ∈ (meet g x s).visited ↔ t ∈ x.visited ∨ t = s ∧ s ∈ g.declaredIds := by
  unfold meet
  split
  next declared => rw [mem_visited_visit, and_iff_left declared]
  next undeclared => simp [miss, undeclared]

theorem mem_unknown_meet {x : Exploration} {s t : String} :
    t ∈ (meet g x s).unknown ↔ t ∈ x.unknown ∨ t = s ∧ s ∉ g.declaredIds := by
  unfold meet
  split
  next declared => simp [visit, declared]
  next undeclared => rw [mem_unknown_miss, and_iff_left undeclared]

theorem seen_meet {x : Exploration} {s t : String} : Seen (meet g x s) t ↔ Seen x t ∨ t = s := by
  rw [Seen, mem_visited_meet, mem_unknown_meet, Seen]
  by_cases declared : s ∈ g.declaredIds
  · simp [declared, or_right_comm]
  · simp [declared, or_assoc]

/-- Nothing is forgotten: what goes on from a visited scene has been seen or waits on the stack, and
a waiting scene has only visited scenes behind it. -/
structure Charted (g : SceneGraph) (stack : List Pending) (x : Exploration) : Prop where
  declared : ∀ s ∈ x.visited, s ∈ g.declaredIds
  undeclared : ∀ s ∈ x.unknown, s ∉ g.declaredIds
  behind : ∀ p ∈ stack, ∀ s ∈ p.been, s ∈ x.visited
  ahead : ∀ s ∈ x.visited, ∀ t ∈ g.successors s, Seen x t ∨ ∃ p ∈ stack, p.scene = t

/-- The scene on top of the stack is met, and what goes on from it waits in its place unless that is
seen already. -/
theorem Charted.turn {p : Pending} {stack above : List Pending} {x : Exploration}
    (h : Charted g (p :: stack) x)
    (behind : ∀ q ∈ above, ∀ s ∈ q.been, s ∈ x.visited ∨ s = p.scene ∧ p.scene ∈ g.declaredIds)
    (ahead : p.scene ∈ g.declaredIds → p.scene ∈ x.visited ∨
      ∀ t ∈ g.successors p.scene, ∃ q ∈ above, q.scene = t) :
    Charted g (above ++ stack) (meet g x p.scene) := by
  constructor
  · intro s hs
    rcases mem_visited_meet.1 hs with old | ⟨rfl, declared⟩
    · exact h.declared s old
    · exact declared
  · intro s hs
    rcases mem_unknown_meet.1 hs with old | ⟨rfl, undeclared⟩
    · exact h.undeclared s old
    · exact undeclared
  · intro q hq s hs
    rw [mem_visited_meet]
    rcases List.mem_append.1 hq with new | old
    · exact behind q new s hs
    · exact Or.inl (h.behind q (List.mem_cons_of_mem p old) s hs)
  · intro s hs t ht
    have known (visited : s ∈ x.visited) : Seen (meet g x p.scene) t ∨
        ∃ q ∈ above ++ stack, q.scene = t := by
      rcases h.ahead s visited t ht with seen | ⟨q, hq, rfl⟩
      · exact Or.inl (seen_meet.2 (Or.inl seen))
      · rcases List.mem_cons.1 hq with rfl | waiting
        · exact Or.inl (seen_meet.2 (Or.inr rfl))
        · exact Or.inr ⟨q, List.mem_append_right _ waiting, rfl⟩
    rcases mem_visited_meet.1 hs with old | ⟨rfl, declared⟩
    · exact known old
    · rcases ahead declared with old | all
      · exact known old
      · obtain ⟨q, hq, rfl⟩ := all t ht
        exact Or.inr ⟨q, List.mem_append_left _ hq, rfl⟩

/-- Behind a turn, everything that was seen or waiting is seen or waiting. -/
theorem seen_or_waiting {p : Pending} {stack : List Pending} {x : Exploration} {s : String}
    (above : List Pending) (h : Seen x s ∨ ∃ q ∈ p :: stack, q.scene = s) :
    Seen (meet g x p.scene) s ∨ ∃ q ∈ above ++ stack, q.scene = s := by
  rw [seen_meet]
  rcases h with seen | ⟨q, hq, rfl⟩
  · exact Or.inl (Or.inl seen)
  · rcases List.mem_cons.1 hq with rfl | waiting
    · exact Or.inl (Or.inr rfl)
    · exact Or.inr ⟨q, List.mem_append_right _ waiting, rfl⟩

/-- An exploration that is not cut short leaves nothing waiting, and sees what waited. -/
theorem Explores.charted {stack : List Pending} {x y : Exploration} (h : Explores g limit stack x y)
    (whole : y.truncated = false) (charted : Charted g stack x) :
    Charted g [] y ∧ ∀ s, (Seen x s ∨ ∃ p ∈ stack, p.scene = s) → Seen y s := by
  induction h with
  | finished x =>
    refine ⟨charted, ?_⟩
    rintro s (seen | ⟨p, hp, -⟩)
    · exact seen
    · exact absurd hp List.not_mem_nil
  | stopped full => exact absurd whole (by simp)
  | @leaf p stack x y w room only ends rest ih =>
    have turned : Charted g ([] ++ stack) (meet g x p.scene) := by
      refine charted.turn (by simp) fun declared => ?_
      rcases ends declared with old | last
      · exact Or.inl (charted.behind p (by simp) p.scene old)
      · exact Or.inr (by simp [last])
    obtain ⟨closed, seen⟩ := ih whole ⟨turned.declared, turned.undeclared,
      turned.behind, turned.ahead⟩
    exact ⟨closed, fun s hs => seen s (seen_or_waiting [] hs)⟩
  | @branch p stack x y room declared new more rest ih =>
    have met : meet g x p.scene = x.visit p.scene := if_pos declared
    have turned : Charted g (children g p ++ stack) (meet g x p.scene) := by
      refine charted.turn ?_ fun _ => Or.inr ?_
      · intro q hq s hs
        obtain ⟨t, ht, rfl⟩ := List.mem_map.1 hq
        rcases List.mem_cons.1 hs with rfl | old
        · exact Or.inr ⟨rfl, declared⟩
        · exact Or.inl (charted.behind p (by simp) s old)
      · intro t ht
        exact ⟨⟨t, p.scene :: p.been⟩, List.mem_map.2 ⟨t, ht, rfl⟩, rfl⟩
    rw [met] at turned
    obtain ⟨closed, seen⟩ := ih whole turned
    refine ⟨closed, fun s hs => seen s ?_⟩
    rw [← met]
    exact seen_or_waiting (children g p) hs

end Exploration

namespace SceneGraph

open Exploration

/-- An exploration that is not cut short sees the start, and whatever goes on from a visited
scene. -/
theorem explore_closed {g : SceneGraph} {start : String} {limit : Int}
    (whole : (g.explore start limit).truncated = false) :
    Charted g [] (g.explore start limit) ∧ Seen (g.explore start limit) start := by
  have begun : Charted g [⟨start, []⟩] {} := by
    constructor <;> simp
  obtain ⟨closed, seen⟩ := (explores_run g limit [⟨start, []⟩] {}).charted whole begun
  exact ⟨closed, seen start (Or.inr ⟨⟨start, []⟩, by simp, rfl⟩)⟩

theorem found_explore (g : SceneGraph) (start : String) (limit : Int) :
    (g.explore start limit).found.toList = (g.walks start).take limit.toNat := by
  have h := (Exploration.explores_run g limit [⟨start, []⟩] {}).found
  simpa [Exploration.pendingWalks, explore, walks] using h

theorem truncated_explore_iff (g : SceneGraph) (start : String) (limit : Int) :
    (g.explore start limit).truncated = true ↔ limit < ((g.walks start).length : Int) := by
  have h := (Exploration.explores_run g limit [⟨start, []⟩] {}).truncated_iff
  simpa [Exploration.pendingWalks, explore, walks] using h

end SceneGraph

/-! ### Walks of a document -/

namespace Course

open SceneGraph

theorem unvisited_append_lt (c : Course) {s : String} {path : List String}
    (declared : ¬c.scene? s = none) (new : s ∉ path) :
    (ofCourse c).unvisited (path ++ [s]) < (ofCourse c).unvisited path := by
  have same : (ofCourse c).unvisited (path ++ [s]) = (ofCourse c).unvisited (s :: path) := by
    simp [unvisited, Bool.and_comm]
  rw [same]
  exact unvisited_cons_lt _ ((c.mem_declaredIds_iff_scene? s).2 declared) new

/-- All walks through a course that go on in a scene after the scenes of a path. -/
def walksAfter (c : Course) (path : List String) (s : String) : List Walk :=
  if _undeclared : c.scene? s = none then [⟨path, s, .unknown⟩]
  else if _old : s ∈ path then [⟨path, s, .loop⟩]
  else match c.targets s with
    | [] => [⟨path ++ [s], s, .complete⟩]
    | ts => ts.flatMap (c.walksAfter (path ++ [s]))
termination_by (ofCourse c).unvisited path
decreasing_by exact c.unvisited_append_lt _undeclared _old

theorem walksAfter_eq (c : Course) (path : List String) (s : String) :
    c.walksAfter path s = (ofCourse c).walksFrom path.reverse s := by
  induction path, s using walksAfter.induct c with
  | case1 path s undeclared =>
    have outside : s ∉ (ofCourse c).declaredIds :=
      fun h => (c.mem_declaredIds_iff_scene? s).1 h undeclared
    rw [walksAfter, dif_pos undeclared, walksFrom_unknown outside, List.reverse_reverse]
  | case2 path s declared old =>
    have inside := (c.mem_declaredIds_iff_scene? s).2 declared
    rw [walksAfter, dif_neg declared, dif_pos old, walksFrom_loop inside (List.mem_reverse.2 old),
      List.reverse_reverse]
  | case3 path s declared new last =>
    have inside := (c.mem_declaredIds_iff_scene? s).2 declared
    have fresh : s ∉ path.reverse := mt List.mem_reverse.1 new
    rw [walksAfter, dif_neg declared, dif_neg new, last,
      walksFrom_complete inside fresh (by rw [successors_ofCourse, last]), List.reverse_cons,
        List.reverse_reverse]
  | case4 path s declared new more ih =>
    have inside := (c.mem_declaredIds_iff_scene? s).2 declared
    have fresh : s ∉ path.reverse := mt List.mem_reverse.1 new
    have on : (ofCourse c).successors s ≠ [] := by
      rw [successors_ofCourse]
      exact more
    rw [walksAfter, dif_neg declared, dif_neg new, walksFrom_branch inside fresh on,
      successors_ofCourse]
    split
    next last => exact absurd last more
    next =>
      congr 1
      funext t
      rw [ih t, List.reverse_append]
      rfl

theorem namedWalks_eq_zip (r : DryRun) {n : Nat} (h : r.walks.length ≤ n) :
    r.namedWalks = ((List.range n).map fun i => s!"path-{i + 1}").zip r.walks := by
  apply List.ext_getElem
  · simp [DryRun.namedWalks, h]
  · intro i h₁ h₂
    simp [DryRun.namedWalks]

/-- The dry run of a course lists the walks of the document in order, as many as its limit allows,
with their numbers as names; it lists none twice and none that goes through a scene twice, and says
that it was cut short exactly when there are more. -/
theorem dryRun_walks (c : Course) (limit : Int) :
    (c.dryRun limit).namedWalks =
        ((List.range (c.walksAfter [] c.start).length).map fun i => s!"path-{i + 1}").zip
          ((c.walksAfter [] c.start).take limit.toNat) ∧
      ((c.dryRun limit).walks.map fun w => (w.scenes, w.finish)).Nodup ∧
      (∀ w ∈ (c.dryRun limit).walks, w.scenes.Nodup) ∧
      ((c.dryRun limit).truncated = true ↔ limit < ((c.walksAfter [] c.start).length : Int)) := by
  have all : c.walksAfter [] c.start = (ofCourse c).walks c.start := walksAfter_eq c [] c.start
  have found : (c.dryRun limit).walks = ((ofCourse c).walks c.start).take limit.toNat :=
    found_explore (ofCourse c) c.start limit
  have count : (c.dryRun limit).walks.length ≤ (c.walksAfter [] c.start).length := by
    rw [found, all]
    exact List.length_take_le' _ _
  refine ⟨?_, ?_, ?_, ?_⟩
  · rw [namedWalks_eq_zip _ count, found, all]
  · rw [found, List.map_take]
    exact (nodup_walks c.nodup_successors_ofCourse c.start).sublist (List.take_sublist _ _)
  · intro w hw
    rw [found] at hw
    exact nodup_scenes_of_mem_walksFrom (List.mem_of_mem_take hw) List.nodup_nil
  · rw [all]
    exact truncated_explore_iff (ofCourse c) c.start limit

end Course

end SceneCourse
