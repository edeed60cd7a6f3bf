import Mathlib.Data.List.Dedup
import SceneCourse.Proofs.Navigation

/-! What a dry run reports about reachability. `Reaches` is the plain notion, without a stack and
without walks: the start if it is declared, and every declared scene that an arrow from a reached
scene leads to. An exploration meets only what is reached, or the ends of arrows from there, at
every turn and whatever the limit; that it meets all of it, unless it is cut short, was said of its
charts. Proved: the scenes that a dry run calls unreachable, the count of those that it has reached
and the targets that it does not know are exactly those that the plain notion gives, each of them
once. -/

namespace SceneCourse

namespace SceneGraph

variable {g : SceneGraph} {start s t : String}

/-! ### Reached scenes -/

/-- A walk through declared scenes leads from the start to a scene. -/
inductive Reaches (g : SceneGraph) (start : String) : String → Prop where
  | start (declared : start ∈ g.declaredIds) : Reaches g start start
  | arrow {s t : String} (reached : Reaches g start s) (leads : t ∈ g.successors s)
    (declared : t ∈ g.declaredIds) :
    Reaches g start t

theorem Reaches.declared (h : g.Reaches start s) : s ∈ g.declaredIds := by
  cases h with
  | start declared => exact declared
  | arrow _ _ declared => exact declared

/-- The start, or the end of an arrow from a reached scene: where a walk can look for a scene. -/
def LooksAt (g : SceneGraph) (start t : String) : Prop :=
  t = start ∨ ∃ s, g.Reaches start s ∧ t ∈ g.successors s

theorem reaches_iff : g.Reaches start t ↔ g.LooksAt start t ∧ t ∈ g.declaredIds := by
  constructor
  · intro h
    refine ⟨?_, h.declared⟩
    cases h with
    | start _ => exact Or.inl rfl
    | arrow reached leads _ => exact Or.inr ⟨_, reached, leads⟩
  · rintro ⟨rfl | ⟨s, reached, leads⟩, declared⟩
    · exact .start declared
    · exact .arrow reached leads declared

end SceneGraph

/-! ### Only what is reached -/

namespace Exploration

open SceneGraph

variable {g : SceneGraph} {start : String} {limit : Int}

/-- An exploration has visited reached scenes, each once, and it has missed, each once, and still
waits for, only what a walk looks at. -/
structure Led (g : SceneGraph) (start : String) (stack : List Pending)
    (x : Exploration) : Prop where
  visited : ∀ s ∈ x.visited, g.Reaches start s
  unknown : ∀ s ∈ x.unknown, g.LooksAt start s
  waiting : ∀ p ∈ stack, g.LooksAt start p.scene
  visitedOnce : x.visited.Nodup
  unknownOnce : x.unknown.Nodup

theorem nodup_visited_meet {x : Exploration} (s : String) (once : x.visited.Nodup) :
    (meet g x s).visited.Nodup := by
  unfold meet
  split
  · exact nodup_mention s once
  · exact once

theorem nodup_unknown_meet {x : Exploration} (s : String) (once : x.unknown.Nodup) :
    (meet g x s).unknown.Nodup := by
  unfold meet
  split
  · exact once
  · exact nodup_mention s once

/-- The scene on top of the stack is met; what waits in its place is looked at from there. -/
theorem Led.turn {p : Pending} {stack above : List Pending} {x : Exploration}
    (h : Led g start (p :: stack) x) (ahead : ∀ q ∈ above, g.LooksAt start q.scene) :
    Led g start (above ++ stack) (meet g x p.scene) := by
  have here : g.LooksAt start p.scene := h.waiting p List.mem_cons_self
  refine ⟨?_, ?_, ?_, nodup_visited_meet _ h.visitedOnce, nodup_unknown_meet _ h.unknownOnce⟩
  · intro s hs
    rcases mem_visited_meet.1 hs with old | ⟨rfl, declared⟩
    · exact h.visited s old
    · exact reaches_iff.2 ⟨here, declared⟩
  · intro s hs
    rcases mem_unknown_meet.1 hs with old | ⟨rfl, -⟩
    · exact h.unknown s old
    · exact here
  · intro q hq
    rcases List.mem_append.1 hq with new | old
    · exact ahead q new
    · exact h.waiting q (List.mem_cons_of_mem p old)

theorem Explores.led {stack : List Pending} {x y : Exploration} (h : Explores g limit stack x y)
    (begun : Led g start stack x) : ∃ rest, Led g start rest y := by
  induction h with
  | finished x => exact ⟨[], begun⟩
  | @stopped p stack x full =>
    exact ⟨p :: stack, begun.visited, begun.unknown, begun.waiting, begun.visitedOnce,
      begun.unknownOnce⟩
  | @leaf p stack x y w room only ends rest ih =>
    have turned : Led g start ([] ++ stack) (meet g x p.scene) := begun.turn (by simp)
    exact ih ⟨turned.visited, turned.unknown, turned.waiting, turned.visitedOnce,
      turned.unknownOnce⟩
  | @branch p stack x y room declared new more rest ih =>
    have reached : g.Reaches start p.scene :=
      reaches_iff.2 ⟨begun.waiting p List.mem_cons_self, declared⟩
    have turned : Led g start (children g p ++ stack) (meet g x p.scene) := by
      refine begun.turn fun q hq => ?_
      obtain ⟨t, leads, rfl⟩ := List.mem_map.1 hq
      exact Or.inr ⟨p.scene, reached, leads⟩
    rw [meet, if_pos declared] at turned
    exact ih turned

end Exploration

namespace SceneGraph

open Exploration

variable {g : SceneGraph} {start s : String} {limit : Int}

/-- Whatever its limit, an exploration sees only what a walk looks at, and notes nothing twice. -/
theorem explore_led (g : SceneGraph) (start : String) (limit : Int) :
    ∃ rest, Led g start rest (g.explore start limit) := by
  have begun : Led g start [⟨start, []⟩] {} := by
    refine ⟨by simp, by simp, ?_, List.nodup_nil, List.nodup_nil⟩
    rintro p hp
    rw [List.mem_singleton.1 hp]
    exact Or.inl rfl
  exact (explores_run g limit [⟨start, []⟩] {}).led begun

/-- An exploration that is not cut short visits what is reached: the start is seen, and what is
declared and seen is visited. -/
theorem mem_visited_explore_iff (whole : (g.explore start limit).truncated = false) :
    s ∈ (g.explore start limit).visited ↔ g.Reaches start s := by
  obtain ⟨charted, begins⟩ := explore_closed whole
  obtain ⟨rest, led⟩ := explore_led g start limit
  have visited {t : String} (seen : Seen (g.explore start limit) t) (declared : t ∈ g.declaredIds) :
      t ∈ (g.explore start limit).visited := seen.resolve_right fun missed =>
        charted.undeclared t missed declared
  refine ⟨led.visited s, fun reached => ?_⟩
  induction reached with
  | start declared => exact visited begins declared
  | @arrow s t _ leads declared ih =>
    exact visited ((charted.ahead s ih t leads).resolve_right (by simp)) declared

/-- It misses what a walk looks at without finding it. -/
theorem mem_unknown_explore_iff (whole : (g.explore start limit).truncated = false) :
    s ∈ (g.explore start limit).unknown ↔ s ∉ g.declaredIds ∧ g.LooksAt start s := by
  obtain ⟨charted, begins⟩ := explore_closed whole
  obtain ⟨rest, led⟩ := explore_led g start limit
  have missed {t : String} (seen : Seen (g.explore start limit) t)
      (undeclared : t ∉ g.declaredIds) :
      t ∈ (g.explore start limit).unknown := seen.resolve_left fun visited =>
        undeclared (charted.declared t visited)
  constructor
  · exact fun h => ⟨charted.undeclared s h, led.unknown s h⟩
  · rintro ⟨undeclared, rfl | ⟨t, reached, leads⟩⟩
    · exact missed begins undeclared
    · have visited := (mem_visited_explore_iff whole).2 reached
      exact missed ((charted.ahead t visited s leads).resolve_right (by simp)) undeclared

/-- With room for all walks an exploration is not cut short, so it decides what is reached. -/
instance (g : SceneGraph) (start : String) : DecidablePred (g.Reaches start) := fun s =>
  have whole : (g.explore start (g.walks start).length).truncated = false := by
    rw [← Bool.not_eq_true, truncated_explore_iff]
    exact Int.lt_irrefl _
  decidable_of_iff (s ∈ (g.explore start (g.walks start).length).visited)
    (mem_visited_explore_iff whole)

end SceneGraph

/-! ### The report -/

namespace Course

open SceneGraph

/-- Unless it was cut short, a dry run calls exactly those scenes of the document unreachable, in
its order, that no walk through declared scenes reaches, it counts the declared ids that one
reaches, and its unknown targets are, each once, the undeclared ids among the start and the ends of
arrows from reached scenes. -/
theorem dryRun_reaches (c : Course) (limit : Int) (whole : (c.dryRun limit).truncated = false) :
    (c.dryRun limit).deadCode.unreachable = c.sceneIds.filter
      (fun id => ¬(ofCourse c).Reaches c.start id) ∧
      (c.dryRun limit).coverage.reachedScenes =
        (c.sceneIds.dedup.filter ((ofCourse c).Reaches c.start ·)).length ∧
      (c.dryRun limit).unknownTargets.Nodup ∧
      ∀ id, id ∈ (c.dryRun limit).unknownTargets ↔
        id ∉ c.sceneIds ∧ (id = c.start ∨ ∃ s, (ofCourse c).Reaches c.start s ∧
          id ∈ (ofCourse c).successors s) := by
  have visited (id : String) :
      id ∈ ((ofCourse c).explore c.start limit).visited ↔ (ofCourse c).Reaches c.start id :=
    mem_visited_explore_iff whole
  obtain ⟨rest, led⟩ := explore_led (ofCourse c) c.start limit
  refine ⟨?_, ?_, led.unknownOnce, fun id => ?_⟩
  · refine List.filter_congr fun id _ => ?_
    simp [visited]
  · refine List.Perm.length_eq ((List.perm_ext_iff_of_nodup led.visitedOnce ?_).2 fun id => ?_)
    · exact (List.nodup_dedup _).filter _
    · rw [visited, List.mem_filter, List.mem_dedup, decide_eq_true_iff,
        ← c.mem_declaredIds_ofCourse id]
      exact ⟨fun reached => ⟨reached.declared, reached⟩, And.right⟩
  · rw [← c.mem_declaredIds_ofCourse id]
    exact mem_unknown_explore_iff whole

theorem dryRun_reaches_house :
    (house.dryRun 10).truncated = false ∧ (house.dryRun 10).deadCode.unreachable = ["attic"] ∧
      house.sceneIds.filter (fun id => ¬(ofCourse house).Reaches house.start id) = ["attic"] ∧
      (house.dryRun 10).coverage.reachedScenes = 2 ∧ (house.dryRun 10).unknownTargets = ["cellar"] ∧
      ∃ s, (ofCourse house).Reaches house.start s ∧ "cellar" ∈ (ofCourse house).successors s := by
  have whole : (house.dryRun 10).truncated = false := by decide +kernel
  obtain ⟨unreached, -, -, unknown⟩ := dryRun_reaches house 10 whole
  have attic : (house.dryRun 10).deadCode.unreachable = ["attic"] := by decide +kernel
  have cellar : (house.dryRun 10).unknownTargets = ["cellar"] := by decide +kernel
  refine ⟨whole, attic, unreached.symm.trans attic, by decide +kernel, cellar, ?_⟩
  obtain ⟨-, begins | found⟩ := (unknown "cellar").1 (by simp [cellar])
  · exact absurd begins (by decide +kernel)
  · exact found

end Course

end SceneCourse
