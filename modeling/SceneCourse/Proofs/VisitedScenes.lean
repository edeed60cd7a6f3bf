import SceneCourse.Proofs.ReachedScenes

/-! What an exploration has visited when it stops at its limit. A stack also remembers scenes that
wait in vain, so what is visited is not read off the stack; it is compared with the walks, which are
found in the order of the recursion. A scene is visited exactly if a walk that was found goes
through it, whatever the limit. What carries the induction is that the scenes behind everything that
waits are visited already, and that a scene is only taken from the stack while there is room for one
more walk, which then goes through it. Proved: a dry run calls the scenes unreachable that none of
its walks goes through; these are out of reach exactly if the walks beyond its limit go through no
other scenes than those within it. -/

namespace SceneCourse

namespace SceneGraph

variable {g : SceneGraph} {been : List String} {s t : String}

/-! ### The scenes of a walk -/

/-- A walk goes through the scenes behind it, and through the scene that it goes on from. -/
theorem mem_scenes_of_mem_walksFrom {w : Walk} (h : w ∈ g.walksFrom been s)
    (behind : t ∈ been ∨ t = s ∧ s ∈ g.declaredIds) : t ∈ w.scenes := by
  induction been, s using walksFrom.induct g with
  | case1 been s declared old =>
    rw [walksFrom_loop declared old, List.mem_singleton] at h
    subst h
    refine List.mem_reverse.2 ?_
    obtain h | ⟨rfl, -⟩ := behind
    · exact h
    · exact old
  | case2 been s declared new last =>
    rw [walksFrom_complete declared new last, List.mem_singleton] at h
    subst h
    refine List.mem_reverse.2 (List.mem_cons.2 ?_)
    obtain h | ⟨rfl, -⟩ := behind
    · exact Or.inr h
    · exact Or.inl rfl
  | case3 been s declared new more ih =>
    rw [walksFrom_branch declared new more, List.mem_flatMap] at h
    obtain ⟨u, -, hu⟩ := h
    refine ih u hu (Or.inl (List.mem_cons.2 ?_))
    obtain h | ⟨rfl, -⟩ := behind
    · exact Or.inr h
    · exact Or.inl rfl
  | case4 been s undeclared =>
    rw [walksFrom_unknown undeclared, List.mem_singleton] at h
    subst h
    refine List.mem_reverse.2 ?_
    obtain h | ⟨-, declared⟩ := behind
    · exact h
    · exact absurd declared undeclared

/-- Where nothing goes on, the one walk goes through no other scenes. -/
theorem mem_scenes_of_leaf {w : Walk} (only : g.walksFrom been s = [w])
    (ends : s ∈ g.declaredIds → s ∈ been ∨ g.successors s = []) :
    t ∈ w.scenes ↔ t ∈ been ∨ t = s ∧ s ∈ g.declaredIds := by
  have here : w ∈ g.walksFrom been s := by
    rw [only]
    exact List.mem_singleton_self w
  refine ⟨fun through => ?_, mem_scenes_of_mem_walksFrom here⟩
  by_cases declared : s ∈ g.declaredIds
  · by_cases old : s ∈ been
    · rw [walksFrom_loop declared old, List.mem_singleton] at here
      subst here
      exact Or.inl (List.mem_reverse.1 through)
    · rw [walksFrom_complete declared old ((ends declared).resolve_left old),
        List.mem_singleton] at here
      subst here
      rcases List.mem_cons.1 (List.mem_reverse.1 through) with rfl | behind
      · exact Or.inr ⟨rfl, declared⟩
      · exact Or.inl behind
  · rw [walksFrom_unknown declared, List.mem_singleton] at here
    subst here
    exact Or.inl (List.mem_reverse.1 through)

end SceneGraph

/-! ### The scenes of an exploration -/

namespace Exploration

open SceneGraph

variable {g : SceneGraph} {limit : Int} {s : String}

/-- Of the walks that go on from a stack, those for which an exploration has room. -/
def within (g : SceneGraph) (limit : Int) (stack : List Pending) (x : Exploration) : List Walk :=
  (pendingWalks g stack).take (limit - x.found.size).toNat

/-- While there is room, a walk goes through the scene on top of the stack. -/
theorem exists_within_of_top {p : Pending} (stack : List Pending) {x : Exploration}
    (room : ¬limit ≤ x.found.size) (declared : p.scene ∈ g.declaredIds) :
    ∃ w ∈ within g limit (p :: stack) x, p.scene ∈ w.scenes := by
  obtain ⟨w, ws, begins⟩ := List.exists_cons_of_ne_nil (g.walksFrom_ne_nil p.been p.scene)
  obtain ⟨n, left⟩ : ∃ n, (limit - x.found.size).toNat = n + 1 := Nat.exists_eq_add_one.2 (by omega)
  have first : w ∈ g.walksFrom p.been p.scene := by
    rw [begins]
    exact List.mem_cons_self
  refine ⟨w, ?_, mem_scenes_of_mem_walksFrom first (Or.inr ⟨rfl, declared⟩)⟩
  rw [within, pendingWalks_cons, begins, left]
  exact List.mem_cons_self

/-- An exploration of a stack adds the scenes of the walks that it finds to what is visited, and no
others. -/
theorem Explores.mem_visited_iff {stack : List Pending} {x y : Exploration}
    (h : Explores g limit stack x y) (behind : ∀ p ∈ stack, ∀ t ∈ p.been, t ∈ x.visited) :
    s ∈ y.visited ↔ s ∈ x.visited ∨ ∃ w ∈ within g limit stack x, s ∈ w.scenes := by
  induction h with
  | finished x => simp [within, pendingWalks]
  | @stopped p stack x full =>
    have none : (limit - x.found.size).toNat = 0 := by omega
    simp [within, none]
  | @leaf p stack x y w room only ends rest ih =>
    have first : within g limit (p :: stack) x =
        w :: within g limit stack ((meet g x p.scene).record w) := by
      have left : (limit - x.found.size).toNat =
          (limit - ((meet g x p.scene).record w).found.size).toNat + 1 := by
        simp only [record, found_meet, Array.size_push]
        omega
      rw [within, pendingWalks_cons, only, left]
      rfl
    have older {t : String} (visited : t ∈ x.visited) : t ∈ ((meet g x p.scene).record w).visited :=
      mem_visited_meet.2 (Or.inl visited)
    have met : s ∈ ((meet g x p.scene).record w).visited ↔
        s ∈ x.visited ∨ s = p.scene ∧ p.scene ∈ g.declaredIds :=
      mem_visited_meet
    have through : s ∈ w.scenes → s ∈ x.visited ∨ s = p.scene ∧ p.scene ∈ g.declaredIds := fun h =>
      ((mem_scenes_of_leaf only ends).1 h).imp_left (behind p List.mem_cons_self s)
    rw [ih fun q hq t ht => older (behind q (List.mem_cons_of_mem p hq) t ht), met, first,
      List.exists_mem_cons_iff]
    constructor
    · rintro ((visited | here) | later)
      · exact Or.inl visited
      · exact Or.inr (Or.inl ((mem_scenes_of_leaf only ends).2 (Or.inr here)))
      · exact Or.inr (Or.inr later)
    · rintro (visited | here | later)
      · exact Or.inl (Or.inl visited)
      · exact Or.inl (through here)
      · exact Or.inr later
  | @branch p stack x y room declared new more rest ih =>
    have same : within g limit (children g p ++ stack) (x.visit p.scene) =
        within g limit (p :: stack) x := by
      rw [within, pendingWalks_branch stack declared new more]
      rfl
    have ahead : ∀ q ∈ children g p ++ stack, ∀ t ∈ q.been, t ∈ (x.visit p.scene).visited := by
      intro q hq t ht
      refine mem_visited_visit.2 ?_
      rcases List.mem_append.1 hq with above | below
      · obtain ⟨u, -, rfl⟩ := List.mem_map.1 above
        rcases List.mem_cons.1 ht with rfl | old
        · exact Or.inr rfl
        · exact Or.inl (behind p List.mem_cons_self t old)
      · exact Or.inl (behind q (List.mem_cons_of_mem p below) t ht)
    rw [ih ahead, mem_visited_visit, same]
    constructor
    · rintro ((visited | rfl) | found)
      · exact Or.inl visited
      · exact Or.inr (exists_within_of_top stack room declared)
      · exact Or.inr found
    · exact Or.imp_left Or.inl

end Exploration

namespace SceneGraph

open Exploration

variable {g : SceneGraph} {start s : String}

/-- Whatever its limit, an exploration has visited the scenes of the walks that it found. -/
theorem mem_visited_explore (g : SceneGraph) (start : String) (limit : Int) :
    s ∈ (g.explore start limit).visited ↔ ∃ w ∈ (g.walks start).take limit.toNat, s ∈ w.scenes := by
  have h := (explores_run g limit [⟨start, []⟩] {}).mem_visited_iff (s := s) (by simp)
  simpa [within, pendingWalks, explore, walks] using h

/-- A scene is reached exactly if one of all walks goes through it. -/
theorem reaches_iff_walk : g.Reaches start s ↔ ∃ w ∈ g.walks start, s ∈ w.scenes := by
  have whole : (g.explore start (g.walks start).length).truncated = false := by
    rw [← Bool.not_eq_true, truncated_explore_iff]
    exact Int.lt_irrefl _
  rw [← mem_visited_explore_iff whole, mem_visited_explore, Int.toNat_natCast, List.take_length]

end SceneGraph

/-! ### Called unreachable -/

namespace Course

open SceneGraph

variable (c : Course) (limit : Int)

theorem walks_dryRun : (c.dryRun limit).walks = ((ofCourse c).walks c.start).take limit.toNat :=
  found_explore (ofCourse c) c.start limit

theorem mem_visited_iff_walks {id : String} :
    id ∈ ((ofCourse c).explore c.start limit).visited ↔
      ∃ w ∈ (c.dryRun limit).walks, id ∈ w.scenes := by
  rw [walks_dryRun]
  exact mem_visited_explore (ofCourse c) c.start limit

theorem mem_unreachable_iff {id : String} : id ∈ (c.dryRun limit).deadCode.unreachable ↔
    id ∈ c.sceneIds ∧ ¬∃ w ∈ (c.dryRun limit).walks, id ∈ w.scenes := by
  rw [← mem_visited_iff_walks]
  simp [dryRun, deadCode]

/-- A scene is reached by a walk within the limit or by one beyond it. -/
theorem reaches_iff_walks {id : String} : (ofCourse c).Reaches c.start id ↔
    (∃ w ∈ (c.dryRun limit).walks, id ∈ w.scenes) ∨
      ∃ w ∈ (c.walksAfter [] c.start).drop limit.toNat, id ∈ w.scenes := by
  have all : c.walksAfter [] c.start = (ofCourse c).walks c.start := walksAfter_eq c [] c.start
  have parts (w : Walk) : w ∈ (ofCourse c).walks c.start ↔
      w ∈ (c.dryRun limit).walks ∨ w ∈ ((ofCourse c).walks c.start).drop limit.toNat := by
    rw [walks_dryRun, ← List.mem_append, List.take_append_drop]
  simp only [reaches_iff_walk, all, parts, or_and_right, exists_or]

/-- A dry run calls the scenes unreachable that none of its walks goes through. Such a scene is
reached exactly if a walk beyond the limit goes through it, so all of them are out of reach if and
only if the walks beyond go through no scene that is new. -/
theorem unreachable_iff_beyond :
    (c.dryRun limit).deadCode.unreachable = c.sceneIds.filter
      (fun id => ∀ w ∈ (c.dryRun limit).walks, id ∉ w.scenes) ∧
      (∀ id ∈ (c.dryRun limit).deadCode.unreachable,
        (ofCourse c).Reaches c.start id ↔ ∃ w ∈ (c.walksAfter [] c.start).drop limit.toNat,
          id ∈ w.scenes) ∧
      ((∀ id ∈ (c.dryRun limit).deadCode.unreachable, ¬(ofCourse c).Reaches c.start id) ↔
        ∀ w ∈ (c.walksAfter [] c.start).drop limit.toNat, ∀ id ∈ w.scenes,
          ∃ v ∈ (c.dryRun limit).walks, id ∈ v.scenes) := by
  refine ⟨?_, ?_, ?_, ?_⟩
  · refine List.filter_congr fun id _ => ?_
    rw [Bool.eq_iff_iff]
    simp [mem_visited_iff_walks]
  · intro id member
    rw [c.reaches_iff_walks limit, or_iff_right ((c.mem_unreachable_iff limit).1 member).2]
  · intro dead w beyond id through
    by_contra new
    have led : (ofCourse c).Reaches c.start id :=
      (c.reaches_iff_walks limit).2 (Or.inr ⟨w, beyond, through⟩)
    have declared : id ∈ c.sceneIds := (c.mem_declaredIds_ofCourse id).1 led.declared
    exact dead id ((c.mem_unreachable_iff limit).2 ⟨declared, new⟩) led
  · intro covered id member led
    obtain ⟨-, missed⟩ := (c.mem_unreachable_iff limit).1 member
    obtain ⟨w, beyond, through⟩ := ((c.reaches_iff_walks limit).1 led).resolve_left missed
    exact missed (covered w beyond id through)

def lodge : Course where
  schema := "vvce.dsl.v1"
  about := ⟨"lodge", "1.0.0", []⟩
  globals := ⟨[], []⟩
  start := "hall"
  scenes := [passageway "hall" ["kitchen", "garden"], passageway "kitchen" [],
    passageway "garden" []]
  extras := []

theorem unreachable_iff_beyond_lodge :
    (lodge.dryRun 1).deadCode.unreachable = ["garden"] ∧
      ((ofCourse lodge).Reaches lodge.start "garden" ↔
        ∃ w ∈ (lodge.walksAfter [] lodge.start).drop 1, "garden" ∈ w.scenes) ∧
      (lodge.walksAfter [] lodge.start).drop 2 = [] ∧
      ∀ id ∈ (lodge.dryRun 2).deadCode.unreachable, ¬(ofCourse lodge).Reaches lodge.start id := by
  have garden : (lodge.dryRun 1).deadCode.unreachable = ["garden"] := by decide +kernel
  have last : (lodge.walksAfter [] lodge.start).drop 2 = [] := by decide +kernel
  obtain ⟨-, beyond, -⟩ := unreachable_iff_beyond lodge 1
  obtain ⟨-, -, dead⟩ := unreachable_iff_beyond lodge 2
  refine ⟨garden, beyond "garden" (by simp [garden]), last, dead.2 fun w none => ?_⟩
  rw [show (2 : Int).toNat = 2 from rfl, last] at none
  exact absurd none List.not_mem_nil

/-- With room for one walk the garden is called unreachable, and one gets there. -/
theorem garden_called_unreachable :
    "garden" ∈ (lodge.dryRun 1).deadCode.unreachable ∧
      (ofCourse lodge).Reaches lodge.start "garden" := by
  constructor
  · decide +kernel
  · decide +kernel

end Course

end SceneCourse
