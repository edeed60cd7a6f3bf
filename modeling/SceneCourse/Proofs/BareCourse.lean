import SceneCourse.Proofs.SideBySide

/-! Courses without mappings among their variables. Nothing of them is shared with the state, so
entering their scenes changes nothing in them. -/

namespace SceneCourse.Course

open Session Step

variable {c : Course}

theorem Bare.not_exposed (bare : c.Bare) : ¬c.Exposed := by
  rintro (⟨k, v, declares, mapping, -⟩ | ⟨id, sc, there, k, v, declares, mapping, -⟩)
  · have := bare.globals _ (mem_of_lookup declares)
    simp [mapping] at this
  · have := bare.scenes id sc there _ (mem_of_lookup declares)
    simp [mapping] at this

/-- A session that still holds the very course that it has loaded. -/
structure Untouched (c : Course) (n : Nat) (d : Course) (active : Option String)
    (s : Session Unit) : Prop where
  apart : Apart n d s
  scene : s.scene = active
  holds : Holds c s

/-- Writing variables that are no mappings leaves the course alone. -/
theorem leads_seed_untouched {n : Nat} {d : Course} {active : Option String} {tier : String}
    {vars : Session Unit → List (String × Value)} {declares : List (String × Value)}
    (bare : ∀ s, Apart n d s → ∀ p ∈ vars s, p.2.isMapping = false)
    (same : ∀ s, Holds c s → mapFields Value.plain (vars s) = mapFields Value.plain declares)
    (declared : ∀ name v, (⟨active, tier, name, v⟩ : Seed).declaration c = declares.lookup name) :
    Leads (Untouched c n d active) (Untouched c n d active) (seed tier vars) := by
  intro s h
  refine Leads.each (fun name _ => Leads.look fun s h => ?_) s h
  cases found : (vars s).lookup name with
  | none => exact ⟨s, rfl, h⟩
  | some v =>
    have none := bare s h.apart (name, v) (mem_of_lookup found)
    have behind := h.apart.commit (h.apart.clear.set s!"{tier}.vars.{name}"
      (Value.confined_of_not_isMapping none))
    refine ⟨_, rfl, ⟨behind.course, behind.clear⟩, h.scene, ?_, fun r hr => ?_⟩
    · rw [← h.holds.document, h.apart.course]
      exact congrArg (Option.map _) behind.course
    · rcases List.mem_cons.1 hr with rfl | old
      · have value := congrArg (List.lookup name) (same s h.holds)
        rw [lookup_mapFields, lookup_mapFields, found] at value
        show (Seed.declaration c ⟨s.scene, tier, name, v⟩).map _ = _
        rw [h.scene, declared name v]
        exact value.symm
      · exact h.holds.seeds r old

theorem declaration_scene (id name : String) (v : Value) :
    (⟨some id, "scene", name, v⟩ : Seed).declaration c = (declared c id).lookup name := by
  show ((c.scene? id).bind fun sc => sc.vars.lookup name) = _
  cases there : c.scene? id with
  | none => simp [declared, there]
  | some sc => simp [declared, there]

theorem untouched_loadCourse (json : c.marks = 0) (bare : c.Bare) :
    Untouched c (adoptCourse 6 c).2 (adoptCourse 6 c).1 none (loadCourse c (fresh {} {} ())).2 := by
  have begun : Untouched c (adoptCourse 6 c).2 (adoptCourse 6 c).1 none
      (holding c (fresh {} {} ())) := by
    refine ⟨apart_holding json {} {} (({} : Bus).onAll .course) (), rfl, ?_,
      fun r hr => absurd hr List.not_mem_nil⟩
    exact congrArg some (plain_adoptCourse json 6)
  have own (s : Session Unit) (h : Apart (adoptCourse 6 c).2 (adoptCourse 6 c).1 s) :
      ∀ p ∈ globalVars s, p.2.isMapping = false := by
    have vars : globalVars s = (adoptCourse 6 c).1.globals.vars := by simp [globalVars, h.course]
    rw [vars]
    exact (bare_adoptCourse json 6 bare).globals
  have declared (name : String) (v : Value) :
      (⟨none, "globals", name, v⟩ : Seed).declaration c = c.globals.vars.lookup name := rfl
  obtain ⟨t, seeded, untouched⟩ := leads_seed_untouched own
    (fun s h => Holds.globals h) declared _ begun
  rw [loadCourse_eq, seeded]
  exact untouched

theorem untouched_enterScene {n : Nat} {d : Course} {active : Option String} {t : Session Unit}
    (bare : d.Bare) (h : Untouched c n d active t) (id : String) :
    ∃ active', Untouched c n d active' (enterScene id t).2 := by
  rcases enterScene_cases h.apart.course id
    with ⟨-, -, -, store, course, scene, seeds⟩ | ⟨sc, there, -, anew⟩
  · refine ⟨active, ⟨course.trans h.apart.course, ?_⟩, scene.trans h.scene,
      h.holds.of_same course seeds⟩
    rw [store]
    exact h.apart.clear
  · have begun : Untouched c n d (some id) (cleared id t) :=
      ⟨⟨h.apart.course, h.apart.clear.resetScene⟩, rfl, h.holds.of_same rfl rfl⟩
    have own (s : Session Unit) (h : Apart n d s) : ∀ p ∈ sceneVars id s,
        p.2.isMapping = false := by
      have vars : sceneVars id s = sc.vars := by simp [sceneVars, h.course, there]
      rw [vars]
      exact bare.scenes id sc there
    obtain ⟨u, seeded, untouched⟩ := leads_seed_untouched own
      (fun s h => Holds.scene h id) (declaration_scene id) _ begun
    rw [anew, activate_anew seeded]
    exact ⟨some id, ⟨untouched.apart.course, untouched.apart.clear⟩, untouched.scene,
      untouched.holds.of_same rfl rfl⟩

/-- Where no variable is a mapping, entering scenes changes nothing in the document. -/
theorem Bare.steady (json : c.marks = 0) (bare : c.Bare) : c.Steady := by
  intro t entered
  have untouched : ∃ active, Untouched c (adoptCourse 6 c).2 (adoptCourse 6 c).1 active t := by
    induction entered with
    | loaded => exact ⟨none, untouched_loadCourse json bare⟩
    | @entered t _ id next later ih =>
      obtain ⟨active, h⟩ := ih
      have clear := h.apart.clear
      have ahead : Untouched c (adoptCourse 6 c).2 (adoptCourse 6 c).1 active (ahead next t) :=
        ⟨h.apart.withStore (clear.withTiers later (clear.apart.mono fun m hm => hm.mono later)),
          h.scene,
          h.holds.of_same rfl rfl⟩
      exact untouched_enterScene (bare_adoptCourse json 6 bare) ahead id
  obtain ⟨active, h⟩ := untouched
  exact h.holds

end SceneCourse.Course
