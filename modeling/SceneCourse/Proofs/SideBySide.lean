import SceneCourse.Proofs.HeldDocument

/-! Sessions beside each other. Entering a scene writes its variables into an empty tier, so what
becomes of the course depends on the course and on the marks ahead alone. A session of which
anything is asked therefore holds the same course as one that only enters the same scenes, as long
as the state holds no mapping of the course. -/

namespace SceneCourse

open Value (plain)

namespace Session

open Step Value

section

variable {η θ : Type} {tier : String} {vars : Session η → List (String × Value)}
  {vars' : Session θ → List (String × Value)}

/-- Unless the variables leave a mapping behind, the state is apart from the course again once a
tier is seeded. -/
theorem apart_of_seeded (following : Following vars) (known : tier = "globals" ∨ tier = "scene")
    {n : Nat} {d : Course} {s t : Session η} (apart : Apart n d s)
    (seeded : seed tier vars s = (.done (), t)) {declared : List (String × Value)}
    (same : mapFields plain (vars t) = mapFields plain declared) (hidden : ¬Leaves declared) :
    ∃ d', Apart t.store.next d' t := by
  have begun : Sown tier vars ((vars s).map Prod.fst) [] s :=
    ⟨rfl, _, _, apart.sowing, fun l taken => taken.elim⟩
  obtain ⟨t', seeded', sown⟩ := leads_seed_sown following known s begun
  rw [seeded] at seeded'
  obtain rfl : t = t' := congrArg Prod.snd seeded'
  obtain ⟨D, places, sowing, stand⟩ := sown.sowing
  refine sowing.apart fun l taken => hidden ?_
  obtain ⟨k, -, lasts, m, es, found⟩ := stand l taken
  have names : (vars t).map Prod.fst = declared.map Prod.fst := by
    have := congrArg (List.map Prod.fst) same
    rwa [fst_mapFields, fst_mapFields] at this
  have value := congrArg (List.lookup k) same
  rw [lookup_mapFields, lookup_mapFields, found] at value
  obtain ⟨v, declares, is⟩ := Option.map_eq_some_iff.1 value.symm
  refine ⟨k, v, declares, ?_, ?_⟩
  · rw [← isMapping_plain, is]
    rfl
  · rw [← names, sown.names]
    exact lasts

end

/-! ### Entering a scene -/

variable {η θ : Type}

def cleared (id : String) (s : Session η) : Session η :=
  { s.addEntry { level := .info, category := .scene, message := s!"Entering scene: {id}" } with
    scene := some id
    passages := .entered id :: s.passages
    entrances := ⟨id, s.moves⟩ :: s.entrances
    store := s.store.resetScene }

def armed (scene : Scene) (s : Session η) : Session η :=
  { s with triggers := scene.triggers }.addEntry
    { level := .debug, category := .event, message :=
      s!"Active trigger set replaced ({scene.triggers.length} triggers)" }

theorem activate_anew {id : String} {scene : Scene} {s t : Session η}
    (seeded : seed "scene" (sceneVars id) (cleared id s) = (.done (), t)) :
    activate id scene true s = (.done (), armed scene t) := by
  simp only [activate, write_null]
  show Step.bind (seed "scene" (sceneVars id)) _ (cleared id s) = _
  rw [Step.bind, seeded]
  rfl

/-- Whoever enters a scene is refused or there already, and leaves state, course and scene as they
were, or enters it anew. -/
theorem enterScene_cases {d : Course} {s : Session η} (loaded : s.course = some d) (id : String) :
    ((d.scene? id = none ∨ s.scene = some id) ∧ ∃ r,
      (enterScene id).attempt s = (.done r, (enterScene id s).2) ∧
        (enterScene id s).2.store = s.store ∧ (enterScene id s).2.course = s.course ∧
          (enterScene id s).2.scene = s.scene ∧ (enterScene id s).2.seeds = s.seeds) ∨
      ∃ scene, d.scene? id = some scene ∧ s.scene ≠ some id ∧
      enterScene id s = activate id scene true s := by
  cases there : d.scene? id with
  | none =>
    have refused := enterScene_of_none loaded there
    refine Or.inl ⟨Or.inl rfl, .error (.noScene id), ?_⟩
    rw [Step.attempt, refused]
    simp only [refuseScene, write_null]
    exact ⟨rfl, rfl, rfl, rfl, rfl⟩
  | some scene =>
    have entered := enterScene_of_some loaded there
    by_cases active : s.scene = some id
    · have again : (s.scene != some id) = false := by simp [active]
      rw [again] at entered
      refine Or.inl ⟨Or.inr active, .ok (), ?_⟩
      rw [Step.attempt, entered]
      simp only [activate, write_null]
      exact ⟨rfl, rfl, rfl, active.symm, rfl⟩
    · have anew : (s.scene != some id) = true := by simp [active]
      rw [anew] at entered
      exact Or.inr ⟨scene, rfl, active, entered⟩

theorem alike_cleared {s : Session η} {t : Session θ} (course : s.course = t.course)
    (seeds : s.seeds = t.seeds) (next : s.store.next = t.store.next) (left : s.store.shared = false)
    (right : t.store.shared = false) (id : String) :
    Alike "scene" (cleared id s) (cleared id t) := by
  have tier (store : Store) : Entries.get? (.str "scene") store.resetScene.tiers =
      some (.map store.next [(.str "vars", .map (store.next + 1) [])]) := by
    show Entries.get? (.str "scene")
      (Entries.set (.str "nodes") _ (Entries.set (.str "scene") _ _)) = _
    rw [Entries.get?_set_str_of_ne (by decide), Entries.get?_set_str_self]
  refine ⟨course, rfl, seeds, congrArg (· + 3) next, left, right, _, _, tier s.store, ?_⟩
  rw [next]
  exact tier t.store

/-! ### Sessions beside each other -/

/-- A session in which nothing was done but loading a course and entering scenes, beside a session
that does anything. -/
structure Beside (t : Session Unit) (s : Session η) : Prop where
  unshared : t.store.shared = false
  scene : s.scene = t.scene
  seeds : s.seeds = t.seeds
  apart : ∃ d, t.course = some d ∧ Apart t.store.next d s

theorem Beside.ahead {s : Session η} {t : Session Unit} (h : Beside t s) :
    Beside (ahead s.store.next t) s := by
  obtain ⟨d, loaded, apart⟩ := h.apart
  refine ⟨h.unshared, h.scene, h.seeds, d, loaded, apart.course, apart.clear.unshared,
    Nat.le_refl _, fun m hm => ?_,
    apart.clear.apart⟩
  have := apart.clear.below m hm
  have := apart.clear.grown
  show 0 < m ∧ m < s.store.next
  omega

/-- Sessions that enter a scene beside each other write the same variables with the same marks, so
they hold the same course behind it. They are still beside each other unless a mapping is left in
the state. -/
theorem enterScene_beside {c : Course} {s : Session η} {t : Session Unit} (h : Beside t s)
    (next : s.store.next = t.store.next) (id : String) :
    (∃ r, (enterScene id).attempt s = (.done r, (enterScene id s).2)) ∧
      (enterScene id s).2.course = (enterScene id t).2.course ∧
      (enterScene id s).2.seeds = (enterScene id t).2.seeds ∧
        (enterScene id s).2.store.next = (enterScene id t).2.store.next ∧
          (¬c.Exposed → Holds c (enterScene id s).2 →
            Beside (enterScene id t).2 (enterScene id s).2) := by
  obtain ⟨d, loaded, apart⟩ := h.apart
  rcases enterScene_cases apart.course id
    with ⟨there, r, ends, store, course, scene, seeds⟩ | ⟨sc, there, away, mine⟩
  · rcases enterScene_cases loaded id with ⟨-, -, -, store', course', scene', seeds'⟩ | ⟨sc,
      there', away', -⟩
    · have told : (enterScene id s).2.seeds = (enterScene id t).2.seeds := by
        rw [seeds, seeds', h.seeds]
      refine ⟨⟨r, ends⟩, by rw [course, course', apart.course, loaded], told,
        by rw [store, store', next], fun _ _ => ?_⟩
      refine ⟨by rw [store', h.unshared], by rw [scene, scene', h.scene], told, d,
        course'.trans loaded, ?_, ?_⟩
      · rw [course, apart.course]
      · rw [store, store']
        exact apart.clear
    · rw [h.scene] at there
      rcases there with none | active
      · simp [there'] at none
      · exact absurd active away'
  · rcases enterScene_cases loaded id with ⟨there', -⟩ | ⟨sc', there', away', yours⟩
    · rw [← h.scene] at there'
      rcases there' with none | active
      · simp [there] at none
      · exact absurd active away
    · have alike := alike_cleared (apart.course.trans loaded.symm) h.seeds
        next apart.clear.unshared h.unshared id
      have same (s : Session η) (t : Session Unit) (course : s.course = t.course) : sceneVars id s =
          sceneVars id t := by
        rw [sceneVars, sceneVars, course]
      obtain ⟨s', t', seeded, seeded', alike'⟩ := alike_seed (Or.inr rfl) same alike
      have mine' : enterScene id s = (.done (), armed sc s') := mine.trans (activate_anew seeded)
      have yours' : enterScene id t = (.done (), armed sc' t') :=
        yours.trans (activate_anew seeded')
      rw [mine', yours']
      refine ⟨⟨.ok (), ?_⟩, alike'.course, alike'.seeds, alike'.next, fun hidden holds => ?_⟩
      · rw [Step.attempt, mine']
      · have clear : Apart t.store.next d (cleared id s) := ⟨apart.course, apart.clear.resetScene⟩
        obtain ⟨d', apart'⟩ := apart_of_seeded (following_sceneVars id) (Or.inr rfl) clear seeded
          (holds.scene id)
          (Course.not_leaves_declared hidden id)
        refine ⟨alike'.right, alike'.scene, alike'.seeds, d',
          alike'.course.symm.trans apart'.course, apart'.course, ?_⟩
        have clear' := apart'.clear
        rw [alike'.next] at clear'
        exact clear'

theorem stable_beside (t : Session Unit) : Stable (Beside (η := η) t) where
  log s log h := by
    obtain ⟨d, loaded, apart⟩ := h.apart
    exact ⟨h.unshared, h.scene, h.seeds, d, loaded, stable_apart.log s log apart⟩
  bus s bus h := by
    obtain ⟨d, loaded, apart⟩ := h.apart
    exact ⟨h.unshared, h.scene, h.seeds, d, loaded, stable_apart.bus s bus apart⟩
  host s host h := by
    obtain ⟨d, loaded, apart⟩ := h.apart
    exact ⟨h.unshared, h.scene, h.seeds, d, loaded, stable_apart.host s host apart⟩
  history s history h := by
    obtain ⟨d, loaded, apart⟩ := h.apart
    exact ⟨h.unshared, h.scene, h.seeds, d, loaded, stable_apart.history s history apart⟩
  moves s moves h := by
    obtain ⟨d, loaded, apart⟩ := h.apart
    exact ⟨h.unshared, h.scene, h.seeds, d, loaded, stable_apart.moves s moves apart⟩
  setCopy path v s h := by
    obtain ⟨d, loaded, apart⟩ := h.apart
    exact ⟨h.unshared, h.scene, h.seeds, d, loaded, stable_apart.setCopy path v s apart⟩
  setNode id v s h := by
    obtain ⟨d, loaded, apart⟩ := h.apart
    have still : (setNode id v s).2.scene = s.scene ∧ (setNode id v s).2.seeds = s.seeds :=
      keeps_setNode (I := fun t => t.scene = s.scene ∧ t.seeds = s.seeds)
        (fun _ _ _ h _ => h) s ⟨rfl, rfl⟩
    exact ⟨h.unshared, still.1.trans h.scene, still.2.trans h.seeds, d, loaded,
      stable_apart.setNode id v s apart⟩
  updateNode id updates s h := by
    obtain ⟨d, loaded, apart⟩ := h.apart
    have still : (updateNode id updates s).2.scene = s.scene ∧
        (updateNode id updates s).2.seeds = s.seeds :=
      keeps_updateNode (I := fun t => t.scene = s.scene ∧ t.seeds = s.seeds)
        (fun _ _ _ _ h _ => h) s ⟨rfl, rfl⟩
    exact ⟨h.unshared, still.1.trans h.scene, still.2.trans h.seeds, d, loaded,
      stable_apart.updateNode id updates s apart⟩

end Session

/-! ### Runs of steady courses -/

namespace Course

open Session

theorem loaded_beside {η : Type} {c : Course} (json : c.marks = 0) (hidden : ¬c.Exposed)
    (limits : Limits) (log : RunLog) (bus : Bus) (kept : η) :
    ∃ s : Session η, loadCourse c { fresh limits log kept with bus } = (.done (), s) ∧
      s.course = (loadCourse c (fresh {} {} ())).2.course ∧
      s.seeds = (loadCourse c (fresh {} {} ())).2.seeds ∧
        (Holds c s → Beside (loadCourse c (fresh {} {} ())).2 s ∧
          s.store.next = (loadCourse c (fresh {} {} ())).2.store.next) := by
  have apart := apart_holding json limits log bus kept
  have apart' := apart_holding json {} {} (({} : Bus).onAll .course) ()
  have alike : Alike "globals" (holding c { fresh limits log kept with bus })
      (holding c (fresh {} {} ())) :=
    ⟨rfl, rfl, rfl, rfl, apart.clear.unshared, apart'.clear.unshared, _, _, rfl, rfl⟩
  have same (s : Session η) (t : Session Unit) (course : s.course = t.course) : globalVars s =
      globalVars t := by
    rw [globalVars, globalVars, course]
  obtain ⟨s, t, seeded, seeded', alike'⟩ := alike_seed (Or.inl rfl) same alike
  rw [loadCourse_eq, loadCourse_eq, seeded, seeded']
  refine ⟨s, rfl, alike'.course, alike'.seeds, fun holds => ⟨?_, alike'.next⟩⟩
  obtain ⟨d, after⟩ := apart_of_seeded following_globalVars
      (Or.inl rfl) apart seeded holds.globals fun leaves =>
    hidden (Or.inl leaves)
  refine ⟨alike'.right, alike'.scene, alike'.seeds, d, alike'.course.symm.trans after.course,
    after.course, ?_⟩
  have clear := after.clear
  rw [alike'.next] at clear
  exact clear

def Follows {η : Type} (c : Course) (s : Session η) : Prop := ∃ t, c.Entered t ∧ Beside t s

theorem stable_follows {η : Type} {c : Course} : Stable (Follows (η := η) c) :=
  Stable.exists fun t _ => stable_beside t

theorem kept_of_steady {c : Course} (json : c.marks = 0) (hidden : ¬c.Exposed) (steady : c.Steady) :
    c.Kept := by
  intro η host made nesting play played limits log bus kept
  have enter (id : String) : Step.Keeps (Follows (η := η) c) (enterScene id) := by
    rintro s ⟨t, entered, beside⟩
    obtain ⟨d, -, apart⟩ := beside.apart
    have entered' := entered.entered id apart.clear.grown
    obtain ⟨-, course, seeds, -, behind⟩ := enterScene_beside beside.ahead rfl id
    exact ⟨_, entered', behind hidden ((steady _ entered').of_same course seeds)⟩
  have restored (s : Session η) (store : Store) (snapshot : Value) (h : Follows c s)
      (done : s.store.restore snapshot = .ok store) : Follows c { s with store } := by
    obtain ⟨t, entered, unshared, scene, seeds, d, loaded, apart⟩ := h
    exact ⟨t, entered, unshared, scene, seeds, d, loaded,
      apart.withStore (apart.clear.restore done)⟩
  have rest : Step.Keeps (Follows (η := η) c) play :=
    played.keeps fun x asked => (governs_visits stable_follows enter).operation made
      restored nesting asked
  obtain ⟨s, loaded, course, seeds, begun⟩ := loaded_beside json hidden limits log bus kept
  have first := (begun ((steady _ .loaded).of_same course seeds)).1
  have run : ((do loadCourse c; play) { fresh limits log kept with bus }).2 = (play s).2 := by
    show (Step.bind (loadCourse c) _ _).2 = _
    rw [Step.bind, loaded]
  rw [run]
  obtain ⟨t, entered, beside⟩ := rest s ⟨_, .loaded, first⟩
  obtain ⟨d, loaded', apart⟩ := beside.apart
  exact (steady t entered).of_same (apart.course.trans loaded'.symm) beside.seeds

end Course

end SceneCourse
