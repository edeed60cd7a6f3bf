import SceneCourse.Proofs.LoadedCourse
import SceneCourse.Proofs.Navigation
import SceneCourse.Proofs.SideBySide

/-! The phases of a session. The phase is read off the course and the active scene, while the active
triggers are kept on their own. Proved: whatever is asked of a session, and whatever its host does
on the way, triggers are active only while a scene is; and the active scene is one of the loaded
course with just the active triggers, as long as no course is loaded over an active scene that it
does not declare with these triggers. Such a course leaves a session behind that is in the wrong
phase. -/

namespace SceneCourse

open Step (Keeps MadeOf Leads)

def Course.triggersOf (c : Course) (id : String) : Option (List Trigger) :=
  (c.scene? id).map (·.triggers)

theorem Course.triggersOf_of_scene? {c : Course} {id : String} {scene : Scene}
    (there : c.scene? id = some scene) :
    c.triggersOf id = some scene.triggers := by rw [triggersOf, there, Option.map_some]

theorem Course.triggersOf_mapVars (f : Value → Value) (c : Course) :
    (c.mapVars f).triggersOf = c.triggersOf := by
  funext id
  rw [triggersOf, scene?_mapVars, Option.map_map]
  rfl

namespace Session

variable {η : Type}

/-! ### Positions -/

/-- Where a session stands: what its course declares, the active scene, and the active triggers. -/
structure Position where
  declared : Option (String → Option (List Trigger))
  scene : Option String
  triggers : List Trigger

def position (s : Session η) : Position := ⟨s.course.map (·.triggersOf), s.scene, s.triggers⟩

theorem position_commit (s : Session η) (store : Store) (edits : List Value.Edit) :
    (s.commit store edits).position = s.position := by
  simp only [position, commit, Option.map_map, Function.comp_def, Course.triggersOf_mapVars]

/-- Nothing elementary changes where a session stands. -/
theorem stable_position (J : Position → Prop) : Stable fun s : Session η => J s.position where
  log s log h := h
  bus s bus h := h
  host s host h := h
  history s history h := h
  moves s moves h := h
  setCopy path v s h := (congrArg J (position_commit s _ _)).mpr h
  setNode _ _ := keeps_setNode fun s _ _ h _ => (congrArg J (position_commit s _ _)).mpr h
  updateNode _ _ := keeps_updateNode fun s _ _ _ h _ => (congrArg J (position_commit s _ _)).mpr h

theorem leads_seed_position (J : Position → Prop) (tier : String)
    (vars : Session η → List (String × Value)) :
    Leads (fun s => J s.position) (fun s => J s.position) (seed tier vars) :=
  leads_seed (fun _ _ => Leads.update fun s h => (congrArg J (position_commit s _ _)).mpr h) vars

/-- The scene is active before its variables are written, and its triggers are only after that. -/
theorem position_activate (id : String) (scene : Scene) (anew : Bool) (s : Session η) :
    (activate id scene anew s).2.position = ⟨s.position.declared, some id, scene.triggers⟩ := by
  cases anew with
  | true =>
    obtain ⟨t, seeded, stands⟩ := leads_seed_position (· = (cleared id s).position) "scene"
      (sceneVars id) (cleared id s) rfl
    rw [activate_anew seeded]
    exact congrArg (fun p : Position => Position.mk p.declared p.scene scene.triggers) stands
  | false =>
    simp only [activate, write_null]
    rfl

theorem position_refuseScene (name : String) (s : Session η) :
    (refuseScene name s).2.position = s.position := by
  simp only [refuseScene, write_null]
  rfl

/-- Entering a scene leaves a session where it stands, or has made a scene of its course active,
with its triggers. -/
theorem position_enterScene (id : String) (s : Session η) :
    (enterScene id s).2.position = s.position ∨ ∃ declared ts, s.position.declared = some declared ∧
      declared id = some ts ∧ (enterScene id s).2.position = ⟨some declared, some id, ts⟩ := by
  rcases enterScene_eq id s with refused | refused | ⟨c, scene, loaded, there, entered⟩
  · exact Or.inl (by rw [refused])
  · exact Or.inl (by rw [refused, position_refuseScene])
  · have declared : s.position.declared = some c.triggersOf := by
      rw [position, loaded, Option.map_some]
    rw [entered, position_activate, declared]
    exact Or.inr ⟨c.triggersOf, scene.triggers, rfl, Course.triggersOf_of_scene? there, rfl⟩

theorem position_reset (s : Session η) : (reset s).2.position = ⟨none, none, []⟩ := by
  simp only [reset, write_null]
  rfl

theorem position_destroy (s : Session η) : (destroy s).2.position = ⟨none, none, []⟩ := by
  simp only [destroy, reset, write_null]
  rfl

/-- Loading a course changes what is declared and nothing else about where a session stands. -/
theorem position_loadCourse (c : Course) (s : Session η) : (loadCourse c s).2.position =
    { s.position with declared := some (adoptCourse s.store.next c).1.triggersOf } := by
  obtain ⟨t, loaded, stands⟩ := leads_seed_position
    (· = (holding c s).position) "globals" globalVars (holding c s) rfl
  rw [loadCourse_eq, loaded, stands]
  rfl

/-! ### Phases -/

/-- The phase of a session agrees with its course, its scene and its triggers. -/
structure Consistent (s : Session η) : Prop where
  active : s.phase = .active → ∃ c id scene, s.course = some c ∧ s.scene = some id ∧
    c.scene? id = some scene ∧
    s.activeScene = some scene ∧ s.triggers = scene.triggers
  inactive : s.phase ≠ .active → s.triggers = [] ∧ s.scene = none

/-- Outside of scenes nothing is active. -/
def Position.Idle (p : Position) : Prop :=
  p.declared = none ∨ p.scene = none → p.triggers = [] ∧ p.scene = none

/-- Nothing is active, or a scene that is declared is, with its triggers. -/
inductive Settled : Position → Prop where
  | idle (declared : Option (String → Option (List Trigger))) : Settled ⟨declared, none, []⟩
  | active {declared : String → Option (List Trigger)} {id : String} {ts : List Trigger}
    (inside : declared id = some ts) : Settled ⟨some declared, some id, ts⟩

theorem phase_ne_active_iff (s : Session η) :
    s.phase ≠ .active ↔ s.position.declared = none ∨ s.position.scene = none := by
  cases course : s.course <;> cases scene : s.scene <;> simp [phase, position, course, scene]

theorem consistent_iff (s : Session η) : s.Consistent ↔ Settled s.position := by
  constructor
  · intro h
    by_cases active : s.phase = .active
    · obtain ⟨c, id, scene, loaded, here, there, -, same⟩ := h.active active
      rw [position, loaded, here, same]
      exact .active (Course.triggersOf_of_scene? there)
    · obtain ⟨none, nowhere⟩ := h.inactive active
      rw [position, none, nowhere]
      exact .idle _
  · intro settled
    generalize stands : s.position = p at settled
    cases settled with
    | idle declared =>
      have inactive := (phase_ne_active_iff s).2 (Or.inr (congrArg Position.scene stands))
      refine ⟨fun active => absurd active inactive, fun _ => ?_⟩
      exact ⟨congrArg Position.triggers stands, congrArg Position.scene stands⟩
    | active inside =>
      have here := congrArg Position.scene stands
      obtain ⟨c, loaded, rfl⟩ := Option.map_eq_some_iff.1 (congrArg Position.declared stands)
      obtain ⟨scene, there, rfl⟩ := Option.map_eq_some_iff.1 inside
      have found : s.activeScene = some scene := by
        rw [activeScene, loaded, show s.scene = _ from here]
        exact there
      refine ⟨fun _ => ⟨c, _, scene, loaded, here, there, found, congrArg Position.triggers stands⟩,
        fun inactive => ?_⟩
      rw [phase_ne_active_iff, stands] at inactive
      simp at inactive

/-- A course can be loaded into a session: it declares the scene that is active there, if there is
one, with the very triggers that are active. -/
def Suits (c : Course) (s : Session η) : Prop :=
  ∀ id, s.scene = some id → (adoptCourse s.store.next c).1.triggersOf id = some s.triggers

/-- What a document declares is the same once a session has taken it in. -/
theorem triggersOf_adoptCourse {c : Course} (json : c.marks = 0) (next : Nat) :
    (adoptCourse next c).1.triggersOf = c.triggersOf := by
  rw [adoptCourse_eq json]
  funext id
  obtain ⟨from_, -, found⟩ := find?_adoptScenes (adoptVars next c.globals.vars).2 c.scenes id
  rw [Course.triggersOf, Course.scene?, found, Option.map_map]
  rfl

/-- Loading a course leaves the phase right if and only if the course suits. -/
theorem consistent_loadCourse_iff {s : Session η} (h : s.Consistent) (c : Course) :
    (loadCourse c s).2.Consistent ↔ Suits c s := by
  rw [consistent_iff] at h ⊢
  rw [position_loadCourse, Suits]
  generalize stands : s.position = p at h ⊢
  have here : s.scene = p.scene := congrArg Position.scene stands
  have armed : s.triggers = p.triggers := congrArg Position.triggers stands
  rw [here, armed]
  cases h with
  | idle declared => exact ⟨fun _ _ active => (nomatch active), fun _ => .idle _⟩
  | active inside =>
    constructor
    · rintro (_ | inside) id ⟨⟩
      exact inside
    · exact fun suits => .active (suits _ rfl)

/-! ### Errands -/

def resume (snapshot : Value) : Step (Session η) Unit := do
  let s ← Step.current
  let store ← Step.ofExcept (s.store.restore snapshot)
  Step.update ({ · with store })

def loadWhere (may : Course → Session η → Bool) (c : Course) : Step (Session η) Unit := do
  let s ← Step.current
  if may c s then loadCourse c

/-- What a host can do to a session, in the middle of whatever the session is doing. It loads
courses where it may. -/
inductive Errand (may : Course → Session η → Bool) (emit : Emitter η) :
    Step (Session η) Unit → Prop where
  | visit {x : Step (Session η) Unit} (h : Visit emit x) : Errand may emit x
  | resume (snapshot : Value) : Errand may emit (resume snapshot)
  | load (c : Course) : Errand may emit (loadWhere may c)
  | reset : Errand may emit reset

/-- What can be asked of a session from outside. -/
inductive Demand (may : Course → Session η → Bool) (host : Host η) (emit : Emitter η) :
    Step (Session η) Unit → Prop where
  | operation {x : Step (Session η) Unit} (h : Operation host emit x) : Demand may host emit x
  | load (c : Course) : Demand may host emit (loadWhere may c)
  | reset : Demand may host emit reset
  | destroy : Demand may host emit destroy

/-- Where a session stands is of a kind that entering scenes and loading courses does not leave. -/
structure Upheld (may : Course → Session η → Bool) (J : Position → Prop) : Prop where
  enter : ∀ {declared id ts}, declared id = some ts → J ⟨some declared, some id, ts⟩
  load : ∀ c s, may c s = true → J s.position → J (loadCourse c s).2.position
  reset : J ⟨none, none, []⟩

namespace Upheld

variable {may : Course → Session η → Bool} {J : Position → Prop} (h : Upheld may J)

include h

theorem keeps_load (c : Course) : Keeps (fun s : Session η => J s.position) (loadWhere may c) := by
  refine Keeps.looking fun s hs => ?_
  by_cases allowed : may c s = true
  · rw [if_pos allowed]
    exact h.load c s allowed hs
  · rw [if_neg allowed]
    exact hs

theorem keeps_enter (id : String) : Keeps (fun s : Session η => J s.position) (enterScene id) := by
  intro s hs
  rcases position_enterScene id s with same | ⟨declared, ts, -, inside, stands⟩
  · exact (congrArg J same).mpr hs
  · exact (congrArg J stands).mpr (h.enter inside)

theorem governs : Governs (fun s : Session η => J s.position) (fun _ => True) (Errand may) where
  toInward := (stable_position J).toInward
  guided _ _ _ _ := fun _ _ => trivial
  enter id _ := h.keeps_enter id
  calls emit he x called := by
    cases called with
    | visit visited =>
      exact (governs_visits (stable_position J) h.keeps_enter).calls emit he x visited
    | resume snapshot =>
      exact Keeps.look fun s _ => Keeps.bind (Keeps.ofExcept _) fun store =>
        Keeps.update fun s hs => hs
    | load c => exact h.keeps_load c
    | reset => exact fun s _ => (congrArg J (position_reset s)).mpr h.reset

/-- Whatever is asked of a session, and whatever its host does meanwhile. -/
theorem run {host : Host η} (made : host.MadeOf (Errand may)) (nesting : Nat)
    {run : Step (Session η) Unit} (asked : run.MadeOf (Demand may host (emit host nesting)))
    (limits : Limits) (log : RunLog) (kept : η) : J (run (fresh limits log kept)).2.position := by
  refine asked.keeps (I := fun s => J s.position)
    (fun x called => ?_) (fresh limits log kept) h.reset
  cases called with
  | operation operation => exact h.governs.operation made (fun _ _ _ hs _ => hs) nesting operation
  | load c => exact h.keeps_load c
  | reset => exact fun s _ => (congrArg J (position_reset s)).mpr h.reset
  | destroy => exact fun s _ => (congrArg J (position_destroy s)).mpr h.reset

end Upheld

theorem upheld_idle (may : Course → Session η → Bool) : Upheld may Position.Idle where
  enter _ nothing := by simp at nothing
  load c s _ hs := by
    rw [position_loadCourse]
    exact fun nothing => hs (nothing.imp_left fun none => absurd none (by simp))
  reset _ := ⟨rfl, rfl⟩

theorem upheld_settled {may : Course → Session η → Bool}
    (suits : ∀ c s, may c s = true → Suits c s) : Upheld may Settled where
  enter inside := .active inside
  load c s allowed hs := by
    rw [← consistent_iff] at hs ⊢
    exact (consistent_loadCourse_iff hs c).2 (suits c s allowed)
  reset := .idle none

/-- In every run triggers are active only while a scene is. If courses are loaded only where they
suit, then the active scene is one of the loaded course, with the active triggers; and no other
course can be loaded without breaking this. -/
theorem phases_run (may : Course → Session η → Bool) {host : Host η}
    (made : host.MadeOf (Errand may)) (nesting : Nat) {run : Step (Session η) Unit}
    (asked : run.MadeOf (Demand may host (emit host nesting))) (limits : Limits) (log : RunLog)
    (kept : η) (s : Session η) (behind : s = (run (fresh limits log kept)).2) :
    (s.phase ≠ .active → s.triggers = [] ∧ s.scene = none) ∧
      ((∀ c t, may c t = true → Suits c t) → s.Consistent) ∧
      ∀ (t : Session η), t.Consistent → ∀ c, (loadCourse c t).2.Consistent ↔ Suits c t := by
  subst behind
  refine ⟨fun inactive => ?_, fun suits => ?_, fun t h c => consistent_loadCourse_iff h c⟩
  · exact (upheld_idle may).run made nesting asked limits log kept
      ((phase_ne_active_iff _).1 inactive)
  · exact (consistent_iff _).2 ((upheld_settled suits).run made nesting asked limits log kept)

end Session

/-! ### From the house to a shed -/

namespace Course

open Session ScriptHost

def shed : Course where
  schema := "vvce.dsl.v1"
  about := ⟨"shed", "1.0.0", []⟩
  globals := ⟨[], []⟩
  start := "bench"
  scenes := [passageway "bench" []]
  extras := []

/-- The house is entered, and then the shed is loaded if it may be. The host fails to present the
state. -/
def houseMove (may : Course → Session ScriptHost → Bool) : Step (Session ScriptHost) Unit := do
  let host := callbacks { state := .failing "dark" }
  loadWhere may house
  let _ ← (Session.start host (emit host 5) none .null).attempt
  loadWhere may shed

/-- Who loads the shed while a scene of the house is active gets a session that is active without a
scene. -/
theorem houseMove_lost :
    ((houseMove fun _ _ => true) (fresh {} {} {})).2.phase = .active ∧
      ((houseMove fun _ _ => true) (fresh {} {} {})).2.activeScene.isNone = true ∧
      ¬((houseMove fun _ _ => true) (fresh {} {} {})).2.Consistent := by
  have nowhere : ((houseMove fun _ _ => true) (fresh {} {} {})).2.activeScene.isNone =
      true := by decide +kernel
  have active : ((houseMove fun _ _ => true) (fresh {} {} {})).2.phase =
      .active := by decide +kernel
  refine ⟨active, nowhere, fun consistent => ?_⟩
  obtain ⟨_, _, _, -, -, -, found, -⟩ := consistent.active active
  rw [found] at nowhere
  exact nomatch nowhere

/-- Who waits until no scene is active keeps the phase right. -/
theorem phases_run_houseMove :
    ((houseMove fun _ s => s.scene.isNone) (fresh {} {} {})).2.phase = .active ∧
      ((houseMove fun _ s => s.scene.isNone) (fresh {} {} {})).2.Consistent := by
  let may (_ : Course) (s : Session ScriptHost) : Bool := s.scene.isNone
  have made : (callbacks { state := .failing "dark" }).MadeOf (Errand may) :=
    (madeOf_callbacks _).mono fun _ _ called => .visit (.call called)
  have asked : (houseMove may).MadeOf
      (Demand may _ (emit (callbacks { state := .failing "dark" }) 5)) :=
    .andThen (.call (.load house))
      (.next (.call (.operation (.start none .null))) fun _ => .call (.load shed))
  have suits (c : Course) (s : Session ScriptHost) (free : may c s = true) : Suits c s :=
      fun id active => by
    simp [may, active] at free
  exact ⟨by decide +kernel, (phases_run may made 5 asked {} {} {} _ rfl).2.1 suits⟩

end Course

end SceneCourse
