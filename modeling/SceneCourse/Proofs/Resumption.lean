import SceneCourse.Proofs.Cascade
import SceneCourse.Proofs.SceneEntry
import SceneCourse.Proofs.Snapshot

/-! Starting from a snapshot. Whoever starts a course from a snapshot takes over the whole state and
then enters a scene; and a scene that was not active is entered anew, although the state is already
that of its visitor. Proved: wherever a run stands, a new session that starts in the scene from a
snapshot of the run comes to an end there, and everything of the state comes through but the tier of
the scene, which reads as the scene's variables make it from nothing, and the tier of the nodes,
which is empty. So it is the state of the snapshot just if nothing had happened in the scene. -/

namespace SceneCourse

theorem Step.attempt_of_ends {σ : Type} {x : Step σ Unit} {s : σ} (ends : (x s).1 ≠ .unfinished) :
    ∃ r, x.attempt s = (.done r, (x s).2) := by
  rw [Step.attempt]
  generalize x s = outcome at ends
  obtain ⟨_ | _ | _, t⟩ := outcome
  · exact ⟨_, rfl⟩
  · exact ⟨_, rfl⟩
  · exact absurd rfl ends

/-! ### Parts of a state -/

namespace Store

open Value

theorem read_tier (s : Store) (name : String) (v : Value) :
    (s.tier name).map plain = .ok v ↔ Entries.get? (.str name) (plainEntries s.tiers) = some v := by
  rw [get?_plainEntries, tier, root, part]
  cases Entries.get? (.str name) s.tiers with
  | none => simp [Except.map]
  | some w =>
    simp [Except.map, within_of_mark_eq_zero (show (Value.map 0 s.tiers).mark = 0 from rfl)]

/-- A state reads as before, with a tier for the scene and an empty one for the nodes, just if that
is how they read. -/
theorem plain_setTiers_iff (s : Store) (v : Value) :
    ((s.setTier "scene" v).setTier "nodes" .emptyMap).root.plain = s.root.plain ↔
      (s.tier "scene").map plain = .ok v.plain ∧ (s.tier "nodes").map plain = .ok .emptyMap := by
  rw [read_tier, read_tier, plain_setTiers, root, plain]
  constructor
  · intro same
    have entries := (Value.map.inj same).2
    refine ⟨?_, ?_⟩
    · rw [← entries, Entries.get?_set_str_of_ne (by decide), Entries.get?_set_str_self]
    · rw [← entries, Entries.get?_set_str_self]
      rfl
  · rintro ⟨scene, nodes⟩
    rw [Entries.set_of_get? scene]
    exact congrArg (Value.map 0) (Entries.set_of_get? nodes)

/-- What is put into a state in the place of two tiers is all that a reader sees of the change. -/
theorem plain_setTiers_congr {s t : Store} (same : s.root.plain = t.root.plain) (v w : Value) :
    ((s.setTier "scene" v).setTier "nodes" w).root.plain =
      ((t.setTier "scene" v).setTier "nodes" w).root.plain := by
  rw [plain_setTiers, plain_setTiers, (Value.map.inj same).2]

end Store

namespace Session

variable {η : Type} {s : Session η}

open Step (Keeps Finishes)
open Value (Rooted)

/-! ### States and their entries -/

/-- A session in whose state the tiers come first and every key is there once. -/
def Tiered (s : Session η) : Prop := s.store.shared = false ∧ Rooted s.store.tiers

theorem tiered_set {store : Store} (unshared : store.shared = false) (rooted : Rooted store.tiers)
    (path : String) (v : Value) :
    (store.set path v).1.shared = false ∧ Rooted (store.set path v).1.tiers :=
  ⟨(store.shared_place _ _).trans unshared, Store.rooted_place rooted _ _⟩

theorem entering_tiered : Entering (Tiered (η := η)) where
  addEntry _ _ h := h
  addLine _ _ h := h
  setCopy path v s h := by
    have unshared := (s.store.shared_adopt v).trans h.1
    have rooted : Rooted (s.store.adopt v).2.tiers := Store.tiers_adopt s.store v ▸ h.2
    exact tiered_set unshared rooted path _
  setNode id v s h := by
    have unshared := (s.store.shared_adopt v).trans h.1
    have rooted : Rooted (s.store.adopt v).2.tiers := Store.tiers_adopt s.store v ▸ h.2
    simp only [setNode]
    split
    next done =>
      exact ⟨(Store.shared_setNodeState done).trans unshared, Store.rooted_setNodeState rooted done⟩
    next => exact h
  updateNode id updates s h := by
    rw [updateNode]
    split
    next done =>
      exact ⟨(Store.shared_adoptUpdates done).trans h.1, Store.rooted_adoptUpdates h.2 done⟩
    next done =>
      exact ⟨(Store.shared_adoptUpdates done).trans h.1, Store.rooted_adoptUpdates h.2 done⟩
    next => exact h
  place _ _ _ _ h := h
  triggers _ _ h := h
  resetScene s h := ⟨h.1, (h.2.setStr _).setStr _⟩
  sow tier name v := Keeps.update fun s h => tiered_set h.1 h.2 _ v

theorem tiered_of_reached {may : Course → Session η → Bool}
    (json : ∀ c s, may c s = true → c.marks = 0) (reached : Reached may s) : s.Tiered := by
  induction reached with
  | fresh limits log kept => exact ⟨rfl, Store.rooted_emptyTiers 1⟩
  | aside _ store _ _ _ ih =>
    rw [Tiered, store]
    exact ih
  | setCopy _ path v ih => exact entering_tiered.setCopy path v _ ih
  | setNode _ id v ih => exact entering_tiered.setNode id v _ ih
  | updateNode _ id updates ih => exact entering_tiered.updateNode id updates _ ih
  | resume reached done ih =>
    obtain ⟨σ, located⟩ := tidy_of_reached json reached
    exact ⟨(Store.shared_restore done).trans ih.1, Store.rooted_restore located.store.positive done⟩
  | enter _ id ih => exact entering_tiered.enterScene id _ ih
  | load _ allowed ih =>
    refine entering_tiered.loadCourse _ (fun s h => ⟨?_, h.2⟩) _ ih
    simp [h.1, json _ _ allowed]
  | reset _ _ =>
    simp only [reset, write_null]
    exact ⟨rfl, Store.rooted_emptyTiers _⟩

/-! ### An event that nobody hears -/

/-- Nothing has changed but the log, the notes and the affairs of the host. -/
structure Unchanged (was s : Session η) : Prop where
  store : s.store = was.store
  course : s.course = was.course
  scene : s.scene = was.scene
  triggers : s.triggers = was.triggers
  bus : s.bus = was.bus

theorem Unchanged.refl (s : Session η) : Unchanged s s := ⟨rfl, rfl, rfl, rfl, rfl⟩

theorem heedless_unchanged (was : Session η) : Heedless (Unchanged was) where
  addEntry _ _ h := ⟨h.store, h.course, h.scene, h.triggers, h.bus⟩
  addLine _ _ h := ⟨h.store, h.course, h.scene, h.triggers, h.bus⟩
  history _ _ h := ⟨h.store, h.course, h.scene, h.triggers, h.bus⟩

theorem Unchanged.withHost {was : Session η} (s : Session η) (host : η) (h : Unchanged was s) :
    Unchanged was { s with host } := ⟨h.store, h.course, h.scene, h.triggers, h.bus⟩

theorem Unchanged.moved {was : Session η} (s : Session η) (m : Move) (h : Unchanged was s) :
    Unchanged was (s.moved m) :=
  ⟨h.store, h.course, h.scene, h.triggers, h.bus⟩

theorem handle_of_deaf (cb : Callbacks η) {e : Event} {ts : List Trigger}
    (none : matching e ts = []) : handle cb e ts = Step.pure 0 := by
  unfold handle
  rw [none]
  rfl

section

variable {host : Host η} (aside : host.MadeOf Aside) {was : Session η}

include aside

/-- The own event of a scene that none of its triggers hears changes nothing. -/
theorem finishes_sceneEnter (unheard : was.bus.Private) {id : String}
    (deaf : matching (.sceneEnter id) was.triggers = []) (emit : Emitter η) :
    Finishes (Unchanged was) (Unchanged was) (emitOnce host emit (.sceneEnter id)) := by
  have pass : Finishes (Unchanged was) (Unchanged was)
      (interpret ⟨some (gotoScene host emit), host.onUi.map (· emit)⟩ (.sceneEnter id)) := by
    refine .look fun s hs => .after (Unchanged.moved · _) ?_
    rw [hs.triggers, handle_of_deaf _ deaf]
    exact .attempting (.pure 0) fun _ => .after (Unchanged.moved · _)
      (.bind (.ofExcept _) fun _ => .pure ())
  have told : Finishes (Unchanged was) (Unchanged was)
      (tell host emit .course (.sceneEnter id)) := by
    show Finishes _ _ (dispatch host emit _)
    obtain ⟨entry, whole⟩ := dispatch_sceneEnter id
    rw [whole]
    exact .after (fun s hs => (heedless_unchanged was).addEntry s _ hs) pass
  refine .bind (finishes_tellAll (heedless_unchanged was) (heedless_unchanged was)
    (fun s hs => hs.bus ▸ unheard)
    (fun _ hs => hs) told) fun _ => finishes_reportState aside
      (heedless_unchanged was) Unchanged.withHost _

/-- Nor does going to a scene whose triggers do not hear its event, once the scene is entered. -/
theorem finishes_arrival (unheard : was.bus.Private) {id : String}
    (deaf : matching (.sceneEnter id) was.triggers = []) (nesting : Nat) :
    Finishes (Unchanged was) (Unchanged was) (do
      match host.onScene with
      | some call => call (emit host (nesting + 1)) id
      | none => Step.pure ()
      Step.update (·.moved (.arrives id))
      emit host (nesting + 1) (.sceneEnter id)) := by
  have heard : Finishes (Unchanged was) (Unchanged was) (do
      Step.update (·.moved (.arrives id))
      emit host (nesting + 1) (.sceneEnter id)) :=
    .after (Unchanged.moved · _) (finishes_sceneEnter aside unheard deaf _)
  cases called : host.onScene with
  | none => exact heard
  | some call =>
    exact .bind (finishes_aside Unchanged.withHost (aside.onScene call called _ id)) fun _ => heard

end

/-! ### Starting from a snapshot -/

def resumption (host : Host η) (emit : Emitter η) (c : Course) (id : String) (snapshot : Value) :
    Step (Session η) Unit := do
  loadCourse c
  start host emit (some id) snapshot

/-- Where only one course is ever loaded, an active scene is one of that course. -/
theorem declared_of_reached {c : Course} (json : c.marks = 0) {may : Course → Session η → Bool}
    (own : ∀ d s, may d s = true → d = c) (reached : Reached may s) {id : String}
    (active : s.scene = some id) : (c.scene? id).isSome = true := by
  let J (p : Position) : Prop := (∀ d, p.declared = some d → d = c.triggersOf) ∧
    ∀ id, p.scene = some id → (c.triggersOf id).isSome = true
  suffices stands : J s.position by
    have := stands.2 id active
    rwa [Course.triggersOf, Option.isSome_map] at this
  clear active
  have fresh : J ⟨none, none, []⟩ :=
    ⟨fun d hd => absurd hd.symm (Option.some_ne_none d),
      fun id hid => absurd hid.symm (Option.some_ne_none id)⟩
  induction reached with
  | fresh limits log kept => exact fresh
  | aside _ _ course scene triggers ih =>
    rw [position, course, scene, triggers]
    exact ih
  | setCopy _ path v ih => exact (stable_position J).setCopy path v _ ih
  | setNode _ id v ih => exact (stable_position J).setNode id v _ ih
  | updateNode _ id updates ih => exact (stable_position J).updateNode id updates _ ih
  | resume _ _ ih => exact ih
  | @enter t _ id ih =>
    rcases position_enterScene id t with same | ⟨declared, ts, declares, inside, stands⟩
    · exact (congrArg J same).mpr ih
    · obtain rfl := ih.1 _ declares
      rw [stands]
      exact ⟨fun d hd => (Option.some.inj hd).symm,
        fun id' hid => Option.some.inj hid ▸ Option.isSome_of_eq_some inside⟩
  | load _ allowed ih =>
    obtain rfl := own _ _ allowed
    rw [position_loadCourse, triggersOf_adoptCourse json]
    exact ⟨fun d hd => (Option.some.inj hd).symm, ih.2⟩
  | reset _ _ =>
    rw [position_reset]
    exact fresh

/-- A new session that has loaded a course. -/
theorem exists_loaded {c : Course} (json : c.marks = 0) (limits : Limits) (log : RunLog)
    (kept : η) :
    ∃ u d, loadCourse c (fresh limits log kept) = (.done (), u) ∧ u.Tidy ∧ u.course = some d ∧
      d.triggersOf = c.triggersOf ∧ u.scene = none ∧ u.bus = (fresh limits log kept).bus := by
  obtain ⟨σ, sited⟩ := Store.sited_empty
  have tidy : (fresh limits log kept).Tidy := ⟨σ, sited, fun d loaded => nomatch loaded⟩
  obtain ⟨u, seeded, same⟩ := leads_seed_stayed "globals" globalVars
    (holding c (fresh limits log kept)) _
    ⟨⟨rfl, rfl⟩, rfl⟩
  have loaded : loadCourse c (fresh limits log kept) = (.done (), u) :=
    (loadCourse_eq c _).trans seeded
  have stands := position_loadCourse c (fresh limits log kept)
  have around : (loadCourse c (fresh limits log kept)).2.surroundings =
      (fresh limits log kept).surroundings :=
    (entering_surroundings (· = (fresh limits log kept).surroundings)).loadCourse c
      (fun _ h => h) _ rfl
  have tidy' := tidy.loadCourse json
  rw [loaded] at stands around tidy'
  obtain ⟨d, course, declares⟩ := Option.map_eq_some_iff.1 (congrArg Position.declared stands)
  exact ⟨u, d, loaded, tidy', course, declares.trans (triggersOf_adoptCourse json _),
    congrArg Position.scene stands,
    congrArg Surroundings.bus around⟩

theorem start_resumes {u : Session η} {d : Course} (loaded : u.course = some d) {id : String}
    (named : id ≠ "") {snapshot : Value} (held : snapshot.truthy = true) {store : Store}
    (done : u.store.restore snapshot = .ok store) (host : Host η) (emit : Emitter η) :
    start host emit (some id) snapshot u = gotoScene host emit id
      (Session.addEntry { u with store }
        { level := .info, category := .scene, message :=
          s!"Starting course from scene: {id}" }) := by
  unfold start
  show Step.bind Step.current _ u = _
  simp only [Step.bind, Step.current, loaded, write_null]
  rw [if_pos held, done, ← loaded]
  rfl

/-- Who goes to another scene that does not hear its own event comes to an end there. -/
theorem gotoScene_arrives {host : Host η} (aside : host.MadeOf Aside) {v : Session η}
    (tidy : v.Tidy) (unheard : v.bus.Private) {d : Course} (loaded : v.course = some d)
    {id : String} {scene : Scene} (there : d.scene? id = some scene) (away : v.scene ≠ some id)
    (deaf : matching (.sceneEnter id) scene.triggers = []) (nesting : Nat) :
    ∃ r t, (gotoScene host (emit host (nesting + 1)) id).attempt v = (.done r, t) ∧
      t.scene = some id ∧
      t.store.root.plain = Value.putAll
        (readings "scene" (sceneVars id t)) v.store.resetScene.root.plain := by
  obtain ⟨t, entered, -, seen⟩ := enterScene_anew tidy loaded there away
  have stands : t.position = ⟨v.position.declared, some id, scene.triggers⟩ := by
    rw [← position_activate id scene (v.scene != some id) v,
      ← enterScene_of_some loaded there, entered]
  have around : t.surroundings = v.surroundings := by
    have kept := (entering_surroundings (· = v.surroundings)).enterScene id v rfl
    rwa [entered] at kept
  have triggers : t.triggers = scene.triggers := congrArg Position.triggers stands
  have bus : t.bus = v.bus := congrArg Surroundings.bus around
  obtain ⟨ends, same⟩ := finishes_arrival aside (bus ▸ unheard) (triggers ▸ deaf) nesting t
    (Unchanged.refl t)
  obtain ⟨r, done⟩ := Step.attempt_of_ends ends
  have whole : gotoScene host (emit host (nesting + 1)) id v = _ := Step.bind_of_done entered
  refine ⟨r, _, ?_, same.scene.trans (congrArg Position.scene stands), ?_⟩
  · rw [Step.attempt] at done ⊢
    rw [whole]
    exact done
  · rw [same.store, seen, sceneVars, sceneVars, same.course]

/-- Wherever a run of one course stands, a new session that starts the course in the active scene
from a snapshot of the run comes to an end in that scene, if none of its triggers hears its own
event and the host keeps to itself. The state is that of the snapshot with the scene's variables, as
they stand then, written into an empty tier, and without nodes; so it is the state of the snapshot
just if the tiers of the scene and of the nodes were as on arrival. A scene without a name is no
scene to start in; the course starts over from its first one. -/
theorem resumes_iff {c : Course} (json : c.marks = 0) {may : Course → Session η → Bool}
    (own : ∀ d s, may d s = true → d = c) (reached : Reached may s) {id : String}
    (active : s.scene = some id)
    (deaf : ∀ scene, c.scene? id = some scene → matching (.sceneEnter id) scene.triggers = [])
    {θ : Type} {host : Host θ} (aside : host.MadeOf Aside) (nesting : Nat) (limits : Limits)
    (log : RunLog) (kept : θ) :
    (id = "" → resumption host (emit host nesting) c id s.store.root =
        (loadCourse c >>= fun _ => start host (emit host nesting) none s.store.root)) ∧
      (id ≠ "" → ∃ r t tier, (resumption host (emit host (nesting + 1)) c id s.store.root).attempt
        (fresh limits log kept) =
          (.done r, t) ∧
        t.scene = some id ∧ (Store.empty.sown "scene" (sceneVars id t)).tier "scene" = .ok tier ∧
        t.store.root.plain = ((s.store.setTier "scene" tier).setTier "nodes" .emptyMap).root.plain ∧
        (t.store.root.plain = s.store.root.plain ↔
          (s.store.tier "scene").map Value.plain = .ok tier.plain ∧
          (s.store.tier "nodes").map Value.plain = .ok .emptyMap)) := by
  refine ⟨fun empty => ?_, fun named => ?_⟩
  · subst empty
    rfl
  have rooted := (tiered_of_reached (fun d s allowed => own d s allowed ▸ json) reached).2
  obtain ⟨u, d, loaded, ⟨σ, located⟩, course, declares, nowhere, bus⟩ :=
    exists_loaded json limits log kept
  obtain ⟨store, restored, same⟩ := Store.restore_of_rooted (s := u.store) (m := 0) rooted
    fun shared => nomatch located.store.unshared.symm.trans shared
  obtain ⟨τ, grown, sited⟩ := located.store.restore restored
  -- the scene is declared, and it is deaf in the loaded course as well
  obtain ⟨scene, there⟩ := Option.isSome_iff_exists.1 (declared_of_reached json own reached active)
  have declared := congrFun declares id
  rw [Course.triggersOf_of_scene? there] at declared
  obtain ⟨scene', there', triggers⟩ := Option.map_eq_some_iff.1 declared
  have held : s.store.root.truthy = true := by
    obtain ⟨rest, entries⟩ := rooted.tiers
    rw [Store.root, Value.truthy]
    cases tiers : s.store.tiers with
    | nil => simp [tiers, tierNames] at entries
    | cons e es => rfl
  have away : u.scene ≠ some id := by simp [nowhere]
  have started := start_resumes course named held restored host (emit host (nesting + 1))
  obtain ⟨r, t, arrives, here, seen⟩ :=
    gotoScene_arrives aside (v := Session.addEntry { u with store } _)
    ⟨τ, (located.withStore grown sited).of_same rfl rfl⟩
    ((congrArg Bus.Private bus).mpr ⟨fun _ member => absurd member List.not_mem_nil,
      List.Sublist.refl _⟩) course there'
    away
    (triggers ▸ deaf scene there) nesting
  obtain ⟨tier, found, sown⟩ := Store.plain_sown_scene store (sceneVars id t)
  have reads := (seen.trans sown).trans (Store.plain_setTiers_congr same tier .emptyMap)
  refine ⟨r, t, tier, ?_, here, found, reads, ?_⟩
  · rw [Step.attempt] at arrives ⊢
    rw [resumption, show (loadCourse c >>= _) (fresh limits log kept) = _
      from Step.bind_of_done loaded, started]
    exact arrives
  · rw [reads]
    exact Store.plain_setTiers_iff s.store tier

end Session

/-! ### A visitor who comes back -/

namespace Course

open Session ScriptHost

def counter : Course where
  schema := "vvce.dsl.v1"
  about := ⟨"counter", "1.0.0", []⟩
  globals := ⟨[], []⟩
  start := "room"
  scenes := [
    { id := "room"
      vars := [("count", .int 0)]
      nodes := []
      triggers := [⟨⟨"tap", none, []⟩, none, [.incVar "scene.vars.count" (.int 1)], none, []⟩]
      extras := [] }]
  extras := []

def visit : Step (Session ScriptHost) Unit := do
  Session.start (callbacks {}) (emit (callbacks {}) 3) none .null
  emit (callbacks {}) 3 tap
  changeNode (callbacks {}) (emit (callbacks {}) 3) "lamp" (.object [("on", .bool true)])

def left : Session ScriptHost := (visit (loadCourse counter (fresh {} {} {})).2).2

def back : Session ScriptHost :=
  (resumption (callbacks {}) (emit (callbacks {}) 3) counter "room" left.store.root
    (fresh {} {} {})).2

def taps (state : Value) : Option Int :=
  match state.under ["scene", "vars", "count"] with
  | some (.int n) => some n
  | _ => none

theorem deaf_counter (scene : Scene) (there : counter.scene? "room" = some scene) :
    matching (.sceneEnter "room") scene.triggers = [] := by
  obtain rfl := Option.some.inj (there.symm.trans (show counter.scene? "room" = some _ from rfl))
  decide

/-- The visitor comes back to the room, and the tap is forgotten. -/
theorem back_forgets : left.scene = some "room" ∧ taps left.store.root.plain = some 1 ∧
    (∀ scene, counter.scene? "room" = some scene →
      matching (.sceneEnter "room") scene.triggers = []) ∧
    back.scene = some "room" ∧ taps back.store.root.plain = some 0 ∧
    back.store.root.plain ≠ left.store.root.plain := by
  have before : left.scene = some "room" ∧ taps left.store.root.plain = some 1 := by decide +kernel
  have behind : back.scene = some "room" ∧ taps back.store.root.plain = some 0 := by decide +kernel
  refine ⟨before.1, before.2, deaf_counter, behind.1, behind.2, fun same => ?_⟩
  have count := behind.2
  rw [same, before.2] at count
  exact absurd count (by decide)

theorem reached_left {may : Course → Session ScriptHost → Bool} (mine : ∀ s, may counter s = true) :
    Reached may left := by
  have made : (callbacks {}).MadeOf (Errand may) :=
    (madeOf_callbacks _).mono fun _ _ called => .visit (.call called)
  have asked : visit.MadeOf (Demand may (callbacks {}) (emit (callbacks {}) 3)) :=
    .andThen (.call (.operation (.start none .null))) (.andThen (.call (.operation (.emit tap)))
      (.call (.operation (.changeNode "lamp" _))))
  exact keeps_reached made 3 asked _ (.load (.fresh {} {} {}) (mine _))

/-- The lamp alone is reason enough that the state is another one. -/
theorem resumes_iff_counter :
    ∃ r t, (resumption (callbacks {}) (emit (callbacks {}) 3) counter "room"
    left.store.root).attempt (fresh {} {} {}) = (.done r, t) ∧ t.scene = some "room" ∧
      t.store.root.plain ≠ left.store.root.plain := by
  classical
  let may (c : Course) (_ : Session ScriptHost) : Bool := decide (c = counter)
  have own (c : Course) (s : Session ScriptHost) (allowed : may c s = true) : c = counter :=
    of_decide_eq_true allowed
  have reached : Reached may left := reached_left fun _ => decide_eq_true rfl
  have active : left.scene = some "room" := by decide +kernel
  obtain ⟨-, resumes⟩ := resumes_iff (by decide) own reached active deaf_counter
    (aside_callbacks {}) 2 {} {} {}
  obtain ⟨r, t, tier, ends, here, -, -, same⟩ := resumes (by decide)
  refine ⟨r, t, ends, here, fun reads => ?_⟩
  have nodes := congrArg (fun v => (v.toOption.bind (·.under ["lamp"])).isSome) (same.1 reads).2
  have lamp : (((left.store.tier "nodes").map Value.plain).toOption.bind
      (·.under ["lamp"])).isSome = true := by
    decide +kernel
  rw [lamp] at nodes
  exact absurd nodes (by decide)

end Course

end SceneCourse
