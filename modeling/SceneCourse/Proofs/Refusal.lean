import SceneCourse.Proofs.SceneEntry

/-! Navigation that fails. A scene is looked for before anything is done about it, so whoever wants
to go to a scene that is not there finds the session as it was, but for an entry in the log. Whoever
starts a course checks that there is one, takes over a snapshot, and only then looks for the scene.
Proved: what navigation does when its scene is in its way, whatever the host would have done; all
but the state is always left alone, and the state is the one of the snapshot already, so it reads as
before only if there is no snapshot or the snapshot holds nothing new. -/

namespace SceneCourse

/-- The scene of a course that a value names; only a text names one. -/
def Course.named? (c : Course) : Value → Option Scene
  | .str id => c.scene? id
  | _ => none

/-- The scene that a start leads to. A scene without a name stands for the first one. -/
def Course.destination (c : Course) : Option String → String
  | none | some "" => c.start
  | some id => id

namespace Session

variable {η : Type} {s t : Session η} {c : Course}

/-! ### What is in the way -/

/-- What is in the way of going to the scene that a value names. -/
def obstacle (s : Session η) (scene : Value) : Option Fault :=
  match s.course with
  | none => some (.noCourse false)
  | some c => if (c.named? scene).isNone then some (.noScene scene.shown) else none

theorem obstacle_cases {scene : Value} {e : Fault} (blocked : s.obstacle scene = some e) :
    (s.course = none ∧ e = .noCourse false) ∨
      ∃ c, s.course = some c ∧ c.named? scene = none ∧ e = .noScene scene.shown := by
  unfold obstacle at blocked
  split at blocked
  next unloaded => exact Or.inl ⟨unloaded, (Option.some.inj blocked).symm⟩
  next c loaded =>
    split at blocked
    next missing =>
      exact Or.inr ⟨c, loaded, Option.isNone_iff_eq_none.1 missing, (Option.some.inj blocked).symm⟩
    next => cases blocked

theorem obstacle_of_missing (loaded : s.course = some c) {scene : Value}
    (missing : c.named? scene = none) : s.obstacle scene = some (.noScene scene.shown) := by
  unfold obstacle
  rw [loaded]
  exact if_pos (Option.isNone_iff_eq_none.2 missing)

theorem exists_of_free {scene : Value} (free : s.obstacle scene = none) :
    ∃ c there, s.course = some c ∧ c.named? scene = some there := by
  unfold obstacle at free
  split at free
  next => cases free
  next c loaded =>
    split at free
    next => cases free
    next found =>
      obtain ⟨there, named⟩ := Option.ne_none_iff_exists'.1 fun missing =>
        found (Option.isNone_iff_eq_none.2 missing)
      exact ⟨c, there, loaded, named⟩

/-- The session is as it was, but for its log and the history of wishes. -/
def Intact (was s : Session η) : Prop := s = { was with log := s.log, passages := s.passages }

theorem Intact.refl (s : Session η) : s.Intact s := rfl

theorem Intact.addEntry (s : Session η) (e : LogEntry) : s.Intact (s.addEntry e) := rfl

theorem Intact.trans {r : Session η} (h : r.Intact s) (h' : s.Intact t) : r.Intact t := by
  rw [Intact] at h h'
  rw [Intact, h', h]

theorem Intact.store (h : s.Intact t) : t.store = s.store := by rw [h]

def turnedAway (name : String) (s : Session η) : Session η :=
  { s.addEntry { level := .error, category := .scene, message := s!"Scene not found: {name}" } with
    passages := .refused name :: s.passages }

theorem Intact.turnedAway (name : String) (s : Session η) : s.Intact (s.turnedAway name) := rfl

theorem refuseScene_eq (name : String) (s : Session η) :
    refuseScene name s = (.failed (.noScene name), s.turnedAway name) := by
  simp only [refuseScene, write_null]
  rfl

/-! ### Going to a scene -/

/-- Before the scene is found nobody is called. -/
theorem gotoScene_of_failed {id : String} {e : Fault} (failed : enterScene id s = (.failed e, t))
    (host : Host η) (emit : Emitter η) : gotoScene host emit id s = (.failed e, t) := by
  show Step.bind (enterScene id) _ s = _
  rw [Step.bind, failed]

/-- Whoever cannot go to a scene is told what is in the way and finds the session as it was. -/
theorem enterScene_of_obstacle {id : String} {e : Fault} (blocked : s.obstacle (.str id) = some e) :
    ∃ t, s.Intact t ∧ enterScene id s = (.failed e, t) := by
  rcases obstacle_cases blocked with ⟨unloaded, rfl⟩ | ⟨c, loaded, missing, rfl⟩
  · refine ⟨s, .refl s, ?_⟩
    rw [enterScene]
    show Step.bind Step.current _ s = _
    simp only [Step.bind, Step.current, unloaded]
    rfl
  · refine ⟨s.turnedAway id, .turnedAway id s, ?_⟩
    rw [enterScene_of_none loaded missing, refuseScene_eq]
    rfl

theorem gotoNamed_of_obstacle {scene : Value} {e : Fault} (blocked : s.obstacle scene = some e) :
    ∃ t, s.Intact t ∧ ∀ (host : Host η) (emit : Emitter η), gotoNamed host emit scene s =
      (.failed e, t) := by
  by_cases text : ∃ id, scene = .str id
  · obtain ⟨id, rfl⟩ := text
    obtain ⟨t, intact, failed⟩ := enterScene_of_obstacle blocked
    exact ⟨t, intact, gotoScene_of_failed failed⟩
  -- what is no text names no scene, with or without a course
  have other (host : Host η) (emit : Emitter η) : gotoNamed host emit scene s =
      (if s.course.isNone then Step.fail (.noCourse false)
          else refuseScene scene.shown : Step (Session η) Unit) s := by
    cases scene <;> first | rfl | exact absurd ⟨_, rfl⟩ text
  rcases obstacle_cases blocked with ⟨unloaded, rfl⟩ | ⟨c, loaded, -, rfl⟩
  · exact ⟨s, .refl s, fun host emit => by rw [other, unloaded]; rfl⟩
  · exact ⟨s.turnedAway scene.shown, .turnedAway _ s,
      fun host emit => by rw [other, loaded]; exact refuseScene_eq _ s⟩

/-- If nothing is in the way, the scene is entered. -/
theorem enterScene_of_free {id : String} (free : s.obstacle (.str id) = none) :
    ∃ t, enterScene id s = (.done (), t) ∧ t.scene = some id := by
  obtain ⟨c, scene, loaded, there⟩ := exists_of_free free
  have stands := position_activate id scene (s.scene != some id) s
  rw [enterScene_of_some loaded there]
  cases anew : s.scene != some id with
  | true =>
    obtain ⟨t, seeded, -⟩ := leads_seed_position
      (fun _ => True) "scene" (sceneVars id) (cleared id s) trivial
    rw [anew, activate_anew seeded] at stands
    exact ⟨_, activate_anew seeded, congrArg Position.scene stands⟩
  | false =>
    simp only [activate, write_null]
    exact ⟨_, rfl, rfl⟩

/-! ### Starting a course -/

/-- The state that a start begins with: its snapshot, if there is one. -/
def takeover (s : Session η) (snapshot : Value) : Except Fault Store :=
  if snapshot.truthy then s.store.restore snapshot else .ok s.store

theorem start_of_unloaded (unloaded : s.course = none) (host : Host η) (emit : Emitter η)
    (scene : Option String) (snapshot : Value) :
    start host emit scene snapshot s = (.failed (.noCourse true), s) := by
  unfold start
  show Step.bind Step.current _ s = _
  simp only [Step.bind, Step.current, unloaded]
  rfl

theorem start_of_bad_snapshot (loaded : s.course = some c) {snapshot : Value} {e : Fault}
    (bad : s.takeover snapshot = .error e) (host : Host η) (emit : Emitter η)
    (scene : Option String) : start host emit scene snapshot s = (.failed e, s) := by
  unfold takeover at bad
  split at bad
  next held =>
    unfold start
    show Step.bind Step.current _ s = _
    simp only [Step.bind, Step.current, loaded]
    rw [if_pos held, bad]
    rfl
  next => cases bad

/-- A start takes over its snapshot and then goes to its scene. -/
theorem start_of_takeover (loaded : s.course = some c) {snapshot : Value} {store : Store}
    (taken : s.takeover snapshot = .ok store) (host : Host η) (emit : Emitter η)
    (scene : Option String) :
    start host emit scene snapshot s = gotoScene host emit (c.destination scene)
      (Session.addEntry { s with store }
        { level := .info, category := .scene, message :=
          s!"Starting course from scene: {c.destination scene}" }) := by
  unfold takeover at taken
  unfold start Course.destination
  show Step.bind Step.current _ s = _
  simp only [Step.bind, Step.current, loaded, write_null]
  split at taken
  next held =>
    rw [if_pos held, taken, ← loaded]
    rfl
  next held =>
    obtain rfl := Except.ok.inj taken
    rw [if_neg held, ← loaded]
    rfl

theorem start_of_obstacle (loaded : s.course = some c) {scene : Option String} {e : Fault}
    (blocked : s.obstacle (.str (c.destination scene)) = some e) {snapshot : Value} {store : Store}
    (taken : s.takeover snapshot = .ok store) : ∃ t, Intact { s with store } t ∧
      ∀ (host : Host η) (emit : Emitter η), start host emit scene snapshot s = (.failed e, t) := by
  let begun : Session η := Session.addEntry { s with store }
    { level := .info, category := .scene, message :=
      s!"Starting course from scene: {c.destination scene}" }
  have still : begun.obstacle (.str (c.destination scene)) = some e := blocked
  obtain ⟨t, intact, failed⟩ := enterScene_of_obstacle still
  refine ⟨t, (Intact.addEntry { s with store } _).trans intact, fun host emit => ?_⟩
  rw [start_of_takeover loaded taken]
  exact gotoScene_of_failed failed host emit

/-- The state reads as it would after taking over a snapshot. -/
def ReadsAs (s : Session η) (snapshot : Value) : Prop :=
  ∃ store, s.store.restore snapshot = .ok store ∧ store.root.plain = s.store.root.plain

theorem takeover_reads_iff {snapshot : Value} {store : Store}
    (taken : s.takeover snapshot = .ok store) :
    store.root.plain = s.store.root.plain ↔ snapshot.truthy = false ∨ s.ReadsAs snapshot := by
  unfold takeover at taken
  split at taken
  next held =>
    constructor
    · exact fun same => Or.inr ⟨store, taken, same⟩
    · rintro (none | ⟨store', restored, same⟩)
      · exact absurd held (by simp [none])
      · rwa [Except.ok.inj (taken.symm.trans restored)]
  next none =>
    obtain rfl := Except.ok.inj taken
    simp [none]

theorem takeover_of_falsy {snapshot : Value} (none : snapshot.truthy = false) :
    s.takeover snapshot = .ok s.store := by
  rw [takeover, none]
  rfl

/-- Whoever cannot go to a scene finds the session as it was and is called back by nobody; whoever
can go there enters it. A start without a course leaves all as it was, and so does one whose
snapshot cannot be taken over. A start that is kept from its scene leaves all but the state as it
was; the state is that of the snapshot then, so the session is as it was if there is no snapshot,
and the state reads as it did just if there is none or the state is that of the snapshot already. -/
theorem navigation_failing (s : Session η) :
    (∀ scene e, s.obstacle scene = some e →
      ∃ t, s.Intact t ∧ ∀ (host : Host η) (emit : Emitter η), gotoNamed host emit scene s =
        (.failed e, t)) ∧
    (∀ id, s.obstacle (.str id) = none → ∃ t, enterScene id s = (.done (), t) ∧ t.scene = some id) ∧
    (s.course = none → ∀ (host : Host η) (emit : Emitter η) scene snapshot,
      start host emit scene snapshot s = (.failed (.noCourse true), s)) ∧
    (∀ c, s.course = some c → ∀ snapshot e, s.takeover snapshot = .error e →
      ∀ (host : Host η) (emit : Emitter η) scene, start host emit scene snapshot s =
        (.failed e, s)) ∧
    ∀ c, s.course = some c → ∀ scene e, s.obstacle (.str (c.destination scene)) = some e →
      ∀ snapshot store, s.takeover snapshot = .ok store → ∃ t, Intact { s with store } t ∧
        (∀ (host : Host η) (emit : Emitter η), start host emit scene snapshot s = (.failed e, t)) ∧
        (snapshot.truthy = false → s.Intact t) ∧
        (t.store.root.plain = s.store.root.plain ↔ snapshot.truthy = false ∨
          s.ReadsAs snapshot) := by
  refine ⟨fun scene e => gotoNamed_of_obstacle, fun id => enterScene_of_free, start_of_unloaded,
    fun c loaded snapshot e bad host emit scene =>
      start_of_bad_snapshot loaded bad host emit scene, ?_⟩
  intro c loaded scene e blocked snapshot store taken
  obtain ⟨t, intact, failed⟩ := start_of_obstacle loaded blocked taken
  refine ⟨t, intact, failed, fun none => ?_, ?_⟩
  · obtain rfl := Except.ok.inj (taken.symm.trans (takeover_of_falsy none))
    exact intact
  · rw [intact.store]
    exact takeover_reads_iff taken

end Session

/-! ### Looking for the cellar -/

namespace Course

open Session ScriptHost

def lent : Value := .object [("globals", .object [("vars", .object [("score", .int 42)])])]

def hasScore (state : Value) : Bool := (state.under ["globals", "vars", "score"]).isSome

/-- Nobody gets to the cellar. -/
theorem exists_course_cellar : ∃ c, houseTour.course = some c ∧
    houseTour.obstacle (.str (c.destination (some "cellar"))) = some (.noScene "cellar") := by
  have there : houseTour.course.isSome = true := by decide +kernel
  have missing : (houseTour.course.bind (·.named? (.str "cellar"))).isNone =
      true := by decide +kernel
  obtain ⟨c, loaded⟩ := Option.isSome_iff_exists.1 there
  rw [loaded] at missing
  exact ⟨c, loaded, obstacle_of_missing loaded (Option.isNone_iff_eq_none.1 missing)⟩

theorem exists_takeover_lent : ∃ store, houseTour.takeover lent = .ok store := by
  have done : (houseTour.takeover lent).toOption.isSome = true := by decide +kernel
  cases taken : houseTour.takeover lent with
  | ok store => exact ⟨store, rfl⟩
  | error e =>
    rw [taken] at done
    exact nomatch done

/-- The visitor of the house cannot start in the cellar, with a snapshot or without. -/
theorem navigation_failing_house : ∃ store t u, houseTour.takeover lent = .ok store ∧
    Session.start (callbacks {}) (emit (callbacks {}) 5)
    (some "cellar") lent houseTour = (.failed (.noScene "cellar"), t) ∧
    Intact { houseTour with store } t ∧
    Session.start (callbacks {}) (emit (callbacks {}) 5)
    (some "cellar") .null houseTour = (.failed (.noScene "cellar"), u) ∧
    houseTour.Intact u := by
  obtain ⟨c, loaded, blocked⟩ := exists_course_cellar
  obtain ⟨store, taken⟩ := exists_takeover_lent
  obtain ⟨-, -, -, -, starts⟩ := navigation_failing houseTour
  obtain ⟨t, intact, failed, -⟩ := starts c loaded (some "cellar") _ blocked lent store taken
  obtain ⟨u, -, failed', same, -⟩ := starts c loaded
    (some "cellar") _ blocked .null houseTour.store rfl
  exact ⟨store, t, u, taken, failed _ _, intact, failed' _ _, same rfl⟩

/-- Whoever starts in the cellar is refused, and yet the state is the other visitor's from then
on. -/
theorem start_cellar_takes_over : ∃ t,
    Session.start (callbacks {}) (emit (callbacks {}) 5)
    (some "cellar") lent houseTour = (.failed (.noScene "cellar"), t) ∧
      hasScore houseTour.store.root.plain = false ∧ hasScore t.store.root.plain = true ∧
      ¬houseTour.Intact t := by
  have before : hasScore houseTour.store.root.plain = false := by decide +kernel
  have behind : hasScore (Session.start (callbacks {}) (emit (callbacks {}) 5) (some "cellar") lent
      houseTour).2.store.root.plain = true := by decide +kernel
  obtain ⟨c, loaded, blocked⟩ := exists_course_cellar
  obtain ⟨store, taken⟩ := exists_takeover_lent
  obtain ⟨t, -, failed⟩ := start_of_obstacle loaded blocked taken
  rw [failed] at behind
  refine ⟨t, failed _ _, before, behind, fun intact => ?_⟩
  rw [intact.store, before] at behind
  exact nomatch behind

end Course

end SceneCourse
