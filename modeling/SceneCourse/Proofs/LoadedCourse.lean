import SceneCourse.Proofs.ClearStore
import SceneCourse.Proofs.Invariance

/-! The course that a session has loaded. Loading copies the document, so all its containers have
marks of their own. As long as the state holds no mapping of the course, nothing that is asked of
the session changes the course but entering a scene. -/

namespace SceneCourse

open Value (Edit)

/-! ### Variables -/

namespace Value

theorem isMapping_copy (next : Nat) (v : Value) : (copy next v).1.isMapping = v.isMapping := by
  cases v with
  | float x =>
    unfold copy
    split <;> simp_all [isMapping]
  | _ => rfl

end Value

theorem fst_mapFields (f : Value → Value) (vs : List (String × Value)) :
    (mapFields f vs).map Prod.fst = vs.map Prod.fst := by simp [mapFields]

theorem mapFields_eq_self {f : Value → Value} {vs : List (String × Value)}
    (h : ∀ p ∈ vs, f p.2 = p.2) : mapFields f vs = vs := by
  rw [mapFields, List.map_congr_left (g := id), List.map_id]
  rintro ⟨k, v⟩ member
  exact congrArg (Prod.mk k) (h (k, v) member)

theorem mem_of_lookup {vs : List (String × Value)} {k : String} {v : Value}
    (h : vs.lookup k = some v) : (k, v) ∈ vs := by
  obtain ⟨before, after, rfl, -⟩ := List.lookup_eq_some_iff.1 h
  simp

theorem lookup_mapFields (f : Value → Value) (vs : List (String × Value)) (k : String) :
    (mapFields f vs).lookup k = (vs.lookup k).map f := by
  induction vs with
  | nil => rfl
  | cons p vs ih =>
    obtain ⟨l, v⟩ := p
    show List.lookup k ((l, f v) :: mapFields f vs) = _
    rw [List.lookup_cons, List.lookup_cons, ih]
    cases k == l <;> rfl

namespace Course

def allVars (c : Course) : List (String × Value) := c.globals.vars ++ c.scenes.flatMap (·.vars)

def varMarks (c : Course) : List Nat := c.allVars.flatMap fun p => p.2.marks

/-- No variable that is ever written into the state is a mapping. -/
structure Bare (c : Course) : Prop where
  globals : ∀ p ∈ c.globals.vars, p.2.isMapping = false
  scenes : ∀ id sc, c.scene? id = some sc → ∀ p ∈ sc.vars, p.2.isMapping = false

theorem allVars_mapVars (f : Value → Value) (c : Course) :
    (c.mapVars f).allVars = mapFields f c.allVars := by
  have scenes : (c.scenes.map (Scene.mapVars f)).flatMap (·.vars) =
      mapFields f (c.scenes.flatMap (·.vars)) := by
    simp [List.flatMap_map, mapFields, List.map_flatMap, Scene.mapVars]
  rw [allVars, allVars, mapFields, List.map_append]
  exact congrArg _ scenes

theorem mapVars_eq_self {c : Course} {f : Value → Value} (h : ∀ p ∈ c.allVars, f p.2 = p.2) :
    c.mapVars f = c := by
  have globals : mapFields f c.globals.vars = c.globals.vars :=
    mapFields_eq_self fun p hp => h p (List.mem_append_left _ hp)
  have scenes : c.scenes.map (Scene.mapVars f) = c.scenes := by
    rw [List.map_congr_left (g := id), List.map_id]
    intro sc member
    have vars : mapFields f sc.vars = sc.vars := by
      refine mapFields_eq_self fun p hp => h p (List.mem_append_right _ ?_)
      exact List.mem_flatMap.2 ⟨sc, member, hp⟩
    rw [Scene.mapVars, vars]
    rfl
  rw [mapVars, globals, scenes]

end Course

/-! ### Copies of a document -/

namespace Session

open Value

theorem plain_adoptVars (next : Nat) (vs : List (String × Value)) :
    mapFields plain (adoptVars next vs).1 = mapFields plain vs := by
  induction vs generalizing next with
  | nil => rfl
  | cons p vs ih =>
    obtain ⟨k, v⟩ := p
    have rest := ih (copy next v).2
    simp only [mapFields] at rest ⊢
    simp only [adoptVars, List.map_cons, plain_copy, rest]

theorem marks_adoptVars (next : Nat) (vs : List (String × Value)) :
    next ≤ (adoptVars next vs).2 ∧
      ∀ p ∈ (adoptVars next vs).1, ∀ m ∈ marks p.2, next ≤ m ∧ m < (adoptVars next vs).2 := by
  induction vs generalizing next with
  | nil => exact ⟨Nat.le_refl _, fun p hp => absurd hp List.not_mem_nil⟩
  | cons p vs ih =>
    obtain ⟨k, v⟩ := p
    have first := marks_copy next v
    have others := ih (copy next v).2
    simp only [adoptVars]
    refine ⟨by omega, fun p hp m hm => ?_⟩
    rcases List.mem_cons.1 hp with rfl | later
    · have := first.2 m hm
      omega
    · have := others.2 p later m hm
      omega

theorem isMapping_adoptVars (next : Nat) (vs : List (String × Value))
    (h : ∀ p ∈ vs, p.2.isMapping = false) : ∀ p ∈ (adoptVars next vs).1, p.2.isMapping = false := by
  induction vs generalizing next with
  | nil => exact fun p hp => absurd hp List.not_mem_nil
  | cons p vs ih =>
    obtain ⟨k, v⟩ := p
    intro p hp
    rcases List.mem_cons.1 hp with rfl | later
    · exact (isMapping_copy next v).trans (h (k, v) List.mem_cons_self)
    · exact ih _ (fun q hq => h q (List.mem_cons_of_mem _ hq)) p later

def adoptScene (next : Nat) (sc : Scene) : Scene := { sc with vars := (adoptVars next sc.vars).1 }

theorem plain_adoptScenes (next : Nat) (ss : List Scene) :
    (adoptScenes next ss).1.map (Scene.mapVars plain) = ss.map (Scene.mapVars plain) := by
  induction ss generalizing next with
  | nil => rfl
  | cons s ss ih =>
    have rest := ih (adoptVars next s.vars).2
    simp only [adoptScenes, List.map_cons, rest, Scene.mapVars, plain_adoptVars]

theorem marks_adoptScenes (next : Nat) (ss : List Scene) :
    next ≤ (adoptScenes next ss).2 ∧
      ∀ p ∈ (adoptScenes next ss).1.flatMap (·.vars), ∀ m ∈ marks p.2, next ≤ m ∧
      m < (adoptScenes next ss).2 := by
  induction ss generalizing next with
  | nil => exact ⟨Nat.le_refl _, fun p hp => absurd hp List.not_mem_nil⟩
  | cons s ss ih =>
    have first := marks_adoptVars next s.vars
    have others := ih (adoptVars next s.vars).2
    simp only [adoptScenes, List.flatMap_cons]
    refine ⟨by omega, fun p hp m hm => ?_⟩
    rcases List.mem_append.1 hp with here | later
    · have := first.2 p here m hm
      omega
    · have := others.2 p later m hm
      omega

/-- A scene is found where it was found before, with copies as its variables. -/
theorem find?_adoptScenes (next : Nat) (ss : List Scene) (id : String) : ∃ from_, next ≤ from_ ∧
    (adoptScenes next ss).1.find? (·.id == id) = (ss.find? (·.id == id)).map
      (adoptScene from_) := by
  induction ss generalizing next with
  | nil => exact ⟨next, Nat.le_refl _, rfl⟩
  | cons s ss ih =>
    simp only [adoptScenes, List.find?_cons]
    cases s.id == id with
    | true => exact ⟨next, Nat.le_refl _, rfl⟩
    | false =>
      obtain ⟨from_, later, found⟩ := ih (adoptVars next s.vars).2
      exact ⟨from_, Nat.le_trans (marks_adoptVars next s.vars).1 later, found⟩

section Adopted

variable {c : Course} (json : c.marks = 0) (next : Nat)

include json

theorem adoptCourse_eq : adoptCourse next c =
    ({ c with
        globals := { c.globals with vars := (adoptVars next c.globals.vars).1 }
        scenes := (adoptScenes (adoptVars next c.globals.vars).2 c.scenes).1 },
      (adoptScenes (adoptVars next c.globals.vars).2 c.scenes).2) := if_pos json

theorem plain_adoptCourse : (adoptCourse next c).1.mapVars plain = c.mapVars plain := by
  rw [adoptCourse_eq json]
  simp only [Course.mapVars, plain_adoptVars, plain_adoptScenes]

theorem marks_adoptCourse : next ≤ (adoptCourse next c).2 ∧
    ∀ m ∈ (adoptCourse next c).1.varMarks, next ≤ m ∧ m < (adoptCourse next c).2 := by
  rw [adoptCourse_eq json]
  have globals := marks_adoptVars next c.globals.vars
  have scenes := marks_adoptScenes (adoptVars next c.globals.vars).2 c.scenes
  refine ⟨Nat.le_trans globals.1 scenes.1, fun m hm => ?_⟩
  obtain ⟨p, hp, there⟩ := List.mem_flatMap.1 hm
  show next ≤ m ∧ m < (adoptScenes (adoptVars next c.globals.vars).2 c.scenes).2
  rcases List.mem_append.1 hp with global | scene
  · have := globals.2 p global m there
    omega
  · have := scenes.2 p scene m there
    omega

theorem bare_adoptCourse (bare : c.Bare) : (adoptCourse next c).1.Bare := by
  rw [adoptCourse_eq json]
  constructor
  · exact isMapping_adoptVars next c.globals.vars bare.globals
  · intro id sc found
    obtain ⟨from_, -, same⟩ := find?_adoptScenes (adoptVars next c.globals.vars).2 c.scenes id
    obtain ⟨sc', found', rfl⟩ := Option.map_eq_some_iff.1 (same.symm.trans found)
    exact isMapping_adoptVars from_ sc'.vars (bare.scenes id sc' found')

end Adopted

/-! ### Courses that are kept apart from the state -/

variable {η : Type} {n : Nat} {d : Course}

open Step (Keeps MadeOf)

/-- A session that holds a course of which the state holds no mapping. The marks of the course were
given out before a certain mark. -/
structure Apart (n : Nat) (d : Course) (s : Session η) : Prop where
  course : s.course = some d
  clear : s.store.Clear n d.varMarks

theorem Apart.commit {s : Session η} (h : Apart n d s) {store : Store} {edits : List Edit}
    (written : store.Clear n d.varMarks ∧ Store.Spares d.varMarks edits) :
    Apart n d (s.commit store edits) := by
  obtain ⟨clear, spares⟩ := written
  refine ⟨?_, clear⟩
  have followed : d.mapVars (fun v => v.followAll edits) = d := by
    refine Course.mapVars_eq_self fun p hp => followAll_eq_self fun e he inside => ?_
    exact spares e he (List.mem_flatMap.2 ⟨p, hp, inside⟩)
  simp [Session.commit, h.course, clear.unshared, followed]

theorem Apart.withStore {s : Session η} (h : Apart n d s) {store : Store}
    (clear : store.Clear n d.varMarks) : Apart n d { s with store } := ⟨h.course, clear⟩

theorem stable_apart : Stable (Apart (η := η) n d) where
  log s log h := ⟨h.course, h.clear⟩
  bus s bus h := ⟨h.course, h.clear⟩
  host s host h := ⟨h.course, h.clear⟩
  history s history h := ⟨h.course, h.clear⟩
  moves s moves h := ⟨h.course, h.clear⟩
  setCopy path v s h := by
    obtain ⟨clear, value⟩ := h.clear.adopt v
    exact h.commit (clear.set path value)
  setNode id v := keeps_setNode fun s _ _ h done => by
    obtain ⟨clear, value⟩ := h.clear.adopt v
    exact h.commit (clear.setNodeState id value done)
  updateNode id _ := keeps_updateNode fun _ _ _ _ h done => h.commit (h.clear.adoptUpdates id done)

/-! ### Entering a scene of the course -/

theorem enterScene_of_none {s : Session η} (loaded : s.course = some d) {id : String}
    (missing : d.scene? id = none) : enterScene id s = refuseScene id s := by
  rw [enterScene]
  show Step.bind Step.current _ s = _
  simp only [Step.bind, Step.current, loaded, missing]

theorem enterScene_of_some {s : Session η} (loaded : s.course = some d) {id : String}
    {scene : Scene} (there : d.scene? id = some scene) :
    enterScene id s = activate id scene (s.scene != some id) s := by
  rw [enterScene]
  show Step.bind Step.current _ s = _
  simp only [Step.bind, Step.current, loaded, there]

/-- Who enters a scene is refused for want of a course, refused for want of the scene, or let in. -/
theorem enterScene_eq (id : String) (s : Session η) :
    enterScene id s = (.failed (.noCourse false), s) ∨ enterScene id s = refuseScene id s ∨
      ∃ c scene, s.course = some c ∧ c.scene? id = some scene ∧
        enterScene id s = activate id scene (s.scene != some id) s := by
  cases loaded : s.course with
  | none =>
    refine Or.inl ?_
    rw [enterScene]
    show Step.bind Step.current _ s = _
    simp only [Step.bind, Step.current, loaded]
    rfl
  | some c =>
    cases there : c.scene? id with
    | none => exact Or.inr (Or.inl (enterScene_of_none loaded there))
    | some scene => exact Or.inr (Or.inr ⟨c, scene, rfl, there, enterScene_of_some loaded there⟩)

/-! ### What can be asked of a session -/

/-- What a host can do to a session that it may also lead to other scenes. -/
inductive Visit (emit : Emitter η) : Step (Session η) Unit → Prop where
  | call {x : Step (Session η) Unit} (h : Call emit x) : Visit emit x
  | enter (id : String) : Visit emit (enterScene id)

/-- What can be asked of a session from outside once a course is loaded. -/
inductive Operation (host : Host η) (emit : Emitter η) : Step (Session η) Unit → Prop where
  | start (scene : Option String) (snapshot : Value) :
    Operation host emit (start host emit scene snapshot)
  | goto (id : String) : Operation host emit (gotoScene host emit id)
  | emit (e : Event) : Operation host emit (emit e)
  | setState (state : Value) : Operation host emit (setState state)
  | changeNode (id : String) (updates : Value) : Operation host emit
    (changeNode host emit id updates)

section

variable {I : Session η → Prop} {host : Host η} {calls : Emitter η → Step (Session η) Unit → Prop}

theorem governs_visits (stable : Stable I) (enter : ∀ id, Keeps I (enterScene id)) :
    Governs I (fun _ => True) Visit where
  toInward := stable.toInward
  calls emit he x called := by
    cases called with
    | call h => exact stable.call he h
    | enter id => exact enter id
  guided _ _ _ _ := fun _ _ => trivial
  enter id _ := enter id

theorem Firm.start (h : Firm I) {emit : Emitter η}
    (arrives : ∀ id, Keeps I (gotoScene host emit id))
    (restored : ∀ s store snapshot, I s → s.store.restore snapshot = .ok store → I { s with store })
    (scene : Option String) (snapshot : Value) :
    Keeps I (Session.start host emit scene snapshot) := by
  have entered (id : String) : Keeps I (do
      Session.write .info .scene s!"Starting course from scene: {id}"
      gotoScene host emit id) := Keeps.bind (h.write _ _ _ _) fun _ => arrives id
  refine Keeps.looking fun s hs => ?_
  cases s.course with
  | none => exact hs
  | some course =>
    dsimp only
    by_cases resumed : snapshot.truthy = true
    · rw [if_pos resumed]
      cases done : s.store.restore snapshot with
      | error e => exact hs
      | ok store => exact entered _ { s with store } (restored s store snapshot hs done)
    · rw [if_neg resumed]
      exact entered _ s hs

variable (governs : Governs I (fun _ => True) calls) (made : host.MadeOf calls)
  (restored : ∀ s store snapshot, I s → s.store.restore snapshot = .ok store → I { s with store })

include governs made restored

theorem Governs.start (nesting : Nat) (scene : Option String) (snapshot : Value) :
    Keeps I (Session.start host (Session.emit host nesting) scene snapshot) :=
  governs.toFirm.start (fun _ => governs.gotoScene made (governs.emit made nesting) trivial)
    restored scene snapshot

theorem Governs.operation (nesting : Nat) {x : Step (Session η) Unit}
    (asked : Operation host (Session.emit host nesting) x) : Keeps I x := by
  cases asked with
  | start scene snapshot => exact governs.start made restored nesting scene snapshot
  | goto id => exact governs.gotoScene made (governs.emit made nesting) trivial
  | emit e => exact governs.emit made nesting e
  | setState state => exact governs.setState state
  | changeNode id updates =>
    exact Keeps.bind (governs.updateNode id updates) fun _ =>
      governs.reportState made (governs.emit made nesting) none

end

/-! ### Loading -/

def holding (c : Course) (s : Session η) : Session η :=
  let s := s.addEntry { level := .info, category := .scene, message :=
    s!"Loading course: {c.about.id} v{c.about.version}" }
  let (course, next) := adoptCourse s.store.next c
  { s with course := some course, store :=
    { s.store with next, shared := s.store.shared || c.marks != 0 } }

theorem loadCourse_eq (c : Course) (s : Session η) :
    loadCourse c s = seed "globals" globalVars (holding c s) := by
  rw [loadCourse, write_null]
  rfl

theorem apart_holding {c : Course} (json : c.marks = 0) (limits : Limits) (log : RunLog) (bus : Bus)
    (kept : η) :
    Apart (adoptCourse 6 c).2 (adoptCourse 6 c).1
      (holding c { fresh limits log kept with bus }) := by
  obtain ⟨grown, new⟩ := marks_adoptCourse json 6
  refine ⟨rfl, ?_, Nat.le_refl _, fun m hm => ⟨?_, (new m hm).2⟩, ?_⟩
  · simp [holding, fresh, Session.addEntry, Store.empty, json]
  · have := (new m hm).1
    omega
  · refine (Store.confinedIn_emptyTiers 1).mono fun m hm => ⟨?_, fun inside => ?_⟩
    · show m < (adoptCourse 6 c).2
      omega
    · have := (new m inside).1
      omega

end Session

end SceneCourse
