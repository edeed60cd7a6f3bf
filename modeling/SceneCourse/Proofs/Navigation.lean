import SceneCourse.Proofs.Exploration
import SceneCourse.Proofs.Invariance
import SceneCourse.Session.Script

/-! Where a run can go. A session goes to a scene only at its start and by the triggers of a scene
that it has entered, so whatever it enters is reached along the arrows of the scene graph. Triggers
of a scene go on firing after the scene has been left, which is why the invariant speaks of the
active triggers and not of the active scene. Proved: a dry run that was not cut short has seen every
scene that a tour of the course enters, and every scene that one looks for in vain. -/

namespace SceneCourse

/-! ### Exits of a scene -/

namespace Action

mutual

theorem destinations_preorder_mapValues (f : Value → Value) (a : Action) :
    (a.mapValues f).preorder.filterMap destination? = a.preorder.filterMap destination? := by
  cases a with
  | sequence actions => exact destinations_preorderAll_mapAllValues f actions
  | parallel actions => exact destinations_preorderAll_mapAllValues f actions
  | _ => rfl

theorem destinations_preorderAll_mapAllValues (f : Value → Value) (as : List Action) :
    (preorderAll (mapAllValues f as)).filterMap destination? =
      (preorderAll as).filterMap destination? := by
  cases as with
  | nil => rfl
  | cons a as =>
    rw [mapAllValues, preorderAll, preorderAll, List.filterMap_append, List.filterMap_append,
      destinations_preorder_mapValues f a, destinations_preorderAll_mapAllValues f as]

end

end Action

theorem Trigger.destinations_mapValues (f : Value → Value) (t : Trigger) :
    Action.destinations (t.mapValues f).actions = Action.destinations t.actions := by
  have branches : (Action.preorderAll (t.mapValues f).actions).filterMap Action.destination? =
      (Action.preorderAll t.actions).filterMap Action.destination? := by
    rw [actions, actions, Action.preorderAll_append, Action.preorderAll_append,
      List.filterMap_append,
      List.filterMap_append, mapValues, Action.destinations_preorderAll_mapAllValues]
    cases t.alternative with
    | none => rfl
    | some as => simp [Action.destinations_preorderAll_mapAllValues]
  rw [Action.destinations, branches, Action.destinations]

theorem Scene.next_mapValues (f : Value → Value) (s : Scene) : (s.mapValues f).next = s.next := by
  simp only [next, mapValues, List.flatMap_map, Trigger.destinations_mapValues]

/-- The triggers of a scene lead to what the scene leads to. -/
theorem Scene.leadsTo {R : String → Prop} {s : Scene} (h : ∀ id ∈ s.next, R id) {t : Trigger}
    (ht : t ∈ s.triggers) : t.LeadsTo R := by
  intro id going
  refine h id ?_
  rw [next, mem_firstMentions, List.mem_flatMap]
  exact ⟨t, ht, mem_firstMentions.2 going⟩

namespace Course

/-- Where the triggers of the scene with an id lead, if there is such a scene. -/
def exits (c : Course) (id : String) : Option (List String) := (c.scene? id).map Scene.next

theorem exits_eq_none_iff (c : Course) (id : String) : c.exits id = none ↔ c.scene? id = none :=
  Option.map_eq_none_iff

theorem exits_subset_targets {c : Course} {id t : String} {ts : List String}
    (h : c.exits id = some ts) (ht : t ∈ ts) : t ∈ c.targets id := by
  obtain ⟨sc, found, rfl⟩ := Option.map_eq_some_iff.1 h
  obtain ⟨member, named⟩ := mem_sceneIds_of_scene? found
  exact mem_targets.2 ⟨sc, member, named, ht⟩

theorem exits_map (f : Scene → Scene) (same : ∀ s, (f s).id = s.id)
    (next : ∀ s, (f s).next = s.next) (ss : List Scene) (id : String) :
    ((ss.map f).find? (·.id == id)).map Scene.next = (ss.find? (·.id == id)).map Scene.next := by
  rw [List.find?_map, Option.map_map]
  have test : ((·.id == id) ∘ f) = (·.id == id) := funext fun s => by simp [same]
  have value : Scene.next ∘ f = Scene.next := funext next
  rw [test, value]

theorem exits_mapVars (f : Value → Value) (c : Course) : (c.mapVars f).exits = c.exits :=
  funext fun id => exits_map (Scene.mapVars f) (fun _ => rfl) (fun _ => rfl) c.scenes id

theorem exits_mapValues (f : Value → Value) (c : Course) : (c.mapValues f).exits = c.exits :=
  funext fun id => exits_map (Scene.mapValues f) (fun _ => rfl) (Scene.next_mapValues f) c.scenes id

end Course

namespace Session

theorem exits_adoptScenes (next : Nat) (ss : List Scene) (id : String) :
    ((adoptScenes next ss).1.find? (·.id == id)).map Scene.next =
      (ss.find? (·.id == id)).map Scene.next := by
  induction ss generalizing next with
  | nil => rfl
  | cons s ss ih =>
    simp only [adoptScenes, List.find?_cons]
    cases s.id == id with
    | true => rfl
    | false => exact ih _

/-- Loading a course leaves its start and its exits alone. -/
theorem start_adoptCourse (next : Nat) (c : Course) : (adoptCourse next c).1.start = c.start := by
  unfold adoptCourse
  split <;> rfl

theorem exits_adoptCourse (next : Nat) (c : Course) : (adoptCourse next c).1.exits = c.exits := by
  unfold adoptCourse
  split
  next => exact funext fun id => exits_adoptScenes _ c.scenes id
  next => exact Course.exits_mapValues _ c

/-! ### Sessions on a course -/

variable {η : Type} {c : Course} {R : String → Prop} {s : Session η}

open Step (Keeps MadeOf)

/-- A session of a course that has gone to scenes of one sort only, and that can go only to such
scenes from where it is. What it did not find is none of the course's scenes. -/
structure OnCourse (c : Course) (R : String → Prop) (s : Session η) : Prop where
  course : ∀ d, s.course = some d → d.start = c.start ∧ d.exits = c.exits
  triggers : ∀ t ∈ s.triggers, t.LeadsTo R
  scene : ∀ id, s.scene = some id → .entered id ∈ s.passages
  entered : ∀ id, .entered id ∈ s.passages → R id ∧ c.exits id ≠ none
  refused : ∀ id, .refused id ∈ s.passages → R id ∧ c.exits id = none

theorem OnCourse.commit (h : OnCourse c R s) (store : Store) (edits : List Value.Edit) :
    OnCourse c R (s.commit store edits) := by
  refine ⟨fun d hd => ?_, h.triggers, h.scene, h.entered, h.refused⟩
  obtain ⟨d', hd', rfl⟩ := Option.map_eq_some_iff.1 hd
  obtain ⟨start, exits⟩ := h.course d' hd'
  exact ⟨start, (Course.exits_mapVars _ d').trans exits⟩

theorem OnCourse.withStore (h : OnCourse c R s) (store : Store) : OnCourse c R { s with store } :=
  ⟨h.course, h.triggers, h.scene, h.entered, h.refused⟩

theorem stable_onCourse : Stable (OnCourse (η := η) c R) where
  log s log h := ⟨h.course, h.triggers, h.scene, h.entered, h.refused⟩
  bus s bus h := ⟨h.course, h.triggers, h.scene, h.entered, h.refused⟩
  host s host h := ⟨h.course, h.triggers, h.scene, h.entered, h.refused⟩
  history s history h := ⟨h.course, h.triggers, h.scene, h.entered, h.refused⟩
  moves s moves h := ⟨h.course, h.triggers, h.scene, h.entered, h.refused⟩
  setCopy path v s h := h.commit _ _
  setNode _ _ := keeps_setNode fun _ _ _ h _ => h.commit _ _
  updateNode _ _ := keeps_updateNode fun _ _ _ _ h _ => h.commit _ _

theorem keeps_seed_onCourse (tier : String) (vars : Session η → List (String × Value)) :
    Keeps (OnCourse c R) (seed tier vars) := by
  refine keeps_seed (fun name v => Keeps.update fun s hs => ?_) vars
  have behind := hs.commit (s.store.set s!"{tier}.vars.{name}" v).1
    (s.store.set s!"{tier}.vars.{name}" v).2
  exact ⟨behind.course, behind.triggers, behind.scene, behind.entered, behind.refused⟩

theorem keeps_refuseScene (name : String) (leads : R name) (outside : c.exits name = none) :
    Keeps (OnCourse (η := η) c R) (refuseScene name) := by
  refine Keeps.bind (stable_onCourse.write _ _ _ _) fun _ =>
    Keeps.bind (Keeps.update fun s h => ?_) fun _ => Keeps.fail _
  refine ⟨h.course, h.triggers, ?_, ?_, ?_⟩
  · exact fun id hid => List.mem_cons_of_mem _ (h.scene id hid)
  · intro id hid
    exact h.entered id ((List.mem_cons.1 hid).resolve_left (by simp))
  · intro id hid
    rcases List.mem_cons.1 hid with same | old
    · obtain rfl := Passage.refused.inj same
      exact ⟨leads, outside⟩
    · exact h.refused id old

/-- Scenes of a sort from which the course leads only to scenes of the sort. -/
def Closed (c : Course) (R : String → Prop) : Prop :=
  ∀ id ts, R id → c.exits id = some ts → ∀ t ∈ ts, R t

theorem keeps_activate_onCourse {id : String} {scene : Scene} (leads : R id)
    (inside : c.exits id = some scene.next) (guided : ∀ t ∈ scene.triggers, t.LeadsTo R)
    (anew : Bool) : Keeps (OnCourse (η := η) c R) (activate id scene anew) := by
  have armed : Keeps (OnCourse (η := η) c R) (do
      Step.update ({ · with triggers := scene.triggers })
      write .debug .event s!"Active trigger set replaced ({scene.triggers.length} triggers)") := by
    refine Keeps.bind (Keeps.update fun s h => ?_) fun _ => stable_onCourse.write _ _ _ _
    exact ⟨h.course, guided, h.scene, h.entered, h.refused⟩
  refine Keeps.bind (stable_onCourse.write _ _ _ _) fun _ =>
    Keeps.bind (Keeps.update fun s h => ?_) fun _ => ?_
  · refine ⟨h.course, h.triggers, ?_, ?_, ?_⟩
    · rintro _ ⟨⟩
      exact List.mem_cons_self
    · intro id' hid
      rcases List.mem_cons.1 hid with same | old
      · obtain rfl := Passage.entered.inj same
        exact ⟨leads, by simp [inside]⟩
      · exact h.entered id' old
    · intro id' hid
      exact h.refused id' ((List.mem_cons.1 hid).resolve_left (by simp))
  · cases anew with
    | true =>
      refine Keeps.bind (Keeps.update fun s h => h.withStore _) fun _ =>
        Keeps.bind ?_ fun _ => armed
      exact keeps_seed_onCourse _ _
    | false => exact Keeps.bind (stable_onCourse.write _ _ _ _) fun _ => armed

theorem keeps_enterScene_onCourse (closed : Closed c R) {id : String} (leads : R id) :
    Keeps (OnCourse (η := η) c R) (enterScene id) := by
  refine Keeps.look fun s h => ?_
  cases loaded : s.course with
  | none => exact Keeps.fail _
  | some d =>
    obtain ⟨start, exits⟩ := h.course d loaded
    dsimp only
    cases found : d.scene? id with
    | none =>
      refine keeps_refuseScene id leads ?_
      rw [← exits, Course.exits_eq_none_iff]
      exact found
    | some scene =>
      have inside : c.exits id = some scene.next := by
        rw [← exits, Course.exits, found]
        rfl
      exact keeps_activate_onCourse leads inside
        (fun t ht => Scene.leadsTo (closed id _ leads inside) ht) _

theorem governs_onCourse (closed : Closed c R) : Governs (OnCourse (η := η) c R) R Call where
  toInward := stable_onCourse.toInward
  calls _ he _ called := stable_onCourse.call he called
  guided _ h := h.triggers
  enter _ leads := keeps_enterScene_onCourse closed leads

/-! ### Tours -/

theorem keeps_loadCourse_onCourse : Keeps (OnCourse (η := η) c R) (loadCourse c) := by
  refine Keeps.bind (stable_onCourse.write _ _ _ _) fun _ =>
    Keeps.bind (Keeps.update fun s h => ?_) fun _ => ?_
  · refine ⟨?_, h.triggers, h.scene, h.entered, h.refused⟩
    rintro _ ⟨⟩
    exact ⟨start_adoptCourse _ c, exits_adoptCourse _ c⟩
  · exact keeps_seed_onCourse _ _

theorem keeps_start_onCourse {host : Host η} (made : host.MadeOf Call) (closed : Closed c R)
    (begins : R c.start) (nesting : Nat) (snapshot : Value) :
    Keeps (OnCourse (η := η) c R) (start host (emit host nesting) none snapshot) := by
  have governs : Governs (OnCourse (η := η) c R) R Call := governs_onCourse closed
  refine Keeps.look fun s h => ?_
  cases loaded : s.course with
  | none => exact Keeps.fail _
  | some d =>
    have leads : R d.start := (h.course d loaded).1 ▸ begins
    have entered : Keeps (OnCourse (η := η) c R) (do
        write .info .scene s!"Starting course from scene: {d.start}"
        gotoScene host (emit host nesting) d.start) :=
      Keeps.bind (stable_onCourse.write _ _ _ _) fun _ =>
        governs.gotoScene made (governs.emit made nesting) leads
    dsimp only
    by_cases resumed : snapshot.truthy = true
    · rw [if_pos resumed]
      refine Keeps.bind (Keeps.ofExcept _) fun store => ?_
      exact Keeps.bind (Keeps.update fun s h => h.withStore store) fun _ => entered
    · rw [if_neg resumed]
      exact entered

/-- A course is loaded and started in its start scene; then someone plays, who knows how the start
has ended. -/
def tour (host : Host η) (nesting : Nat) (c : Course) (snapshot : Value)
    (play : Except Fault Unit → Step (Session η) Unit) : Step (Session η) Unit := do
  loadCourse c
  play (← (start host (emit host nesting) none snapshot).attempt)

theorem onCourse_tour {host : Host η} (made : host.MadeOf Call) (closed : Closed c R)
    (begins : R c.start) (nesting : Nat) (snapshot : Value)
    {play : Except Fault Unit → Step (Session η) Unit}
    (played : ∀ started, (play started).MadeOf (Call (emit host nesting))) (limits : Limits)
    (log : RunLog) (store : Store) (bus : Bus) (kept : η) :
    OnCourse c R (tour host nesting c snapshot play
      { fresh limits log kept with store, bus }).2 := by
  have governs : Governs (OnCourse (η := η) c R) R Call := governs_onCourse closed
  have begun : OnCourse c R { fresh limits log kept with store, bus } := by
    constructor <;> simp [fresh]
  have calls : ∀ x, Call (emit host nesting) x → Keeps (OnCourse (η := η) c R) x :=
    governs.calls _ (governs.emit made nesting)
  refine Keeps.bind keeps_loadCourse_onCourse (fun _ => Keeps.bind ?_ fun started => ?_) _ begun
  · exact (keeps_start_onCourse made closed begins nesting snapshot).attempt
  · exact (played started).keeps calls

end Session

namespace Course

open SceneGraph Exploration Session

variable {η : Type}

/-- What a dry run that was not cut short has seen has no way out. -/
theorem closed_seen {c : Course} {limit : Int} (whole : (c.dryRun limit).truncated = false) :
    Closed c (Seen ((ofCourse c).explore c.start limit)) := by
  intro id ts seen leads t ht
  obtain ⟨charted, -⟩ := explore_closed whole
  have inside : id ∈ (ofCourse c).declaredIds := by
    rw [mem_declaredIds_iff_scene?, ← exits_eq_none_iff, leads]
    simp
  have visited : id ∈ ((ofCourse c).explore c.start limit).visited :=
    seen.resolve_right fun unknown => charted.undeclared id unknown inside
  have arrow : t ∈ (ofCourse c).successors id := by
    rw [successors_ofCourse]
    exact exits_subset_targets leads ht
  exact (charted.ahead id visited t arrow).resolve_right (by simp)

/-- No tour of a course enters a scene that a dry run calls unreachable, and what a tour fails to
find is an unknown target of the dry run, unless the dry run was cut short. -/
theorem dryRun_sound (c : Course) (limit : Int) (whole : (c.dryRun limit).truncated = false)
    (host : Host η) (made : host.MadeOf Call) (nesting : Nat) (snapshot : Value)
    (play : Except Fault Unit → Step (Session η) Unit)
    (played : ∀ started, (play started).MadeOf (Call (emit host nesting))) (limits : Limits)
    (log : RunLog) (store : Store) (bus : Bus) (kept : η) (s : Session η)
    (behind : s = (tour host nesting c snapshot play { fresh limits log kept with store, bus }).2) :
    (∀ id, .entered id ∈ s.passages → id ∉ (c.dryRun limit).deadCode.unreachable) ∧
      (∀ id, .refused id ∈ s.passages → id ∈ (c.dryRun limit).unknownTargets) ∧
      (∀ id, s.scene = some id → .entered id ∈ s.passages) := by
  subst behind
  obtain ⟨charted, begins⟩ := explore_closed whole
  have on := onCourse_tour made (closed_seen whole) begins nesting snapshot played limits log
    store bus kept
  refine ⟨fun id entered => ?_, fun id refused => ?_, on.scene⟩
  · obtain ⟨seen, inside⟩ := on.entered id entered
    rw [ne_eq, exits_eq_none_iff, ← mem_declaredIds_iff_scene?] at inside
    have visited := seen.resolve_right fun unknown => charted.undeclared id unknown inside
    simp [dryRun, deadCode, visited]
  · obtain ⟨seen, outside⟩ := on.refused id refused
    rw [exits_eq_none_iff] at outside
    refine seen.resolve_left fun visited => ?_
    exact (c.mem_declaredIds_iff_scene? id).1 (charted.declared id visited) outside

end Course

/-! ### A house -/

namespace ScriptHost

open Session

/-- Whether they fail or not, the callbacks of a script host do nothing but remember their calls. -/
theorem madeOf_callbacks (r : Responses) : (callbacks r).MadeOf Call := by
  obtain ⟨onScene, onState, onUi⟩ := callbacks_all (P := fun emit x => x.MadeOf (Call emit))
    (fun _ _ => .call (.remember _)) (fun _ _ _ => .andThen (.call (.remember _)) (.fail _)) r
  exact ⟨onScene, onState, onUi, fun _ _ _ => .done⟩

end ScriptHost

namespace Course

open Session ScriptHost

def passageway (id : String) (targets : List String) : Scene where
  id
  vars := []
  nodes := []
  triggers := [⟨⟨"sceneEnter", some id, []⟩, none, targets.map (.gotoScene · .null), none, []⟩]
  extras := []

/-- One gets from the hall to the garden, and looks from there for a cellar that is missing. Nothing
leads to the attic. -/
def house : Course where
  schema := "vvce.dsl.v1"
  about := ⟨"house", "1.0.0", []⟩
  globals := ⟨[], []⟩
  start := "hall"
  scenes := [passageway "hall" ["garden"], passageway "garden" ["cellar"],
    passageway "attic" ["hall"]]
  extras := []

def houseTour : Session ScriptHost :=
  let host := callbacks { state := .failing "dark" }
  (tour host 5 house .null (fun _ => changeNode host (emit host 5) "lamp" .emptyMap)
    (fresh {} {} {})).2

theorem dryRun_sound_house :
    (house.dryRun 10).truncated = false ∧
      houseTour.passages = [.refused "cellar", .entered "garden", .entered "hall"] ∧
      (∀ id, .entered id ∈ houseTour.passages → id ∉ (house.dryRun 10).deadCode.unreachable) ∧
      (∀ id, .refused id ∈ houseTour.passages → id ∈ (house.dryRun 10).unknownTargets) ∧
      (∀ id, houseTour.scene = some id → .entered id ∈ houseTour.passages) := by
  have whole : (house.dryRun 10).truncated = false := by decide +kernel
  have made := madeOf_callbacks { state := .failing "dark" }
  refine ⟨whole, by decide +kernel, ?_⟩
  exact dryRun_sound house 10 whole _ made 5 .null _
    (fun _ => madeOf_changeNode made _ "lamp" _ (.updateNode _ _)) {} {}
    .empty (({} : Bus).onAll .course) {} houseTour rfl

end Course

end SceneCourse
