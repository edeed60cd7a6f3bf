import SceneCourse.Proofs.Steps
import SceneCourse.Session.Running

/-! What outlives a run. An invariant that outlives the elementary changes of a session, and
entering a scene that the active triggers may lead to, outlives every event: actions are followed
through their nesting, and events through the events that they cause. The host takes part as far as
its callbacks are made of calls that keep the invariant. -/

namespace SceneCourse

open Step (Keeps Guards MadeOf)

namespace Session

variable {η α : Type} {I : Session η → Prop}

/-! ### Elementary changes -/

theorem keeps_setNode {id : String} {v : Value}
    (commit : ∀ (s : Session η) store edits, I s →
      (s.store.adopt v).2.setNodeState id (s.store.adopt v).1 = .ok (store, edits) →
      I (s.commit store edits)) : Keeps I (setNode id v) := by
  intro s h
  simp only [setNode]
  split
  next store edits done => exact commit s store edits h done
  next => exact h

theorem keeps_updateNode {id : String} {updates : Value}
    (commit : ∀ (s : Session η) store edits fault, I s →
      s.store.adoptUpdates id updates = .ok (store, edits, fault) → I (s.commit store edits)) :
    Keeps I (updateNode id updates) := by
  intro s h
  rw [updateNode]
  split
  next store edits done => exact commit s store edits none h done
  next store edits e done => exact commit s store edits (some e) h done
  next => exact h

/-- An invariant that outlives changes of the state and what is added to the log. -/
structure Firm (I : Session η → Prop) : Prop where
  addEntry : ∀ s e, I s → I (s.addEntry e)
  addLine : ∀ s line, I s → I (s.addLine line)
  setCopy : ∀ path v, Keeps I (setCopy path v)
  setNode : ∀ id v, Keeps I (setNode id v)
  updateNode : ∀ id updates, Keeps I (updateNode id updates)

/-- An invariant that outlives the notes about what is told as well. -/
structure Historic (I : Session η → Prop) : Prop extends Firm I where
  history : ∀ s history, I s → I { s with history }

/-- An invariant that outlives all elementary changes that a session makes by itself. -/
structure Inward (I : Session η → Prop) : Prop extends Historic I where
  moves : ∀ s moves, I s → I { s with moves }

/-- An invariant that outlives whatever becomes of the subscriptions and of the host as well. -/
structure Lasting (I : Session η → Prop) : Prop extends Inward I where
  bus : ∀ s bus, I s → I { s with bus }
  host : ∀ s host, I s → I { s with host }

/-- An invariant that outlives whatever becomes of the log as well. -/
structure Stable (I : Session η → Prop) : Prop extends Lasting I where
  log : ∀ s log, I s → I { s with log }
  addEntry s _ := log s _
  addLine s _ := log s _

/-- An invariant that outlives what a host does to its own affairs, to the subscriptions and to the
log. -/
structure Detached (I : Session η → Prop) : Prop extends Historic I where
  bus : ∀ s bus, I s → I { s with bus }
  host : ∀ s host, I s → I { s with host }
  log : ∀ s log, I s → I { s with log }

/-- Where several invariants are stable, it is stable that one of them holds. -/
theorem Stable.exists {ι : Type} {P : ι → Prop} {J : ι → Session η → Prop}
    (h : ∀ i, P i → Stable (J i)) : Stable (fun s => ∃ i, P i ∧ J i s) where
  log s log hs := hs.imp fun i hi => ⟨hi.1, (h i hi.1).log s log hi.2⟩
  bus s bus hs := hs.imp fun i hi => ⟨hi.1, (h i hi.1).bus s bus hi.2⟩
  host s host hs := hs.imp fun i hi => ⟨hi.1, (h i hi.1).host s host hi.2⟩
  history s history hs := hs.imp fun i hi => ⟨hi.1, (h i hi.1).history s history hi.2⟩
  moves s moves hs := hs.imp fun i hi => ⟨hi.1, (h i hi.1).moves s moves hi.2⟩
  setCopy path v s hs := hs.imp fun i hi => ⟨hi.1, (h i hi.1).setCopy path v s hi.2⟩
  setNode id v s hs := hs.imp fun i hi => ⟨hi.1, (h i hi.1).setNode id v s hi.2⟩
  updateNode id updates s hs := hs.imp fun i hi => ⟨hi.1, (h i hi.1).updateNode id updates s hi.2⟩

/-- What is the same in related sessions outlives what keeps sessions related. -/
theorem Firm.of_related {R : Session η → Session η → Prop} (refl : ∀ s, R s s)
    (firm : ∀ was, Firm (R was)) (same : ∀ {s t}, R s t → I s → I t) : Firm I where
  addEntry s e hs := same ((firm s).addEntry s e (refl s)) hs
  addLine s line hs := same ((firm s).addLine s line (refl s)) hs
  setCopy path v s hs := same ((firm s).setCopy path v s (refl s)) hs
  setNode id v s hs := same ((firm s).setNode id v s (refl s)) hs
  updateNode id updates s hs := same ((firm s).updateNode id updates s (refl s)) hs

theorem Firm.and {J : Session η → Prop} (h : Firm I) (k : Firm J) : Firm fun s => I s ∧ J s where
  addEntry s e hs := ⟨h.addEntry s e hs.1, k.addEntry s e hs.2⟩
  addLine s line hs := ⟨h.addLine s line hs.1, k.addLine s line hs.2⟩
  setCopy path v s hs := ⟨h.setCopy path v s hs.1, k.setCopy path v s hs.2⟩
  setNode id v s hs := ⟨h.setNode id v s hs.1, k.setNode id v s hs.2⟩
  updateNode id updates s hs := ⟨h.updateNode id updates s hs.1, k.updateNode id updates s hs.2⟩

namespace Firm

variable (h : Firm I)

include h

theorem write (level : Level) (category : Category) (message : String) (data : Value) :
    Keeps I (write level category message data) := fun s hs =>
  Keeps.ofExcept (s.log.outcome _) _ (h.addEntry s _ hs)

theorem addAll (s : Session η) (es : List LogEntry) (hs : I s) :
    I { s with log := s.log.addAll es } := by
  induction es generalizing s with
  | nil => exact hs
  | cons e es ih => exact ih (s.addEntry e) (h.addEntry s e hs)

theorem ask (question : Store → Limits → Noted α) : Keeps I (ask question) := fun s hs =>
  Keeps.ofExcept (question s.store s.limits).result _ (h.addAll s _ hs)

theorem increment (path : String) (amount : Amount) : Keeps I (increment path amount) := by
  refine Keeps.bind (Keeps.look fun s _ => Keeps.ofExcept _) fun old => ?_
  refine Keeps.bind (Keeps.ofExcept _) fun (base, foreign) => ?_
  have rest : Keeps I (do
      let sum ← Step.ofExcept (base.add amount)
      let written ← Session.setCopy path sum.value
      let added ← Step.ofExcept amount.value.told
      Session.write .debug .state s!"Incremented {path} by {added}"
          (.object [("value", written)])) :=
    Keeps.bind (Keeps.ofExcept _) fun sum => Keeps.bind (h.setCopy _ _) fun written =>
      Keeps.bind (Keeps.ofExcept _) fun added => h.write _ _ _ _
  cases foreign with
  | false => exact rest
  | true => exact Keeps.bind (h.write _ _ _ _) fun _ => rest

theorem assign (path : String) (v : Value) : Keeps I (assign path v) := by
  refine Keeps.bind (fun _ hs => hs) fun v => ?_
  refine Keeps.bind (h.ask _) fun found => ?_
  refine Keeps.bind (h.setCopy _ _) fun written => ?_
  exact h.write _ _ _ _

theorem weigh (t : Trigger) : Keeps I (weigh t) := by
  unfold Session.weigh
  cases t.conditions with
  | none => exact Keeps.pure true
  | some cs =>
    refine Keeps.look fun s _ => Keeps.bind (h.ask _) fun holds =>
      Keeps.bind (Keeps.ofExcept _) fun records => ?_
    exact Keeps.bind (h.write _ _ _ _) fun _ => Keeps.pure holds

theorem setState (state : Value) : Keeps I (setState state) := by
  have merge (es : List (Key × Value)) (tier : String) : Keeps I (mergeVars es tier) := by
    refine Keeps.bind (Keeps.ofExcept _) fun vars => Keeps.each fun (k, v) _ => ?_
    exact Keeps.bind (h.setCopy _ _) fun _ => Keeps.pure ()
  cases state with
  | map m es =>
    refine Keeps.bind (merge es _) fun _ => Keeps.bind (merge es _) fun _ => ?_
    exact Keeps.bind (Keeps.ofExcept _) fun nodes => Keeps.each fun (k, v) _ => h.setNode _ v
  | _ => exact Keeps.fail _

end Firm

theorem Historic.chronicle (h : Historic I) (o : Session η → Occurrence) :
    Keeps I (Step.update fun s => s.chronicle (o s)) :=
  Keeps.update fun s hs => h.history s _ hs

theorem Inward.moved (h : Inward I) (m : Move) : Keeps I (Step.update fun s => s.moved m) :=
  Keeps.update fun s hs => h.moves s _ hs

end Session

/-! ### Seeding -/

namespace Session

variable {η : Type} {I P : Session η → Prop}

open Step (Leads)

/-- What outlives the writing of one variable outlives the writing of all. -/
theorem keeps_seed {tier : String} (h : ∀ name v, Keeps I (sow tier name v))
    (vars : Session η → List (String × Value)) : Keeps I (seed tier vars) := by
  intro s hs
  refine Keeps.each (fun name _ => Keeps.look fun s _ => ?_) s hs
  cases (vars s).lookup name with
  | none => exact Keeps.pure ()
  | some v => exact h name v

theorem leads_seed {tier : String} (h : ∀ name v, Leads P P (sow tier name v))
    (vars : Session η → List (String × Value)) : Leads P P (seed tier vars) := by
  intro s hs
  refine Leads.each (fun name _ => Leads.look fun s hs => ?_) s hs
  cases (vars s).lookup name with
  | none => exact ⟨s, rfl, hs⟩
  | some v => exact h name v s hs

end Session

/-! ### Entering scenes -/

namespace Session

variable {η : Type}

/-- An invariant that outlives what a session does by itself to enter a scene. -/
structure Entering (I : Session η → Prop) : Prop extends Firm I where
  place : ∀ s scene passages entrances, I s → I { s with scene, passages, entrances }
  triggers : ∀ s triggers, I s → I { s with triggers }
  resetScene : ∀ s, I s → I { s with store := s.store.resetScene }
  sow : ∀ tier name v, Keeps I (sow tier name v)

namespace Entering

variable {I : Session η → Prop} (h : Entering I)

include h

theorem activate (id : String) (scene : Scene) (anew : Bool) :
    Keeps I (activate id scene anew) := by
  have armed : Keeps I (do
      Step.update ({ · with triggers := scene.triggers })
      write .debug .event s!"Active trigger set replaced ({scene.triggers.length} triggers)") :=
    Keeps.bind (Keeps.update fun s => h.triggers s _) fun _ => h.write _ _ _ _
  refine Keeps.bind (h.write _ _ _ _) fun _ =>
    Keeps.bind (Keeps.update fun s => h.place s _ _ _) fun _ => ?_
  cases anew with
  | true =>
    refine Keeps.bind (Keeps.update h.resetScene) fun _ => ?_
    exact Keeps.bind (keeps_seed (h.sow _) _) fun _ => armed
  | false => exact Keeps.bind (h.write _ _ _ _) fun _ => armed

theorem refuseScene (name : String) : Keeps I (refuseScene name) :=
  Keeps.bind (h.write _ _ _ _) fun _ => Keeps.bind
    (Keeps.update fun s => h.place s _ _ _) fun _ => Keeps.fail _

theorem enterScene (id : String) : Keeps I (enterScene id) := by
  refine Keeps.look fun s _ => ?_
  cases s.course with
  | none => exact Keeps.fail _
  | some course =>
    dsimp only
    cases course.scene? id with
    | none => exact h.refuseScene id
    | some scene => exact h.activate id scene _

/-- Loading only writes variables, once the course has taken its place. -/
theorem loadCourse (c : Course) (held : ∀ s, I s → I { s with
      course := some (adoptCourse s.store.next c).1
      store := { s.store with next := (adoptCourse s.store.next c).2, shared := s.store.shared || c.marks != 0 } }) :
    Keeps I (loadCourse c) :=
  Keeps.bind (h.write _ _ _ _) fun _ => Keeps.bind (Keeps.update held) fun _ => keeps_seed (h.sow _) _

end Entering

end Session

/-! ### Surroundings -/

namespace Session

variable {η : Type}

/-- What a session keeps beside its course, its state and its log. -/
structure Surroundings where
  bus : Bus
  history : List Occurrence
  moves : List Move

def surroundings (s : Session η) : Surroundings := ⟨s.bus, s.history, s.moves⟩

section

variable (J : Surroundings → Prop)

/-- Nothing that is done to the state and the log changes what is around them. -/
theorem firm_surroundings : Firm fun s : Session η => J s.surroundings where
  addEntry _ _ h := h
  addLine _ _ h := h
  setCopy _ _ _ h := h
  setNode _ _ := keeps_setNode fun _ _ _ h _ => h
  updateNode _ _ := keeps_updateNode fun _ _ _ _ h _ => h

theorem firm_entrances (J : List Entrance → Prop) : Firm fun s : Session η => J s.entrances where
  addEntry _ _ h := h
  addLine _ _ h := h
  setCopy _ _ _ h := h
  setNode _ _ := keeps_setNode fun _ _ _ h _ => h
  updateNode _ _ := keeps_updateNode fun _ _ _ _ h _ => h

/-- Nor does entering a scene. -/
theorem entering_surroundings : Entering fun s : Session η => J s.surroundings where
  toFirm := firm_surroundings J
  place _ _ _ _ h := h
  triggers _ _ h := h
  resetScene _ h := h
  sow _ _ _ := Keeps.update fun _ h => h

end

end Session

/-! ### Actions and triggers -/

/-- All scenes that actions go to, composites included, are of one sort. -/
def Action.LeadTo (R : String → Prop) (actions : List Action) : Prop :=
  ∀ id ∈ (Action.preorderAll actions).filterMap Action.destination?, R id

/-- All scenes that a trigger goes to are of one sort. -/
def Trigger.LeadsTo (R : String → Prop) (t : Trigger) : Prop := Action.LeadTo R t.actions

namespace Session

variable {η : Type} {I : Session η → Prop} {R : String → Prop}

/-- Callbacks that are guarded, where it counts only what becomes of the scenes of one sort. -/
structure Heeds (cb : Callbacks η) (R : String → Prop) (G P : Session η → Prop) : Prop where
  goto : ∀ call, cb.goto = some call → ∀ id, R id → Guards G P P (call id)
  present : ∀ call, cb.present = some call → ∀ r, Guards G P P (call r)

namespace Firm

variable {G P : Session η → Prop} {cb : Callbacks η} (h : Firm fun s => G s ∧ P s)
  (heeds : Heeds cb R G P)

include h heeds

theorem present (kind : UiKind) (text : String) (extras : List (String × Value)) :
    Guards G P P (present cb kind text extras) := by
  refine .bind (.look fun s _ => .pure _) fun extras => ?_
  refine .bind (h.ask _).guards fun r => ?_
  cases hp : cb.present with
  | none => exact (h.write _ _ _ _).guards
  | some call => exact heeds.present call hp r

theorem leaveFor {sceneId : String} (leads : R sceneId) : Guards G P P (leaveFor cb sceneId) := by
  unfold Session.leaveFor
  cases hg : cb.goto with
  | none => exact (h.write _ _ _ _).guards
  | some call => exact heeds.goto call hg sceneId leads

omit h heeds

mutual

theorem execute (h : Firm fun s => G s ∧ P s) (heeds : Heeds cb R G P) (a : Action)
    (leads : ∀ id ∈ a.preorder.filterMap Action.destination?, R id) :
    Guards G P P (execute cb a) := by
  have announced (tag : String) : Guards G P P (announce tag) := (h.write _ _ _ _).guards
  cases a with
  | gotoScene sceneId _ =>
    refine .bind (announced _) fun _ => h.leaveFor heeds (leads sceneId ?_)
    simp [Action.preorder, Action.destination?]
  | setVar path value => exact .bind (announced _) fun _ => (h.assign path value).guards
  | incVar path amount => exact .bind (announced _) fun _ => (h.increment path amount).guards
  | addScore value => exact .bind (announced _) fun _ => (h.increment scorePath value).guards
  | toast text extras => exact .bind (announced _) fun _ => h.present heeds .toast text extras
  | modal text extras => exact .bind (announced _) fun _ => h.present heeds .modal text extras
  | resetNode nodeId => exact .bind (announced _) fun _ => (h.setNode nodeId .emptyMap).guards
  | delay _ => exact announced _
  | sequence actions =>
    refine .bind (announced _) fun _ => executeAll h heeds actions fun id inside => leads id ?_
    simpa [Action.preorder, Action.destination?] using inside
  | parallel actions =>
    refine .bind (announced _) fun _ => executeAll h heeds actions fun id inside => leads id ?_
    simpa [Action.preorder, Action.destination?] using inside
  | unknown tag params =>
    refine .bind (announced _) fun _ => .bind (.look fun s _ => .pure _) fun _ => ?_
    exact (h.write _ _ _ _).guards

theorem executeAll (h : Firm fun s => G s ∧ P s) (heeds : Heeds cb R G P) (as : List Action)
    (leads : Action.LeadTo R as) : Guards G P P (executeAll cb as) := by
  cases as with
  | nil => exact .pure ()
  | cons a as =>
    rw [Action.LeadTo, Action.preorderAll, List.filterMap_append, List.forall_mem_append] at leads
    exact .bind (execute h heeds a leads.1) fun _ => executeAll h heeds as leads.2

end

include h heeds

/-- A trigger runs one of its branches, and both lead only to scenes of the sort. -/
theorem react {t : Trigger} (leads : t.LeadsTo R) :
    Guards G P P (Session.weigh t >>= fun holds => runBranch cb t holds) := by
  rw [Trigger.LeadsTo, Action.LeadTo, Trigger.actions, Action.preorderAll_append,
    List.filterMap_append,
    List.forall_mem_append] at leads
  refine .bind (h.weigh t).guards fun holds => ?_
  unfold runBranch
  cases holds with
  | true => exact .bind (h.write _ _ _ _).guards fun _ => h.executeAll heeds _ leads.1
  | false =>
    cases ha : t.alternative with
    | none => exact .pure ()
    | some as =>
      rw [ha] at leads
      exact .bind (h.write _ _ _ _).guards fun _ => h.executeAll heeds _ leads.2

end Firm

theorem mem_of_mem_matching {e : Event} {ts : List Trigger} {i : Nat} {t : Trigger}
    (h : (i, t) ∈ matching e ts) : t ∈ ts := by
  rw [matching] at h
  obtain ⟨⟨u, j⟩, member, same⟩ := List.mem_map.1 (List.mem_filter.1 h).1
  obtain ⟨rfl, rfl⟩ := Prod.mk.inj same
  exact (List.mem_zipIdx' member).2 ▸ List.getElem_mem _

/-- Callbacks that keep an invariant, where it counts only what becomes of the scenes of one
sort. -/
abbrev Obeys (cb : Callbacks η) (R : String → Prop) (I : Session η → Prop) : Prop :=
  Heeds cb R I fun _ => True

namespace Inward

variable {cb : Callbacks η} (h : Inward I) (obeys : Obeys cb R I)

include h

/-- All states that an invariant holds of are of one kind. -/
theorem unconditional : Historic fun s => I s ∧ True := by simpa only [and_true] using h.toHistoric

include obeys

theorem execute (a : Action) (leads : ∀ id ∈ a.preorder.filterMap Action.destination?, R id) :
    Keeps I (execute cb a) :=
  Guards.true_iff.1 (h.unconditional.execute obeys a leads)

theorem fire (e : Event) (index : Nat) {t : Trigger} (leads : t.LeadsTo R) :
    Keeps I (fire cb e index t) := by
  refine Keeps.bind (h.moved _) fun _ => Keeps.bind (h.write _ _ _ _) fun _ => ?_
  exact Guards.true_iff.1 (h.unconditional.react obeys leads)

theorem handle (e : Event) (ts : List Trigger) (leads : ∀ t ∈ ts, t.LeadsTo R) :
    Keeps I (handle cb e ts) :=
  Keeps.bind (Keeps.each fun (i, _) found => h.fire obeys e i (leads _ (mem_of_mem_matching found)))
    fun _ => Keeps.pure _

end Inward

/-! ### Hosts -/

/-- What a party can do to a session without going to a scene: emitting events, writing to the
state, and keeping its own affairs and the history in order. -/
inductive Call (emit : Emitter η) : Step (Session η) Unit → Prop where
  | emit (e : Event) : Call emit (emit e)
  | setState (state : Value) : Call emit (setState state)
  | updateNode (id : String) (updates : Value) : Call emit (updateNode id updates)
  | note (f : Session η → RunLog) : Call emit (Step.update fun s => { s with log := f s })
  | listen (f : Session η → Bus) : Call emit (Step.update fun s => { s with bus := f s })
  | remember (f : Session η → η) : Call emit (Step.update fun s => { s with host := f s })
  | chronicle (o : Session η → Occurrence) : Call emit (Step.update fun s => s.chronicle (o s))

theorem Detached.call {G P : Session η → Prop} (h : Detached fun s => G s ∧ P s) {emit : Emitter η}
    (he : ∀ e, Guards G P P (emit e)) {x : Step (Session η) Unit} (called : Call emit x) :
    Guards G P P x := by
  cases called with
  | emit e => exact he e
  | setState state => exact (h.setState state).guards
  | updateNode id updates => exact (h.updateNode id updates).guards
  | note f => exact (Keeps.update fun s hs => h.log s _ hs).guards
  | listen f => exact (Keeps.update fun s hs => h.bus s _ hs).guards
  | remember f => exact (Keeps.update fun s hs => h.host s _ hs).guards
  | chronicle o => exact (h.chronicle o).guards

theorem Stable.call {emit : Emitter η} (h : Stable I) (he : ∀ e, Keeps I (emit e))
    {x : Step (Session η) Unit} (called : Call emit x) : Keeps I x := by
  have detached : Detached fun s => I s ∧ True := by
    simpa only [and_true] using (⟨h.toHistoric, h.bus, h.host, h.log⟩ : Detached I)
  exact Guards.true_iff.1 (detached.call (fun e => Guards.true_iff.2 (he e)) called)

end Session

structure Host.MadeOf {η : Type} (host : Host η)
    (calls : Emitter η → Step (Session η) Unit → Prop) : Prop where
  onScene : ∀ call, host.onScene = some call → ∀ emit id, (call emit id).MadeOf (calls emit)
  onState : ∀ call, host.onState = some call → ∀ emit v, (call emit v).MadeOf (calls emit)
  onUi : ∀ call, host.onUi = some call → ∀ emit r, (call emit r).MadeOf (calls emit)
  onEvent : ∀ emit name e, (host.onEvent emit name e).MadeOf (calls emit)

theorem Host.MadeOf.mono {η : Type} {host : Host η}
    {calls more : Emitter η → Step (Session η) Unit → Prop}
    (h : ∀ emit x, calls emit x → more emit x) (made : host.MadeOf calls) : host.MadeOf more where
  onScene call hc emit id := (made.onScene call hc emit id).mono (h emit)
  onState call hc emit v := (made.onState call hc emit v).mono (h emit)
  onUi call hc emit r := (made.onUi call hc emit r).mono (h emit)
  onEvent emit name e := (made.onEvent emit name e).mono (h emit)

namespace Session

variable {η : Type} {I : Session η → Prop} {R : String → Prop} {host : Host η}

/-- Updates of a node, which report the state to the host, are made of calls as well. -/
theorem madeOf_changeNode (made : host.MadeOf Call) (emit : Emitter η) (id : String)
    (updates : Value) (h : Call emit (updateNode id updates)) :
    (changeNode host emit id updates).MadeOf (Call emit) := by
  refine MadeOf.andThen (.call h) ?_
  unfold reportState
  cases hs : host.onState with
  | none => exact .done
  | some call => exact .look fun s => .andThen (.call (.chronicle _)) (made.onState call hs emit _)

/-! ### Telling -/

namespace Historic

variable {G P : Session η → Prop} (h : Historic fun s => G s ∧ P s)

include h

theorem reportFailure (e : Event) (l : Listener) (ofAll : Bool) (fault : Fault) :
    Guards G P P (reportFailure e l ofAll fault) := by
  refine .look fun s _ => ?_
  by_cases diagnosed : s.diagnosed = true
  · rw [if_pos diagnosed]
    exact (h.write _ _ _ _).guards
  · rw [if_neg diagnosed]
    exact (Keeps.update fun s hs => h.addLine s _ hs).guards

variable {tell : Listener → Event → Step (Session η) Unit} (ht : ∀ l e, Guards G P P (tell l e))

include ht

theorem tellSafely (e : Event) (ofAll : Bool) (l : Listener) :
    Guards G P P (tellSafely tell e ofAll l) := by
  refine .bind (h.chronicle _).guards fun _ => .attempting (ht l e) fun outcome => ?_
  cases outcome with
  | ok _ => exact (h.chronicle _).guards
  | error fault => exact .bind (h.reportFailure e l ofAll fault) fun _ => (h.chronicle _).guards

theorem tellAll (e : Event) : Guards G P P (tellAll tell e) := by
  refine .bind (h.chronicle _).guards fun _ => ?_
  refine .look fun s _ => .bind (.each fun l _ => h.tellSafely ht e false l) fun _ => ?_
  exact .look fun s _ => .bind (.each fun l _ => h.tellSafely ht e true l) fun _ =>
    (h.chronicle _).guards

omit ht

theorem reportState {emit : Emitter η} (cause : Option Event)
    (called : ∀ call, host.onState = some call → ∀ v, Guards G P P (call emit v)) :
    Guards G P P (reportState host emit cause) := by
  unfold Session.reportState
  cases hs : host.onState with
  | none => exact .pure ()
  | some call => exact .look fun s _ => .bind (h.chronicle _).guards fun _ => called call hs _

end Historic

/-! ### Events -/

theorem Inward.gotoScene (h : Inward I) {emit : Emitter η} {id : String}
    (entered : Keeps I (enterScene id))
    (called : ∀ call, host.onScene = some call → Keeps I (call emit id))
    (emitted : ∀ e, Keeps I (emit e)) : Keeps I (gotoScene host emit id) := by
  have arrives : Keeps I (do Step.update fun s => s.moved (.arrives id); emit (.sceneEnter id)) :=
    Keeps.bind (h.moved _) fun _ => emitted _
  refine Keeps.bind entered fun _ => ?_
  cases hs : host.onScene with
  | none => exact arrives
  | some call => exact Keeps.bind (called call hs) fun _ => arrives

/-- An invariant that outlives all that a course and its host do: what the host may do outlives it,
the active triggers lead to scenes of one sort, and entering a scene of that sort outlives it. -/
structure Governs (I : Session η → Prop) (R : String → Prop)
    (calls : Emitter η → Step (Session η) Unit → Prop) :
    Prop extends Inward I where
  calls : ∀ emit : Emitter η, (∀ e, Keeps I (emit e)) → ∀ x, calls emit x → Keeps I x
  guided : ∀ s, I s → ∀ t ∈ s.triggers, t.LeadsTo R
  enter : ∀ id, R id → Keeps I (enterScene id)

namespace Governs

variable {calls : Emitter η → Step (Session η) Unit → Prop} (h : Governs I R calls)
  (made : host.MadeOf calls) {emit : Emitter η} (he : ∀ e, Keeps I (emit e))

include h made he

theorem gotoScene {id : String} (leads : R id) : Keeps I (gotoScene host emit id) :=
  h.toInward.gotoScene (h.enter id leads)
    (fun call hs => (made.onScene call hs emit id).keeps (h.calls emit he)) he

theorem reportState (cause : Option Event) : Keeps I (reportState host emit cause) := by
  refine Guards.true_iff.1 (h.unconditional.reportState cause fun call hs v => Guards.true_iff.2 ?_)
  exact (made.onState call hs emit v).keeps (h.calls emit he)

theorem dispatch (e : Event) : Keeps I (dispatch host emit e) := by
  have obeys : Obeys ⟨some (Session.gotoScene host emit), host.onUi.map (· emit)⟩ R I := by
    constructor
    · rintro call ⟨⟩ id leads
      exact Guards.true_iff.2 (h.gotoScene made he leads)
    · intro call hc r
      obtain ⟨present, hp, rfl⟩ := Option.map_eq_some_iff.1 hc
      exact Guards.true_iff.2 ((made.onUi present hp emit r).keeps (h.calls emit he))
  refine Keeps.bind (Keeps.ofExcept _) fun record => Keeps.bind (h.write _ _ _ _) fun _ => ?_
  refine Keeps.look fun s hs => Keeps.bind (h.moved _) fun _ =>
    Keeps.bind (Keeps.attempt ?_) fun outcome => ?_
  · exact h.handle obeys e s.triggers (h.guided s hs)
  · exact Keeps.bind (h.moved _) fun _ => Keeps.bind (Keeps.ofExcept _) fun _ => Keeps.pure ()

theorem tell (l : Listener) (e : Event) : Keeps I (tell host emit l e) := by
  cases l with
  | course => exact h.dispatch made he e
  | host name => exact (made.onEvent emit name e).keeps (h.calls emit he)

end Governs

/-- However deeply events cause each other, the invariant outlives them. -/
theorem Governs.emit {calls : Emitter η → Step (Session η) Unit → Prop} (h : Governs I R calls)
    (made : host.MadeOf calls) (n : Nat) (e : Event) : Keeps I (emit host n e) := by
  induction n generalizing e with
  | zero => exact Keeps.unfinished
  | succ n ih =>
    have told : Keeps I (Session.tellAll (Session.tell host (Session.emit host n)) e) :=
      Guards.true_iff.1 (h.unconditional.tellAll
        (fun l e => Guards.true_iff.2 (h.tell made ih l e)) e)
    exact Keeps.bind told fun _ => h.reportState made ih (some e)

end Session

end SceneCourse
