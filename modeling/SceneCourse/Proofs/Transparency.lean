import SceneCourse.Proofs.Leaves
import SceneCourse.Proofs.TriggerPass
import SceneCourse.Session.Running

/-! Composite actions are transparent. A run of a list of actions and a run of its leaves, one after
another, end in the same way in the same session, with the same in the log apart from the
announcements of composites; a failing action ends both at the same leaf. This is proved for all
callbacks that do not look at the log, and the callbacks that a session gives to its triggers are
among them. -/

namespace SceneCourse

namespace Session

variable {η α β : Type}

/-! ### Logs -/

def withLog (s : Session η) (log : RunLog) : Session η := { s with log }

end Session

/-- What can be done to a log: an entry or a line of the stream is added, its data follow an edit,
or it is emptied. -/
inductive Notice where
  | entry (e : LogEntry)
  | line (text : String)
  | edit (e : Value.Edit)
  | clear

namespace RunLog

def take (log : RunLog) : Notice → RunLog
  | .entry e => log.add e
  | .line text => { log with lines := log.lines ++ [text] }
  | .edit e => log.follow e
  | .clear => log.clear

def after (log : RunLog) (notices : List Notice) : RunLog := notices.foldl take log

theorem after_append (log : RunLog) (xs ys : List Notice) :
    log.after (xs ++ ys) = (log.after xs).after ys :=
  List.foldl_append

@[simp] theorem verbose_after (log : RunLog) (notices : List Notice) :
    (log.after notices).verbose = log.verbose := by
  induction notices generalizing log with
  | nil => rfl
  | cons n notices ih =>
    have first : (log.take n).verbose = log.verbose := by cases n <;> rfl
    exact (ih _).trans first

theorem addAll_eq_after (log : RunLog) (es : List LogEntry) :
    log.addAll es = log.after (es.map .entry) := by
  rw [after, List.foldl_map]
  rfl

theorem after_edits (log : RunLog) (edits : List Value.Edit) :
    edits.foldl (fun log e => log.follow e) log = log.after (edits.map .edit) := by
  rw [after, List.foldl_map]
  rfl

end RunLog

namespace Session

variable {η α β : Type}

theorem commit_withLog (s : Session η) (log : RunLog) (store : Store) (edits : List Value.Edit) :
    (s.withLog log).commit store edits = (s.commit store edits).withLog
      (log.after (edits.map .edit)) := by
  rw [← RunLog.after_edits]
  rfl

/-- Whatever the log is, the step ends the same way in the same session, and does the same to the
log. Only whether every entry is also written to the stream may matter. -/
def Blind (x : Step (Session η) α) : Prop :=
  ∀ s : Session η, ∃ (ending : Ending α) (t : Session η) (notices : List Notice), ∀ log : RunLog,
    log.verbose = s.log.verbose → x (s.withLog log) = (ending, t.withLog (log.after notices))

namespace Blind

theorem pure (a : α) : Blind (Step.pure a : Step (Session η) α) :=
  fun s => ⟨.done a, s, [], fun _ _ => rfl⟩

theorem fail (e : Fault) : Blind (Step.fail e : Step (Session η) α) :=
  fun s => ⟨.failed e, s, [], fun _ _ => rfl⟩

theorem ofExcept (r : Except Fault α) : Blind (Step.ofExcept r : Step (Session η) α) := by
  cases r with
  | ok a => exact pure a
  | error e => exact fail e

theorem update {f : Session η → Session η} (h : ∀ s log, f (s.withLog log) = (f s).withLog log) :
    Blind (Step.update f) :=
  fun s => ⟨.done (), f s, [], fun log _ => congrArg (Prod.mk _) (h s log)⟩

theorem bind {x : Step (Session η) α} {f : α → Step (Session η) β} (hx : Blind x)
    (hf : ∀ a, Blind (f a)) : Blind (x >>= f) := by
  intro s
  obtain ⟨ending, t, notices, first⟩ := hx s
  cases ending with
  | done a =>
    obtain ⟨ending, u, later, second⟩ := hf a (t.withLog s.log)
    refine ⟨ending, u, notices ++ later, fun log same => ?_⟩
    show Step.bind x f _ = _
    rw [Step.bind, first log same, RunLog.after_append]
    exact second _ ((RunLog.verbose_after log notices).trans same)
  | failed e =>
    refine ⟨.failed e, t, notices, fun log same => ?_⟩
    show Step.bind x f _ = _
    rw [Step.bind, first log same]
  | unfinished =>
    refine ⟨.unfinished, t, notices, fun log same => ?_⟩
    show Step.bind x f _ = _
    rw [Step.bind, first log same]

theorem look {f : Session η → Step (Session η) α} (unseen : ∀ s log, f (s.withLog log) = f s)
    (h : ∀ s, Blind (f s)) : Blind (Step.current >>= f) := by
  intro s
  obtain ⟨ending, t, notices, same⟩ := h s s
  refine ⟨ending, t, notices, fun log verbose => ?_⟩
  show f (s.withLog log) (s.withLog log) = _
  rw [unseen, same log verbose]

theorem write (level : Level) (category : Category) (message : String) (data : Value) :
    Blind (η := η) (write level category message data) := by
  intro s
  let e : LogEntry := { level, category, message, data }
  obtain ⟨ending, ends⟩ := Step.ofExcept_eq (σ := Session η) (s.log.outcome e)
  refine ⟨ending, s, [.entry e], fun log same => ?_⟩
  have outcome : log.outcome e = s.log.outcome e := by
    rw [RunLog.outcome, RunLog.outcome, RunLog.reachesStream, RunLog.reachesStream, same]
  show Step.ofExcept (log.outcome e) _ = _
  rw [outcome]
  exact ends _

theorem ask (question : Store → Limits → Noted α) : Blind (η := η) (ask question) := by
  intro s
  obtain ⟨ending, ends⟩ := Step.ofExcept_eq (σ := Session η) (question s.store s.limits).result
  refine ⟨ending, s, (question s.store s.limits).notes.map .entry, fun log _ => ?_⟩
  rw [← RunLog.addAll_eq_after]
  exact ends _

theorem setCopy (path : String) (v : Value) : Blind (η := η) (setCopy path v) := by
  intro s
  let written := (s.store.adopt v).2.set path (s.store.adopt v).1
  refine ⟨.done (s.store.adopt v).1, s.commit written.1 written.2, written.2.map .edit,
    fun log _ => ?_⟩
  rw [← commit_withLog]
  rfl

theorem setNode (id : String) (v : Value) : Blind (η := η) (setNode id v) := by
  intro s
  cases put : (s.store.adopt v).2.setNodeState id (s.store.adopt v).1 with
  | ok written =>
    refine ⟨.done (), s.commit written.1 written.2, written.2.map .edit, fun log _ => ?_⟩
    rw [← commit_withLog]
    simp only [Session.setNode, withLog, put]
  | error e =>
    refine ⟨.failed e, s, [], fun log _ => ?_⟩
    simp only [Session.setNode, withLog, put]
    rfl

theorem each {f : β → Step (Session η) Unit} {as : List β} (h : ∀ a ∈ as, Blind (f a)) :
    Blind (Step.each f as) := by
  induction as with
  | nil => exact pure ()
  | cons a as ih =>
    exact bind (h a List.mem_cons_self) fun _ => ih fun b hb => h b (List.mem_cons_of_mem a hb)

end Blind

end Session

/-- Callbacks that do not look at the log. They may do anything else, fail and write to the log
among it. -/
structure Callbacks.Blind {η : Type} (cb : Callbacks η) : Prop where
  goto : ∀ call, cb.goto = some call → ∀ id, Session.Blind (call id)
  present : ∀ call, cb.present = some call → ∀ r, Session.Blind (call r)

namespace Session

variable {η α β : Type}

namespace Blind

theorem current (v : Value) : Blind (η := η) (current v) :=
  look (f := fun s => Step.pure (s.refresh v)) (fun _ _ => rfl) fun _ => pure _

theorem increment (path : String) (amount : Amount) : Blind (η := η) (increment path amount) := by
  refine bind (look (fun _ _ => rfl) fun s => ofExcept _) fun old =>
    bind (ofExcept _) fun (base, foreign) => ?_
  have rest : Blind (η := η) (do
      let sum ← Step.ofExcept (base.add amount)
      let written ← Session.setCopy path sum.value
      let added ← Step.ofExcept amount.value.told
      Session.write .debug .state s!"Incremented {path} by {added}"
          (.object [("value", written)])) :=
    bind (ofExcept _) fun sum => bind (setCopy _ _) fun written =>
      bind (ofExcept _) fun added => write _ _ _ _
  cases foreign with
  | false => exact rest
  | true => exact bind (write _ _ _ _) fun _ => rest

theorem assign (path : String) (v : Value) : Blind (η := η) (assign path v) :=
  bind (current v) fun _ => bind (ask _) fun _ => bind (setCopy _ _) fun _ => write _ _ _ _

variable {cb : Callbacks η} (h : cb.Blind)

include h

theorem leaveFor (sceneId : String) : Blind (leaveFor cb sceneId) := by
  rw [Session.leaveFor]
  cases called : cb.goto with
  | some call => exact h.goto call called sceneId
  | none => exact write _ _ _ _

theorem showing (kind : UiKind) (text : String) (extras : List (String × Value)) :
    Blind (present cb kind text extras) := by
  refine bind (look (fun _ _ => rfl) fun s => pure _) fun extras => bind (ask _) fun r => ?_
  cases called : cb.present with
  | some call => exact h.present call called r
  | none => exact write _ _ _ _

theorem execute {a : Action} (plain : a.isComposite = false) : Blind (execute cb a) := by
  have announced (tag : String) : Blind (η := η) (announce tag) := write _ _ _ _
  cases a with
  | gotoScene sceneId _ => exact bind (announced _) fun _ => leaveFor h sceneId
  | setVar path v => exact bind (announced _) fun _ => assign path v
  | incVar path amount => exact bind (announced _) fun _ => increment path amount
  | addScore amount => exact bind (announced _) fun _ => increment scorePath amount
  | toast text extras => exact bind (announced _) fun _ => showing h .toast text extras
  | modal text extras => exact bind (announced _) fun _ => showing h .modal text extras
  | resetNode nodeId => exact bind (announced _) fun _ => setNode nodeId .emptyMap
  | delay _ => exact announced _
  | sequence _ => simp [Action.isComposite] at plain
  | parallel _ => simp [Action.isComposite] at plain
  | unknown tag params => exact bind (announced _) fun _ => bind (current _) fun _ => write _ _ _ _

end Blind

/-! ### The run over the leaves -/

def announcement (tag : String) : LogEntry :=
  { level := .debug, category := .action, message := s!"Executing action: {tag}" }

end Session

def Notice.ofComposite : Notice → Bool
  | .entry e => e.level == .debug && e.category == .action &&
      (e.message == "Executing action: sequence" || e.message == "Executing action: parallel")
  | _ => false

namespace Session

variable {η α β : Type}

/-- Whatever the log is, the two steps end the same way in the same session, and do the same to the
log apart from announcing composites. -/
def Twins (x y : Step (Session η) α) : Prop :=
  ∀ s : Session η, ∃ (ending : Ending α) (t : Session η) (left right : List Notice),
    left.filter (!·.ofComposite) = right.filter (!·.ofComposite) ∧
      ∀ log : RunLog, log.verbose = s.log.verbose → x (s.withLog log) =
        (ending, t.withLog (log.after left)) ∧
        y (s.withLog log) = (ending, t.withLog (log.after right))

namespace Twins

theorem refl {x : Step (Session η) α} (h : Blind x) : Twins x x := by
  intro s
  obtain ⟨ending, t, notices, same⟩ := h s
  exact ⟨ending, t, notices, notices, rfl, fun log verbose => ⟨same log verbose, same log verbose⟩⟩

theorem bind {x y : Step (Session η) α} {f g : α → Step (Session η) β} (hx : Twins x y)
    (hf : ∀ a, Twins (f a) (g a)) : Twins (x >>= f) (y >>= g) := by
  intro s
  obtain ⟨ending, t, left, right, apart, first⟩ := hx s
  cases ending with
  | done a =>
    obtain ⟨ending, u, left', right', apart', second⟩ := hf a (t.withLog s.log)
    refine ⟨ending, u, left ++ left', right ++ right',
      by rw [List.filter_append, List.filter_append, apart, apart'],
      fun log verbose => ?_⟩
    obtain ⟨hx, hy⟩ := first log verbose
    show Step.bind x f _ = _ ∧ Step.bind y g _ = _
    rw [Step.bind, Step.bind, hx, hy, RunLog.after_append, RunLog.after_append]
    exact ⟨(second _ ((RunLog.verbose_after log left).trans verbose)).1,
      (second _ ((RunLog.verbose_after log right).trans verbose)).2⟩
  | failed e =>
    refine ⟨.failed e, t, left, right, apart, fun log verbose => ?_⟩
    obtain ⟨hx, hy⟩ := first log verbose
    show Step.bind x f _ = _ ∧ Step.bind y g _ = _
    rw [Step.bind, Step.bind, hx, hy]
    exact ⟨rfl, rfl⟩
  | unfinished =>
    refine ⟨.unfinished, t, left, right, apart, fun log verbose => ?_⟩
    obtain ⟨hx, hy⟩ := first log verbose
    show Step.bind x f _ = _ ∧ Step.bind y g _ = _
    rw [Step.bind, Step.bind, hx, hy]
    exact ⟨rfl, rfl⟩

/-- Announcing a composite changes nothing but the log. -/
theorem announced {x y : Step (Session η) Unit} (h : Twins x y) {a : Action}
    (composite : a.isComposite = true) : Twins (Step.bind (announce a.tag) fun _ => x) y := by
  intro s
  obtain ⟨ending, t, left, right, apart, same⟩ := h s
  have told : Notice.ofComposite (.entry (announcement a.tag)) = true := by
    cases a with
    | sequence _ => rfl
    | parallel _ => rfl
    | _ => simp [Action.isComposite] at composite
  refine ⟨ending, t, .entry (announcement a.tag) :: left, right, ?_,
    fun log verbose => ⟨?_, (same log verbose).2⟩⟩
  · rw [List.filter_cons_of_neg (by simp [told]), apart]
  · rw [announce, write_null]
    exact (same (log.add (announcement a.tag)) verbose).1

end Twins

/-- By induction on the actions that are visited: at a composite only one of the two runs does
something, which is announcing it, and at a leaf both do the same. -/
theorem twins_visits {cb : Callbacks η} (h : cb.Blind) (as : List Action) :
    Twins (Step.each (visit cb) as) (Step.each (visit cb) (as.filter (!·.isComposite))) := by
  induction as with
  | nil => exact .refl (Blind.pure ())
  | cons a as ih =>
    cases composite : a.isComposite with
    | true =>
      rw [List.filter_cons_of_neg (by simp [composite]), Step.each, visit, if_pos composite]
      exact ih.announced composite
    | false =>
      rw [List.filter_cons_of_pos (by simp [composite]), Step.each, Step.each]
      have same : Blind (visit cb a) := by
        rw [visit, composite, if_neg (by simp)]
        exact Blind.execute h composite
      exact .bind (.refl same) fun _ => ih

theorem twins_executeAll {cb : Callbacks η} (h : cb.Blind) (as : List Action) :
    Twins (executeAll cb as) (executeAll cb (Action.leaves as)) := by
  rw [executeAll_eq_visits, executeAll_leaves]
  exact twins_visits h (Action.preorderAll as)

end Session

/-! ### The callbacks of a session -/

/-- A host that does not look at the log, as long as no event makes it do so. -/
structure Host.Blind {η : Type} (host : Host η) : Prop where
  onScene : ∀ call, host.onScene = some call → ∀ emit, (∀ e, Session.Blind (emit e)) →
    ∀ id, Session.Blind (call emit id)
  onState : ∀ call, host.onState = some call → ∀ emit, (∀ e, Session.Blind (emit e)) →
    ∀ v, Session.Blind (call emit v)
  onUi : ∀ call, host.onUi = some call → ∀ emit, (∀ e, Session.Blind (emit e)) →
    ∀ r, Session.Blind (call emit r)
  onEvent : ∀ emit, (∀ e, Session.Blind (emit e)) →
    ∀ name e, Session.Blind (host.onEvent emit name e)

namespace Session

variable {η α β : Type}

namespace Blind

theorem unfinished : Blind (Step.unfinished : Step (Session η) α) :=
  fun s => ⟨.unfinished, s, [], fun _ _ => rfl⟩

theorem attempt {x : Step (Session η) α} (hx : Blind x) : Blind x.attempt := by
  intro s
  obtain ⟨ending, t, notices, same⟩ := hx s
  have ends (log : RunLog) (verbose : log.verbose = s.log.verbose) :
      x.attempt (s.withLog log) = Step.attempt
          (fun _ => (ending, t.withLog (log.after notices))) s := by
    simp only [Step.attempt, same log verbose]
  cases ending with
  | done a => exact ⟨.done (.ok a), t, notices, ends⟩
  | failed e => exact ⟨.done (.error e), t, notices, ends⟩
  | unfinished => exact ⟨.unfinished, t, notices, ends⟩

theorem chronicle (o : Occurrence) : Blind (Step.update fun s : Session η => s.chronicle o) :=
  update fun _ _ => rfl

theorem moved (m : Move) : Blind (Step.update fun s : Session η => s.moved m) :=
  update fun _ _ => rfl

theorem executeAll {cb : Callbacks η} (h : cb.Blind) (as : List Action) :
    Blind (executeAll cb as) := by
  rw [executeAll_eq_visits]
  refine each fun a _ => ?_
  rw [visit]
  split
  · exact write _ _ _ _
  next plain => exact execute h (by simpa using plain)

theorem weigh (t : Trigger) : Blind (η := η) (weigh t) := by
  unfold Session.weigh
  cases t.conditions with
  | none => exact pure true
  | some cs =>
    exact look (fun _ _ => rfl) fun s => bind (ask _) fun holds => bind (ofExcept _) fun _ =>
      bind (write _ _ _ _) fun _ =>
      pure holds

theorem fire {cb : Callbacks η} (h : cb.Blind) (e : Event) (index : Nat) (t : Trigger) :
    Blind (fire cb e index t) := by
  refine bind (moved _) fun _ => bind (write _ _ _ _) fun _ => bind (weigh t) fun holds => ?_
  unfold runBranch
  cases holds with
  | true => exact bind (write _ _ _ _) fun _ => executeAll h _
  | false =>
    cases t.alternative with
    | some as => exact bind (write _ _ _ _) fun _ => executeAll h _
    | none => exact pure ()

theorem handle {cb : Callbacks η} (h : cb.Blind) (e : Event) (ts : List Trigger) :
    Blind (handle cb e ts) :=
  bind (each fun _ _ => fire h e _ _) fun _ => pure _

theorem sow (tier name : String) (v : Value) : Blind (η := η) (sow tier name v) := by
  intro s
  let written := s.store.set s!"{tier}.vars.{name}" v
  refine ⟨.done (), (s.commit written.1 written.2).remember tier name v, written.2.map .edit,
    fun log _ => ?_⟩
  show (Ending.done (), ((s.withLog log).commit written.1 written.2).remember tier name v) = _
  rw [commit_withLog]
  rfl

theorem seed {tier : String} {vars : Session η → List (String × Value)}
    (unseen : ∀ s log, vars (s.withLog log) = vars s) : Blind (seed tier vars) := by
  refine look (fun s log => by rw [unseen]) fun s => each fun name _ => ?_
  refine look (fun s log => by rw [unseen]) fun s => ?_
  cases (vars s).lookup name with
  | some v => exact sow tier name v
  | none => exact pure ()

theorem activate (id : String) (scene : Scene) (anew : Bool) :
    Blind (η := η) (activate id scene anew) := by
  have armed : Blind (η := η) (do
      Step.update ({ · with triggers := scene.triggers })
      Session.write .debug .event
          s!"Active trigger set replaced ({scene.triggers.length} triggers)") :=
    bind (update fun _ _ => rfl) fun _ => write _ _ _ _
  refine bind (write _ _ _ _) fun _ => bind (update fun _ _ => rfl) fun _ => ?_
  cases anew with
  | true => exact bind (update fun _ _ => rfl) fun _ => bind (seed fun _ _ => rfl) fun _ => armed
  | false => exact bind (write _ _ _ _) fun _ => armed

theorem enterScene (id : String) : Blind (η := η) (enterScene id) := by
  refine look (fun _ _ => rfl) fun s => ?_
  cases s.course with
  | none => exact fail _
  | some course =>
    dsimp only
    cases course.scene? id with
    | none => exact bind (write _ _ _ _) fun _ => bind (update fun _ _ => rfl) fun _ => fail _
    | some scene => exact activate id scene _

variable {host : Host η} {emitter : Emitter η} (h : host.Blind) (inner : ∀ e, Blind (emitter e))

include h inner

theorem gotoScene (id : String) : Blind (gotoScene host emitter id) := by
  refine bind (enterScene id) fun _ => ?_
  cases called : host.onScene with
  | some call =>
    exact bind (h.onScene call called emitter inner id) fun _ => bind (moved _) fun _ => inner _
  | none => exact bind (pure ()) fun _ => bind (moved _) fun _ => inner _

/-- The callbacks that a session gives to its triggers do not look at the log. -/
theorem callbacks :
    Callbacks.Blind ⟨some (Session.gotoScene host emitter), host.onUi.map (· emitter)⟩ where
  goto := by
    rintro _ ⟨⟩ id
    exact gotoScene h inner id
  present call called r := by
    obtain ⟨show_, shown, rfl⟩ := Option.map_eq_some_iff.mp called
    exact h.onUi show_ shown emitter inner r

theorem reportState (cause : Option Event) : Blind (reportState host emitter cause) := by
  rw [Session.reportState]
  cases called : host.onState with
  | some call =>
    exact look (fun _ _ => rfl) fun s => bind (chronicle _) fun _ =>
      h.onState call called emitter inner _
  | none => exact pure ()

theorem tell (l : Listener) (e : Event) : Blind (tell host emitter l e) := by
  cases l with
  | course =>
    exact bind (ofExcept _) fun _ => bind (write _ _ _ _) fun _ => look (fun _ _ => rfl) fun s =>
      bind (moved _) fun _ => bind (attempt (handle (callbacks h inner) e _)) fun _ =>
        bind (moved _) fun _ => bind (ofExcept _) fun _ => pure ()
  | host name => exact h.onEvent emitter inner name e

omit h inner in
theorem reportFailure (e : Event) (l : Listener) (ofAll : Bool) (fault : Fault) :
    Blind (η := η) (reportFailure e l ofAll fault) := by
  refine look (fun _ _ => rfl) fun s => ?_
  split
  · exact write _ _ _ _
  · exact fun s => ⟨.done (), s, [.line _], fun _ _ => rfl⟩

theorem tellSafely (e : Event) (ofAll : Bool) (l : Listener) :
    Blind (tellSafely (Session.tell host emitter) e ofAll l) := by
  refine bind (chronicle _) fun _ => bind (tell h inner l e).attempt fun r => ?_
  cases r with
  | ok _ => exact chronicle _
  | error fault => exact bind (reportFailure e l ofAll fault) fun _ => chronicle _

theorem tellAll (e : Event) : Blind (tellAll (Session.tell host emitter) e) :=
  bind (chronicle _) fun _ => look (fun _ _ => rfl) fun _ =>
    bind (each fun l _ => tellSafely h inner e false l) fun _ =>
    look (fun _ _ => rfl) fun _ => bind (each fun l _ => tellSafely h inner e true l)
      fun _ => chronicle _

omit inner in
theorem emit (nesting : Nat) (e : Event) : Blind (emit host nesting e) := by
  induction nesting generalizing e with
  | zero => exact unfinished
  | succ n ih => exact bind (tellAll h ih e) fun _ => reportState h ih (some e)

end Blind

/-! ### Main result -/

theorem executeValues_of_parsed (cb : Callbacks η) {vs : List Value} {as : List Action}
    (parsed : vs.mapM Action.ofValue = .ok as) : executeValues cb vs = executeAll cb as := by
  induction vs generalizing as with
  | nil =>
    cases parsed
    rfl
  | cons v vs ih =>
    rw [List.mapM_cons] at parsed
    cases first : Action.ofValue v with
    | error e =>
      rw [first] at parsed
      cases parsed
    | ok a =>
      cases rest : vs.mapM Action.ofValue with
      | error e =>
        rw [first, rest] at parsed
        cases parsed
      | ok bs =>
        rw [first, rest] at parsed
        cases parsed
        have run : executeValue cb v = execute cb a := by rw [executeValue, first]
        have later := ih rest
        rw [executeValues] at later
        rw [executeValues, Step.each, executeAll, run, later]

open SceneCourse.Action (leaves plainTag) in
/-- Composites are transparent to a run, and to what is listed and counted without one. What
callbacks keep a record of is in the session, so both runs make the same calls in the same order. -/
theorem composites_transparent (cb : Callbacks η) (as : List Action) :
    executeAll cb as = Step.each (visit cb) (Action.preorderAll as) ∧
      (cb.Blind → Twins (executeAll cb as) (executeAll cb (leaves as))) ∧
      (∀ vs, vs.mapM Action.ofValue = .ok as → executeValues cb vs = executeAll cb as) ∧
      Action.destinations as = firstMentions ((leaves as).filterMap Action.destination?) ∧
      ∀ c : Course,
        (c.mutations = c.placedTriggers.flatMap fun (s, i, t) =>
          (leaves t.actions).filterMap fun a =>
          a.writtenPath?.map fun path => ⟨path, a.tag, s.id, i⟩) ∧
        (c.referencedKeys = c.placedTriggers.flatMap fun (s, _, t) =>
          (t.on.target.toList ++ (leaves t.actions).filterMap
            (·.nodeTarget?)).filterMap fun target =>
            if target = "" then none else some (Course.nodeKey s.id target)) ∧
        ((tally c.tags).filter fun (tag, _) => plainTag tag) =
          tally
            ((c.placedTriggers.flatMap fun (_, _, t) => (leaves t.actions).map
            (·.tag)).filter plainTag) ∧
        c.triggerSummaries.map (fun r => r.tags.filter plainTag) =
          c.placedTriggers.map fun (_, _, t) => firstMentions
            (((leaves t.actions).map (·.tag)).filter plainTag) := by
  refine ⟨executeAll_eq_visits cb as, fun h => twins_executeAll h as,
    fun vs => executeValues_of_parsed cb,
    Action.destinations_eq_leaves as, fun c =>
      ⟨c.mutations_eq_leaves, c.referencedKeys_eq_leaves, ?_,
      c.triggerSummaries_eq_leaves⟩⟩
  rw [← tally_filter, c.tags_eq_leaves]

def nested : List Action :=
  [.sequence [.setVar "globals.vars.a" (.bool true),
    .parallel [.gotoScene "yard" .null, .setVar "globals.vars.b" (.bool true)]]]

theorem blind_barred : barred.Blind where
  goto := by
    rintro _ ⟨⟩ id
    exact Blind.bind (Blind.update fun _ _ => rfl) fun _ => Blind.fail _
  present := nofun

theorem composites_transparent_nested :
    barred.Blind ∧ (nested.map Action.dump).mapM Action.ofValue = .ok nested ∧
    Twins (executeAll barred nested) (executeAll barred (Action.leaves nested)) ∧
      executeValues barred (nested.map Action.dump) = executeAll barred nested := by
  have parsed : (nested.map Action.dump).mapM Action.ofValue = .ok nested := by
    cbv
  obtain ⟨-, twins, read, -⟩ := composites_transparent barred nested
  exact ⟨blind_barred, parsed, twins blind_barred, read _ parsed⟩

end Session

end SceneCourse
