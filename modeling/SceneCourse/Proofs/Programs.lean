import SceneCourse.Proofs.LogWindow
import SceneCourse.Proofs.Twins

/-! Programs of a host. A program asks things of a session one after another, goes on after what
fails, looks at what a host can see, and keeps for itself what it likes; what it does next may
depend on all that. It cannot see the marks of values. So it does the same in sessions that are
twins, and so does every event, if the callbacks and listeners of the host are such programs. -/

namespace SceneCourse

theorem LogEntry.seen_renamed (k : Nat) (e : LogEntry) : (e.renamed k).seen = e.seen := by
  simp [LogEntry.seen, LogEntry.renamed]

def UiRequest.plain (r : UiRequest) : UiRequest :=
  { r with options := mapFields Value.plain r.options }

namespace Session

variable {η : Type}

/-! ### What a host sees -/

/-- What a host can see of a session, but for the log. -/
structure View where
  phase : Phase
  scene : Option String
  /-- The document of the active scene. -/
  active : Option Value
  state : Value
  node : String → Except Fault Value
  byKind : Entries (List Listener)
  forAll : List Listener

def view (s : Session η) : View where
  phase := s.phase
  scene := s.scene
  active := s.activeScene.map (·.dump.plain)
  state := s.store.root.plain
  node id := (s.store.nodeState id).map Value.plain
  byKind := s.bus.byKind
  forAll := s.bus.forAll

def records (s : Session η) : List LogEntry := s.log.entries.map LogEntry.seen

def exported (s : Session η) : Except Fault String := s.log.exportText (some 2)

/-! ### Programs -/

/-- What a host can do to a session, as often as it likes and in any order. What it gives to the
session is fresh. It looks at the log only if that is allowed. -/
inductive Program (reads : Bool) (emit : Emitter η) : Step (Session η) Unit → Prop where
  | done : Program reads emit (Step.pure ())
  | fail (e : Fault) : Program reads emit (Step.fail e)
  | next {x : Step (Session η) Unit} {f : Except Fault Unit → Step (Session η) Unit}
    (first : Program reads emit x) (rest : ∀ r, Program reads emit (f r)) :
    Program reads emit (x.attempt >>= f)
  | look {f : View → η → Step (Session η) Unit}
    (rest : ∀ seen kept, Program reads emit (f seen kept)) :
    Program reads emit (Step.current >>= fun s => f s.view s.host)
  | read {f : List LogEntry → Except Fault String → Step (Session η) Unit} (allowed : reads = true)
    (rest : ∀ records text, Program reads emit (f records text)) :
    Program reads emit (Step.current >>= fun s => f s.records s.exported)
  | keep (f : η → η) : Program reads emit (Step.update fun s => { s with host := f s.host })
  | subscribe (op : Bus.Operation) :
    Program reads emit (Step.update fun s => { s with bus := s.bus.perform op })
  | clearLog : Program reads emit (Step.update fun s => { s with log := s.log.clear })
  | write (level : Level) (category : Category) (message : String) (data : Value)
    (fresh : data.Fresh) : Program reads emit (write level category message data)
  | emit (e : Event) : Program reads emit (emit e)
  | load (c : Course) (fresh : c.Fresh) : Program reads emit (loadCourse c)
  | start {host : Host η}
    (called : ∀ call, host.onScene = some call → ∀ id, Program reads emit (call emit id))
    (scene : Option String) (snapshot : Value) (fresh : snapshot.Fresh) :
    Program reads emit (start host emit scene snapshot)
  | goto {host : Host η}
    (called : ∀ call, host.onScene = some call → ∀ id, Program reads emit (call emit id))
    (scene : Value) : Program reads emit (gotoNamed host emit scene)
  | setState (state : Value) (fresh : state.Fresh) : Program reads emit (setState state)
  | changeNode {host : Host η}
    (seen : ∀ call, host.onState = some call → ∀ v, call emit v = call emit v.plain)
    (called : ∀ call, host.onState = some call → ∀ v, Program reads emit (call emit v))
    (id : String) (updates : Value) (fresh : updates.Fresh) :
    Program reads emit (changeNode host emit id updates)
  | reset : Program reads emit reset
  | destroy : Program reads emit destroy

theorem Program.andThen {reads : Bool} {emit : Emitter η} {x y : Step (Session η) Unit}
    (first : Program reads emit x) (rest : Program reads emit y) :
    Program reads emit (x >>= fun _ => y) := by
  rw [Step.andThen_eq]
  refine .next first fun r => ?_
  cases r with
  | ok _ => exact rest
  | error e => exact .fail e

end Session

/-- The callbacks and the listeners of the host are programs, and they see of what they are given
what a host can see. -/
structure Host.Discreet {η : Type} (reads : Bool) (host : Host η) : Prop where
  onScene : ∀ call, host.onScene = some call → ∀ emit id, Session.Program reads emit (call emit id)
  stateSeen : ∀ call, host.onState = some call → ∀ emit v, call emit v = call emit v.plain
  onState : ∀ call, host.onState = some call → ∀ emit v, Session.Program reads emit (call emit v)
  uiSeen : ∀ call, host.onUi = some call → ∀ emit r, call emit r = call emit r.plain
  onUi : ∀ call, host.onUi = some call → ∀ emit r, Session.Program reads emit (call emit r)
  onEvent : ∀ emit name e, Session.Program reads emit (host.onEvent emit name e)

/-- What becomes of the subscriptions depends on them alone, and not on their history. -/
theorem Bus.perform_congr {b c : Bus} (byKind : c.byKind = b.byKind) (forAll : c.forAll = b.forAll)
    (op : Operation) :
    (c.perform op).byKind = (b.perform op).byKind ∧
      (c.perform op).forAll = (b.perform op).forAll := by
  obtain ⟨byKind', forAll', asked⟩ := b
  obtain ⟨_, _, asked'⟩ := c
  obtain rfl : _ = byKind' := byKind
  obtain rfl : _ = forAll' := forAll
  cases op with
  | enter sub =>
    obtain ⟨_ | kind, l⟩ := sub
    · exact ⟨rfl, rfl⟩
    · exact ⟨rfl, rfl⟩
  | leave sub =>
    obtain ⟨_ | kind, l⟩ := sub
    · exact ⟨rfl, rfl⟩
    · simp only [perform, off, listeners]
      split <;> exact ⟨rfl, rfl⟩
  | clear => exact ⟨rfl, rfl⟩

namespace Session

variable {η : Type} {a : Lead} {s t : Session η} {reads : Bool} {host : Host η} {emit : Emitter η}

/-! ### Programs in twins -/

theorem Twin.view (h : Twin a s t) : t.view = s.view := by
  have phase : t.phase = s.phase := by
    rw [Session.phase, Session.phase, h.course, h.scene]
    cases s.course <;> cases s.scene <;> rfl
  have active : t.activeScene.map (·.dump.plain) = s.activeScene.map (·.dump.plain) := by
    rw [activeScene, activeScene, h.course, h.scene]
    cases s.course with
    | none => rfl
    | some c =>
      cases s.scene with
      | none => rfl
      | some id =>
        show ((c.mapValues (Value.renamed a.up)).scene? id).map _ = (c.scene? id).map _
        rw [Course.scene?_mapValues, Option.map_map]
        exact congrArg (fun f => (c.scene? id).map f) (funext Scene.plain_dump_renamed)
  have node : (fun id => (t.store.nodeState id).map Value.plain) =
      fun id => (s.store.nodeState id).map Value.plain := by
    funext id
    rw [h.store, Store.nodeState_renamed]
    cases s.store.nodeState id with
    | error e => rfl
    | ok v => exact congrArg Except.ok (Value.plain_renamed v)
  rw [Session.view, Session.view, phase, active, node, h.scene, h.byKind, h.forAll, h.store,
    Store.root_renamed,
    Value.plain_renamed]

theorem Twin.records (h : Twin a s t) :
    ∃ before, before <:+ a.entries ∧ t.records = before ++ s.records := by
  obtain ⟨before, suffix, entries⟩ := h.log.entries
  refine ⟨before, suffix, ?_⟩
  have same : before.map LogEntry.seen = before := Lead.map_eq_self suffix fun e null => by
    rw [LogEntry.seen, null]
    exact congrArg (fun data => { e with data }) null.symm
  rw [Session.records, entries, List.map_append, same, List.map_map]
  exact congrArg _ (List.map_congr_left fun e _ => LogEntry.seen_renamed a.up e)

theorem Twin.exported (h : Twin a s t) (unread : a.entries = []) : t.exported = s.exported := by
  obtain ⟨before, suffix, entries⟩ := h.log.entries
  rw [unread, List.suffix_nil] at suffix
  have texts : (s.log.entries.map (LogEntry.renamed a.up)).mapM (fun e => e.dump.record) =
      s.log.entries.mapM fun e => e.dump.record := by
    rw [List.mapM_map]
    refine congrArg (fun f => s.log.entries.mapM f) (funext fun e => ?_)
    rw [Function.comp_apply, LogEntry.dump_renamed, Value.record_renamed]
  rw [Session.exported, RunLog.exportText, entries, suffix, List.nil_append, texts]
  rfl

theorem agree_subscribe (op : Bus.Operation) :
    Agree a Eq (Step.update fun s : Session η => { s with bus := s.bus.perform op })
      (Step.update fun s => { s with bus := s.bus.perform op }) := by
  refine .update fun s t twin => ?_
  obtain ⟨byKind, forAll⟩ := Bus.perform_congr twin.byKind twin.forAll op
  exact { twin with byKind, forAll }

/-- Who sees only what a host can see of a value does not see that its marks are others. -/
theorem blind_of_seen {call : Value → Step (Session η) Unit} (seen : ∀ v, call v = call v.plain)
    (called : ∀ v, Agree a Eq (call v) (call v)) (v : Value) :
    Agree a Eq (call v) (call (v.renamed a.up)) := by
  rw [seen (v.renamed a.up), Value.plain_renamed, ← seen v]
  exact called v

theorem Program.agree {x : Step (Session η) Unit} (program : Program reads emit x)
    (unread : reads = true → a.entries = []) (emitted : ∀ e, Agree a Eq (emit e) (emit e)) :
    Agree a Eq x x := by
  induction program with
  | done => exact .pure rfl
  | fail e => exact .fail e
  | next _ _ first rest => exact .andThen first.attempt rest
  | look _ rest =>
    refine .look fun s t twin => ?_
    rw [twin.view, twin.host]
    exact rest _ _
  | read allowed _ rest =>
    refine .look fun s t twin => ?_
    obtain ⟨before, suffix, records⟩ := twin.records
    rw [unread allowed, List.suffix_nil] at suffix
    rw [records, suffix, List.nil_append, twin.exported (unread allowed)]
    exact rest _ _
  | keep f => exact .update fun s t twin => { twin with host := congrArg f twin.host }
  | subscribe op => exact agree_subscribe op
  | clearLog => exact .update fun s t twin => { twin with log := twin.log.clear }
  | write level category message data fresh => exact agree_write_fresh level category message fresh
  | emit e => exact emitted e
  | load c fresh => exact agree_loadCourse fresh
  | start _ scene snapshot fresh called =>
    have agree := agree_start called emitted scene snapshot
    rwa [fresh] at agree
  | goto _ scene called => exact agree_gotoNamed called emitted scene
  | setState state fresh =>
    have agree := agree_setState (η := η) (a := a) state
    rwa [fresh] at agree
  | changeNode seen _ id updates fresh called =>
    have agree := agree_changeNode (a := a)
      (fun call hc v => blind_of_seen (seen call hc) (called call hc) v) id updates
    rwa [fresh] at agree
  | reset => exact agree_reset
  | destroy => exact agree_destroy

/-! ### Events in twins -/

section

variable (discreet : host.Discreet reads) (unread : reads = true → a.entries = [])
  (emitted : ∀ e, Agree a Eq (emit e) (emit e))

include discreet unread emitted

theorem agreeOn_callbacks : AgreeOn a ⟨some (gotoScene host emit), host.onUi.map (· emit)⟩ where
  goto := by
    rintro call ⟨⟩ id
    exact agree_gotoScene (fun call hc id => (discreet.onScene call hc emit id).agree unread
      emitted) emitted id
  present := by
    intro call hc r
    obtain ⟨present, hp, rfl⟩ := Option.map_eq_some_iff.1 hc
    have same : (r.renamed a.up).plain = r.plain := by
      rw [UiRequest.plain, UiRequest.plain, UiRequest.renamed, plain_mapFields_renamed]
    rw [discreet.uiSeen present hp emit (r.renamed a.up), same, ← discreet.uiSeen present hp emit r]
    exact (discreet.onUi present hp emit r).agree unread emitted

theorem agree_dispatch (e : Event) : Agree a Eq (dispatch host emit e) (dispatch host emit e) := by
  refine .answered fun record recorded => ?_
  refine .andThen (agree_write_fresh _ _ _ fun k => Value.renamed_of_recorded recorded) fun _ => ?_
  refine .look fun s t twin => .andThen (agree_moved _ _) fun _ => ?_
  rw [twin.triggers]
  refine .andThen (agree_handle (agreeOn_callbacks discreet unread emitted) e s.triggers).attempt
    fun outcome => ?_
  exact .andThen (agree_moved _ _) fun _ => .andThen (.ofExcept _) fun _ => .pure rfl

theorem agree_tell (l : Listener) (e : Event) :
    Agree a Eq (tell host emit l e) (tell host emit l e) := by
  cases l with
  | course => exact agree_dispatch discreet unread emitted e
  | host name => exact (discreet.onEvent emit name e).agree unread emitted

end

theorem agree_reportFailure (e : Event) (l : Listener) (ofAll : Bool) (fault : Fault) :
    Agree a Eq (reportFailure e l ofAll fault : Step (Session η) Unit)
    (reportFailure e l ofAll fault) := by
  refine .look fun s t twin => ?_
  rw [twin.diagnosed]
  split
  next => exact agree_write_fresh _ _ _ (fresh_summary e)
  next => exact .update fun s t twin => twin.addLine _

theorem agree_tellAll {tell : Listener → Event → Step (Session η) Unit}
    (told : ∀ l e, Agree a Eq (tell l e) (tell l e)) (e : Event) :
    Agree a Eq (tellAll tell e) (tellAll tell e) := by
  have safely (ofAll : Bool) (l : Listener) : Agree a Eq (tellSafely tell e ofAll l)
      (tellSafely tell e ofAll l) := by
    refine .andThen (agree_chronicle _ _) fun _ => .andThen (told l e).attempt fun outcome => ?_
    cases outcome with
    | ok _ => exact agree_chronicle _ _
    | error fault =>
      exact .andThen (agree_reportFailure e l ofAll fault) fun _ => agree_chronicle _ _
  refine .andThen (agree_chronicle _ _) fun _ => .look fun s t twin => ?_
  rw [Bus.listeners, Bus.listeners, twin.byKind]
  refine .andThen (.each fun l _ => safely false l) fun _ => .look fun s t twin => ?_
  rw [twin.forAll]
  exact .andThen (.each fun l _ => safely true l) fun _ => agree_chronicle _ _

/-- However deeply events cause each other, they do the same in twins. -/
theorem agree_emit (discreet : host.Discreet reads) (unread : reads = true → a.entries = [])
    (nesting : Nat) (e : Event) :
    Agree a Eq (Session.emit host nesting e) (Session.emit host nesting e) := by
  induction nesting generalizing e with
  | zero => exact .unfinished
  | succ nesting ih =>
    refine .andThen (agree_tellAll (agree_tell discreet unread ih) e) fun _ =>
      agree_reportState (fun call hc v => ?_) _
    refine blind_of_seen (discreet.stateSeen call hc _) (fun v => ?_) v
    exact (discreet.onState call hc _ v).agree unread ih

end Session

end SceneCourse
