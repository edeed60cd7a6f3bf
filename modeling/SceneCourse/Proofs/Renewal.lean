import SceneCourse.Proofs.Programs
import SceneCourse.Proofs.Phases

/-! Resetting a session makes it new. Behind a reset, whatever was done before, every program of the
host comes to the same end as in a new session of the same settings: it sees the same state, scene
and log on its way, its callbacks and listeners are called with the same, and what fails fails
alike. Destroying a session differs from that by the entry that it leaves in the log, which only the
log shows. -/

namespace SceneCourse

open Step (Keeps Guards)
open Value (Edit)

namespace Session

variable {η : Type}

/-! ### Settings -/

/-- The session has these settings still, and has given marks from a counter. -/
structure Configured (limits : Limits) (log : RunLog) (s : Session η) : Prop where
  limits : s.limits = limits
  capacity : s.log.capacity = log.capacity
  verbose : s.log.verbose = log.verbose
  diagnosed : s.diagnosed = true
  positive : 0 < s.store.next

variable {limits : Limits} {log : RunLog} {s : Session η}

theorem configured_fresh (limits : Limits) (log : RunLog) (kept : η) :
    Configured limits log (fresh limits log kept) :=
  ⟨rfl, rfl, rfl, rfl, Nat.succ_pos 5⟩

theorem Configured.commit (h : Configured limits log s) {store : Store}
    (grown : s.store.next ≤ store.next) (edits : List Edit) :
    Configured limits log (s.commit store edits) := by
  have settings (edits : List Edit) (l : RunLog) :
      (edits.foldl (fun l e => l.follow e) l).capacity = l.capacity ∧
      (edits.foldl (fun l e => l.follow e) l).verbose = l.verbose := by
    induction edits generalizing l with
    | nil => exact ⟨rfl, rfl⟩
    | cons e edits ih => exact ih (l.follow e)
  obtain ⟨capacity, verbose⟩ := settings edits s.log
  exact ⟨h.limits, capacity.trans h.capacity, verbose.trans h.verbose, h.diagnosed,
    Nat.lt_of_lt_of_le h.positive grown⟩

theorem firm_configured : Firm (η := η) (Configured limits log) where
  addEntry _ _ h := { h with }
  addLine _ _ h := { h with }
  setCopy path v s h := h.commit (Nat.le_trans (Store.le_adopt _ _) (Store.le_set _ _ _)) _
  setNode _ _ := keeps_setNode fun _ _ _ h done =>
    h.commit (Store.next_setNodeState done ▸ Store.le_adopt _ _) _
  updateNode _ _ := keeps_updateNode fun _ _ _ _ h done => h.commit (Store.le_adoptUpdates done) _

theorem inward_configured : Inward (η := η) (Configured limits log) where
  toFirm := firm_configured
  history _ _ h := { h with }
  moves _ _ h := { h with }

theorem entering_configured : Entering (η := η) (Configured limits log) where
  toFirm := firm_configured
  place _ _ _ _ h := { h with }
  triggers _ _ h := { h with }
  resetScene _ h := { h with positive := Nat.lt_of_lt_of_le h.positive (Nat.le_add_right _ 3) }
  sow tier name v := Keeps.update fun s h =>
    { h.commit (Store.le_set s.store s!"{tier}.vars.{name}" v) _ with }

theorem keeps_loadCourse_configured (c : Course) :
    Keeps (Configured (η := η) limits log) (loadCourse c) :=
  entering_configured.loadCourse c fun _ h =>
    { h with positive := Nat.lt_of_lt_of_le h.positive (le_adoptCourse _ _) }

theorem keeps_reset_configured : Keeps (Configured (η := η) limits log) reset :=
  Keeps.bind (firm_configured.write _ _ _ _) fun _ => Keeps.update fun _ h =>
    { h with positive := Nat.lt_of_lt_of_le h.positive (Nat.le_add_right _ 5) }

theorem Entering.gotoNamed {I : Session η → Prop} (h : Entering I) {host : Host η}
    {emit : Emitter η} (arrives : ∀ id, Keeps I (gotoScene host emit id)) (scene : Value) :
    Keeps I (Session.gotoNamed host emit scene) := by
  have refused : Keeps I (do
      let s ← Step.current
      if s.course.isNone then Step.fail (.noCourse false)
          else Session.refuseScene scene.shown : Step (Session η) Unit) := by
    refine Keeps.look fun s _ => ?_
    split
    next => exact Keeps.fail _
    next => exact h.refuseScene _
  cases scene with
  | str id => exact arrives id
  | _ => exact refused

theorem Program.keeps_configured {reads : Bool} {emit : Emitter η} {x : Step (Session η) Unit}
    (program : Program reads emit x) (emitted : ∀ e, Keeps (Configured limits log) (emit e)) :
    Keeps (Configured limits log) x := by
  have arrives {host : Host η}
      (called : ∀ call, host.onScene = some call → ∀ id,
        Keeps (Configured limits log) (call emit id)) (id : String) :
      Keeps (Configured limits log) (gotoScene host emit id) :=
    inward_configured.gotoScene (entering_configured.enterScene id)
      (fun call hc => called call hc id) emitted
  induction program with
  | done => exact Keeps.pure ()
  | fail e => exact Keeps.fail e
  | next _ _ first rest => exact Keeps.bind first.attempt rest
  | look _ rest => exact Keeps.look fun s _ => rest s.view s.host
  | read _ _ rest => exact Keeps.look fun s _ => rest s.records s.exported
  | keep f => exact Keeps.update fun s h => { h with }
  | subscribe op => exact Keeps.update fun s h => { h with }
  | clearLog => exact Keeps.update fun s h => { h with }
  | write level category message data fresh => exact firm_configured.write _ _ _ _
  | emit e => exact emitted e
  | load c fresh => exact keeps_loadCourse_configured c
  | start _ scene snapshot fresh called =>
    refine firm_configured.start (arrives called) (fun s store _ h restored => ?_) scene snapshot
    exact { h with positive := Nat.lt_of_lt_of_le h.positive (Store.le_restore restored) }
  | goto _ scene called => exact entering_configured.gotoNamed (arrives called) scene
  | setState state fresh => exact firm_configured.setState state
  | changeNode seen _ id updates fresh called =>
    refine Keeps.bind (firm_configured.updateNode id updates) fun _ => Guards.true_iff.1 ?_
    exact inward_configured.unconditional.reportState none fun call hc v =>
      Guards.true_iff.2 (called call hc v)
  | reset => exact keeps_reset_configured
  | destroy => exact Keeps.bind keeps_reset_configured fun _ => firm_configured.write _ _ _ _

/-! ### Whatever was done before -/

/-- What a host does besides: it deals with its subscriptions, with the log and with what it keeps
for itself, and it asks for scenes by what is no name. -/
inductive Sideline (host : Host η) (emit : Emitter η) : Step (Session η) Unit → Prop where
  | goto (scene : Value) : Sideline host emit (gotoNamed host emit scene)
  | subscribe (op : Bus.Operation) :
    Sideline host emit (Step.update fun s => { s with bus := s.bus.perform op })
  | clearLog : Sideline host emit (Step.update fun s => { s with log := s.log.clear })
  | write (level : Level) (category : Category) (message : String) (data : Value) :
    Sideline host emit (write level category message data)
  | keep (f : Session η → η) : Sideline host emit (Step.update fun s => { s with host := f s })

theorem governs_configured : Governs (η := η) (Configured limits log) (fun _ => True)
    fun emit x => (∀ e, Keeps (Configured limits log) (emit e)) → Keeps
      (Configured limits log) x where
  toInward := inward_configured
  calls _ emitted _ keeps := keeps emitted
  guided _ _ _ _ := fun _ _ => trivial
  enter id _ := entering_configured.enterScene id

/-- Whatever is asked of a session and whatever its host does meanwhile, the settings stay. -/
theorem configured_run {reads : Bool} {host : Host η} (discreet : host.Discreet reads)
    (nesting : Nat) {run : Step (Session η) Unit}
    (asked : run.MadeOf fun x => Demand (fun _ _ => true) host (emit host nesting) x ∨
      Sideline host (emit host nesting) x)
    (limits : Limits) (log : RunLog) (kept : η) :
    Configured limits log (run (fresh limits log kept)).2 := by
  have made : host.MadeOf fun emit x =>
      (∀ e, Keeps (Configured limits log) (emit e)) → Keeps (Configured limits log) x := {
    onScene call hc emit id := .call (discreet.onScene call hc emit id).keeps_configured
    onState call hc emit v := .call (discreet.onState call hc emit v).keeps_configured
    onUi call hc emit r := .call (discreet.onUi call hc emit r).keeps_configured
    onEvent emit name e := .call (discreet.onEvent emit name e).keeps_configured }
  have operates {x : Step (Session η) Unit} (operation : Operation host (emit host nesting) x) :
      Keeps (Configured limits log) x :=
    governs_configured.operation made (fun _ _ _ h restored =>
      { h with positive := Nat.lt_of_lt_of_le h.positive (Store.le_restore restored) })
        nesting operation
  have emitted (e : Event) : Keeps (Configured limits log) (emit host nesting e) :=
    operates (.emit e)
  refine asked.keeps (I := Configured limits log)
    (fun x called => ?_) _ (configured_fresh limits log kept)
  rcases called with demand | sideline
  · cases demand with
    | operation operation => exact operates operation
    | load c => exact Keeps.looking fun s => keeps_loadCourse_configured c s
    | reset => exact keeps_reset_configured
    | destroy => exact Keeps.bind keeps_reset_configured fun _ => firm_configured.write _ _ _ _
  · cases sideline with
    | goto scene =>
      exact entering_configured.gotoNamed (fun id => operates (.goto id)) scene
    | clearLog => exact Keeps.update fun s h => { h with }
    | write level category message data => exact firm_configured.write _ _ _ _
    | subscribe f => exact Keeps.update fun s h => { h with }
    | keep f => exact Keeps.update fun s h => { h with }

/-! ### As good as new -/

/-- Two outcomes that a host cannot tell from each other, but for entries that came before in the
first log, as far as the log still holds them, and for lines that came before in the first
stream. -/
structure Indistinct (old : List LogEntry) (past : List String)
    (x y : Ending Unit × Session η) : Prop where
  ending : x.1 = y.1
  view : x.2.view = y.2.view
  host : x.2.host = y.2.host
  records : ∃ before, before <:+ old ∧ x.2.records = before ++ y.2.records
  exported : old = [] → x.2.exported = y.2.exported
  lines : x.2.log.lines = past ++ y.2.log.lines

theorem Agree.indistinct {a : Lead} {s t : Session η} {x : Step (Session η) Unit}
    (agree : Agree a Eq x x) (twin : Twin a s t) : Indistinct a.entries a.lines (x t) (x s) := by
  obtain ⟨ends, behind⟩ := agree s t twin
  exact ⟨ends.eq.symm, behind.view, behind.host, behind.records, behind.exported, behind.log.lines⟩

def farewell : LogEntry := { level := .info, category := .scene, message := "Runtime destroyed" }

/-- A session that has been reset is the twin of a new one, with a counter that goes on from where
it was. -/
theorem exists_reset (h : Configured limits log s) : ∃ t, reset s = (.done (), t) ∧
    Twin { up := s.store.next - 1, lines := t.log.lines }
      (fresh limits { capacity := log.capacity, verbose := log.verbose } s.host) t := by
  refine ⟨_, by rw [reset, write_null]; rfl, ?_⟩
  have next : 1 + (s.store.next - 1) = s.store.next := Nat.add_sub_cancel' h.positive
  have tiers := Store.emptyTiers_renamed (k := s.store.next - 1) Nat.one_pos
  rw [next] at tiers
  refine {
    limits := h.limits
    store := ?_
    later := show 2 < 6 by decide
    log := ?_
    diagnosed := h.diagnosed
    byKind := rfl
    forAll := rfl
    course := rfl
    scene := rfl
    triggers := rfl
    written := rfl
    host := rfl }
  · have counter : s.store.next + 5 = 6 + (s.store.next - 1) := by
      have := h.positive
      omega
    show Store.reset s.store = _
    rw [Store.reset, tiers, counter]
    rfl
  · exact ⟨h.capacity, h.verbose, ⟨[], List.nil_suffix, rfl⟩, (List.append_nil _).symm⟩

theorem exists_destroy (h : Configured limits log s) : ∃ t, destroy s = (.done (), t) ∧
    Twin { up := s.store.next - 1, entries := [farewell], lines :=
      t.log.lines, silent := by simp [farewell] }
      (fresh limits { capacity := log.capacity, verbose := log.verbose } s.host) t := by
  obtain ⟨t, done, twin⟩ := exists_reset h
  have left : destroy s = (.done (), t.addEntry farewell) := by
    rw [destroy, write_null]
    exact Step.bind_of_done done
  have cleared : t.log.entries = [] := by
    obtain ⟨none, suffix, entries⟩ := twin.log.entries
    rw [List.suffix_nil] at suffix
    rw [entries, suffix]
    rfl
  obtain ⟨before, suffix', window⟩ := RunLog.window_append_of_suffix
    (List.suffix_refl [farewell]) t.log.capacity []
  have empty : RunLog.window t.log.capacity [] = [] := by cases t.log.capacity <;>
    simp [RunLog.window]
  have held : (t.addEntry farewell).log.entries = before ++ [] := by
    show RunLog.window t.log.capacity (t.log.entries ++ [farewell]) = _
    rw [cleared]
    exact window.trans (congrArg (before ++ ·) empty)
  exact ⟨_, left, { twin with log :=
    ⟨twin.log.capacity, twin.log.verbose, ⟨before, suffix', held⟩, (List.append_nil _).symm⟩ }⟩

/-- Whatever was asked of a session and whatever its host did meanwhile: a reset is done, and behind
it every program of the host has the outcome that it has in a new session with the same settings. So
it has behind the end of the session, if the host does not look at the log; the log holds the entry
about the end before all others, until that leaves it. -/
theorem reset_renews {reads : Bool} {host : Host η} (discreet : host.Discreet reads) (nesting : Nat)
    {earlier later : Step (Session η) Unit}
    (asked : earlier.MadeOf fun x => Demand (fun _ _ => true) host (emit host nesting) x ∨
      Sideline host (emit host nesting) x)
    (program : Program reads (emit host nesting) later) (limits : Limits) (log : RunLog) (kept : η)
    (s new : Session η) (behind : s = (earlier (fresh limits log kept)).2)
    (made : new = fresh limits { capacity := log.capacity, verbose := log.verbose } s.host) :
    (∃ t, reset s = (.done (), t) ∧ Indistinct [] t.log.lines (later t) (later new)) ∧
      ∃ t, destroy s = (.done (), t) ∧
        (reads = false → Indistinct [farewell] t.log.lines (later t) (later new)) := by
  subst behind made
  have configured := configured_run discreet nesting asked limits log kept
  obtain ⟨t, done, twin⟩ := exists_reset configured
  obtain ⟨u, done', twin'⟩ := exists_destroy configured
  refine ⟨⟨t, done, ?_⟩, u, done', fun unread => ?_⟩
  · exact (program.agree (fun _ => rfl) fun e => agree_emit discreet
      (fun _ => rfl) nesting e).indistinct twin
  · have blind : reads = true → [farewell] = [] := fun reading => by simp [unread] at reading
    exact (program.agree blind fun e => agree_emit discreet blind nesting e).indistinct twin'

end Session

/-! ### A room that is wrecked -/

namespace Course

open Session (fresh loadWhere reset destroy Demand Program Sideline Indistinct farewell)

/-- A room in which a tap breaks the state of all nodes, and then fails. -/
def brittle : Course where
  schema := "vvce.dsl.v1"
  about := ⟨"brittle", "1.0.0", []⟩
  globals := ⟨[("taps", .ofList [])], []⟩
  start := "room"
  scenes := [
    { id := "room"
      vars := []
      nodes := []
      triggers :=
        [⟨⟨"tap", none, []⟩, none, [.setVar "nodes" (.int 1), .resetNode "lamp"], none, []⟩]
      extras := [] }]
  extras := []

theorem fresh_brittle : brittle.Fresh := ⟨fun _ _ => rfl, fun marked => absurd rfl marked⟩

/-- A host that keeps what it is told, with a listener that always fails. -/
def keeper : Host (List Value) where
  onScene := some fun _ id => Step.update fun s => { s with host := s.host ++ [.str id] }
  onState := some fun _ v => Step.update fun s => { s with host := s.host ++ [v.plain] }
  onUi := none
  onEvent _ _ _ := Step.fail (.host "deaf")

theorem discreet_keeper (reads : Bool) : keeper.Discreet reads where
  onScene := by
    rintro call ⟨⟩ emit id
    exact .keep fun kept => kept ++ [Value.str id]
  stateSeen := by
    rintro call ⟨⟩ emit v
    simp only [Value.plain_plain]
  onState := by
    rintro call ⟨⟩ emit v
    exact .keep fun kept => kept ++ [v.plain]
  uiSeen := nofun
  onUi := nofun
  onEvent _ _ _ := .fail _

def wrecking : Step (Session (List Value)) Unit := do
  loadWhere (fun _ _ => true) brittle
  Step.update fun s => { s with bus := s.bus.perform (.enter ⟨some (.str "tap"), .host "ear"⟩) }
  Session.start keeper (Session.emit keeper 3) none .null
  Session.emit keeper 3 { kind := "tap" }

theorem madeOf_wrecking : wrecking.MadeOf fun x =>
    Demand (fun _ _ => true) keeper (Session.emit keeper 3) x ∨ Sideline keeper
      (Session.emit keeper 3) x :=
  .andThen (.call (.inl (.load brittle))) (.andThen (.call (.inr (.subscribe _)))
    (.andThen (.call (.inl (.operation (.start none .null))))
      (.call (.inl (.operation (.emit _))))))

theorem program_wrecking (reads : Bool) : Program reads (Session.emit keeper 3) wrecking :=
  .andThen (.load brittle fresh_brittle) (.andThen (.subscribe _)
    (.andThen (.start (fun call hc id => (discreet_keeper reads).onScene call hc _ id) none .null
      fun _ => rfl) (.emit _)))

def wreck : Session (List Value) := (wrecking (fresh {} {} [])).2

/-- No state of a node can be had from the wrecked session. Reset, it goes the same way again as a
new one would. -/
theorem wreck_renewed : (wreck.view.node "lamp").toOption.isNone = true ∧
    (∃ t, reset wreck = (.done (), t) ∧
      Indistinct [] t.log.lines (wrecking t) (wrecking (fresh {} {} wreck.host))) ∧
    ∃ t, destroy wreck = (.done (), t) ∧
      Indistinct [farewell] t.log.lines (wrecking t) (wrecking (fresh {} {} wreck.host)) := by
  have broken : (wreck.view.node "lamp").toOption.isNone = true := by decide +kernel
  have reading := Session.reset_renews (discreet_keeper true) 3 madeOf_wrecking
    (program_wrecking true) {} {} [] wreck _
    rfl rfl
  have unread := Session.reset_renews (discreet_keeper false) 3 madeOf_wrecking
    (program_wrecking false) {} {} [] wreck _
    rfl rfl
  obtain ⟨t, done, indistinct⟩ := unread.2
  exact ⟨broken, reading.1, t, done, indistinct rfl⟩

end Course

end SceneCourse
