import SceneCourse.Proofs.Behaviour
import SceneCourse.Proofs.Navigation

/-! How events are told. The history of a session is a text with brackets: an event begins and ends,
and in between its listeners are called and come back, one after the other. Proved, for every run
that comes to an end: an event is told to the listeners of its kind as they are registered when it
begins, and then to those of all events as they are registered after that, each once and in order;
whatever a listener causes is over before the next one is called; a listener that raises is reported
once and stops nobody. Emitting never fails, and every emit reports the state once, after all that
telling its event has caused; the last report shows the state as it is, unless the host writes when
it is told of it. -/

namespace SceneCourse

open Step (Relates)

namespace Occurrence

def begun : Occurrence → Bool
  | .begins _ => true
  | _ => false

def reported : Occurrence → Bool
  | .reports (some _) _ => true
  | _ => false

/-- The state that is reported, because of an event or aside. -/
def snapshot? : Occurrence → Option Value
  | .reports _ state => some state
  | _ => none

end Occurrence

namespace Session

variable {η α : Type}

/-! ### Histories -/

/-- What telling an event leaves in the history. -/
def telling (e : Event) (turns : List Occurrence) : List Occurrence :=
  .begins e :: turns ++ [.ends e]

/-- What an emit leaves in the history once its event is told: a report, if the host is told of the
state. -/
inductive Closing (e : Event) : Bool → List Occurrence → Prop where
  | told (state : Value) : Closing e true [.reports (some e) state]
  | untold : Closing e false []

mutual

/-- The calls of some listeners, each with all that it causes. -/
inductive Hearings (told : Bool) : List Listener → List Occurrence → Prop where
  | nil : Hearings told [] []
  | returns {l : Listener} {ls : List Listener} {during after : List Occurrence}
    (caused : Interlude told during) (later : Hearings told ls after) :
    Hearings told (l :: ls) (.calls l :: during ++ .returns l :: after)
  | raises {l : Listener} {ls : List Listener} {during after : List Occurrence} (fault : Fault)
    (caused : Interlude told during) (later : Hearings told ls after) :
    Hearings told (l :: ls) (.calls l :: during ++ .raises l fault :: after)

/-- What a party causes by one call after another: emits, each of them complete and with its report,
and reports of updates. -/
inductive Interlude (told : Bool) : List Occurrence → Prop where
  | nil : Interlude told []
  | aside (state : Value) {after : List Occurrence} (later : Interlude told after) :
    Interlude told (.reports none state :: after)
  | emission (e : Event) {ls : List Listener} {turns closing after : List Occurrence}
    (all : Hearings told ls turns)
    (closes : Closing e told closing) (later : Interlude told after) :
    Interlude told (telling e turns ++ closing ++ after)

end

theorem Hearings.append {told : Bool} {ls ls' : List Listener} {first second : List Occurrence} :
    Hearings told ls first → Hearings told ls' second → Hearings told (ls ++ ls') (first ++ second)
  | .nil, after => after
  | .returns caused later, after => by
    simpa only [List.append_assoc, List.cons_append]
      using Hearings.returns caused (later.append after)
  | .raises fault caused later, after => by
    simpa only [List.append_assoc, List.cons_append]
      using Hearings.raises fault caused (later.append after)

theorem Interlude.append {told : Bool} {first second : List Occurrence} :
    Interlude told first → Interlude told second → Interlude told (first ++ second)
  | .nil, after => after
  | .aside state later, after => .aside state (later.append after)
  | .emission e all closes later, after => by
    simpa only [List.append_assoc] using Interlude.emission e all closes (later.append after)

/-- The listeners that are called in the history so many emits deep. -/
def calledAt : (depth : Nat) → List Occurrence → List Listener
  | 0, .calls l :: after => l :: calledAt 0 after
  | n, .begins _ :: after => calledAt (n + 1) after
  | n, .ends _ :: after => calledAt (n - 1) after
  | n, _ :: after => calledAt n after
  | _, [] => []

theorem Closing.calledAt_append {e : Event} {told : Bool} {closing : List Occurrence}
    (h : Closing e told closing) (n : Nat) (after : List Occurrence) :
    calledAt n (closing ++ after) = calledAt n after := by
  cases h with
  | told state => cases n <;> rfl
  | untold => rfl

mutual

theorem Hearings.calledAt_append {told : Bool} {ls : List Listener} {turns : List Occurrence}
    (n : Nat) (after : List Occurrence) : Hearings told ls turns →
      calledAt n (turns ++ after) = (if n = 0 then ls else []) ++ calledAt n after
  | .nil => by simp
  | .returns caused later => by
    cases n with
    | zero => simp [calledAt, caused.calledAt_append, later.calledAt_append]
    | succ n => simp [calledAt, caused.calledAt_append, later.calledAt_append]
  | .raises fault caused later => by
    cases n with
    | zero => simp [calledAt, caused.calledAt_append, later.calledAt_append]
    | succ n => simp [calledAt, caused.calledAt_append, later.calledAt_append]

theorem Interlude.calledAt_append {told : Bool} {during : List Occurrence} (n : Nat)
    (after : List Occurrence) :
    Interlude told during → calledAt n (during ++ after) = calledAt n after
  | .nil => rfl
  | .aside state later => by
    cases n <;> simp [calledAt, later.calledAt_append]
  | .emission e all closes later => by
    cases n <;> simp [telling, calledAt, all.calledAt_append, closes.calledAt_append,
      later.calledAt_append]

end

mutual

/-- Where the host is told of the state, there is one report for every emit. -/
theorem Hearings.countP_reported {ls : List Listener} {turns : List Occurrence} :
    Hearings true ls turns → turns.countP Occurrence.reported = turns.countP Occurrence.begun
  | .nil => rfl
  | .returns caused later => by
    simp [Occurrence.reported, Occurrence.begun, caused.countP_reported, later.countP_reported]
  | .raises fault caused later => by
    simp [Occurrence.reported, Occurrence.begun, caused.countP_reported, later.countP_reported]

theorem Interlude.countP_reported {during : List Occurrence} :
    Interlude true during → during.countP Occurrence.reported = during.countP Occurrence.begun
  | .nil => rfl
  | .aside state later => by simp [Occurrence.reported, Occurrence.begun, later.countP_reported]
  | .emission e all (.told state) later => by
    simp [telling, List.countP_cons, Occurrence.reported, Occurrence.begun, all.countP_reported,
      later.countP_reported]
    omega

end

@[simp] theorem history_chronicle (s : Session η) (o : Occurrence) :
    (s.chronicle o).history = o :: s.history := rfl

/-- The history has grown by an interlude, and nobody has come to be registered twice. -/
structure Grows (told : Bool) (s t : Session η) : Prop where
  interlude : ∃ during, Interlude told during ∧ t.history = during.reverse ++ s.history
  proper : s.bus.Proper → t.bus.Proper

theorem Grows.trans {told : Bool} {s t u : Session η} (h : Grows told s t)
    (later : Grows told t u) : Grows told s u := by
  obtain ⟨first, caused, grown⟩ := h.interlude
  obtain ⟨second, caused', grown'⟩ := later.interlude
  refine ⟨⟨first ++ second, caused.append caused', ?_⟩, later.proper ∘ h.proper⟩
  rw [grown', grown, List.reverse_append, List.append_assoc]

/-- Whoever behaves leaves an interlude in the history. -/
theorem Behaves.grows {told : Bool} {emit : Emitter η} (he : ∀ e, Relates (Grows told) (emit e))
    {x : Step (Session η) α} (h : Behaves emit x) : Relates (Grows told) x := by
  induction h with
  | quiet h => exact fun s _ => ⟨⟨[], .nil, (h s).1⟩, (h s).2⟩
  | emit e => exact he e
  | report _ ih =>
    intro s ends
    obtain ⟨⟨during, caused, grown⟩, proper⟩ :=
      ih s.store.root (s.chronicle (.reports none s.store.root)) ends
    refine ⟨⟨.reports none s.store.root :: during, .aside _ caused, grown.trans ?_⟩, proper⟩
    rw [List.reverse_cons, List.append_assoc]
    rfl
  | bind _ _ hx hf => exact Relates.bind (R := Grows told) Grows.trans hx hf
  | attempt _ hx => exact hx.attempt

/-! ### Telling an event -/

/-- The session after the report that a listener failed: an entry of the log, or else a line of the
stream. -/
def faulted (e : Event) (l : Listener) (ofAll : Bool) (fault : Fault) (s : Session η) : Session η :=
  if s.diagnosed then
    s.addEntry {
      level := .error
      category := .event
      message := s!"Error in {listenerText e l ofAll}: {fault.kind}: {fault.message}"
      data := e.summary }
  else
    s.addLine (streamLine .error "engine.event_bus"
      (failureMessage (listenerText e l ofAll) fault.kind fault.message
      [("type", .str e.kind), ("target", Event.optionalText e.target)]))

theorem holdsLong_summary (e : Event) : e.summary.holdsLong = false := by
  cases e with
  | mk kind target payload time => cases target <;> rfl

theorem reportFailure_eq (e : Event) (l : Listener) (ofAll : Bool) (fault : Fault) (s : Session η) :
    reportFailure e l ofAll fault s = (.done (), s.faulted e l ofAll fault) := by
  rw [reportFailure, faulted]
  show Step.bind Step.current _ s = _
  rw [Step.bind, Step.current]
  by_cases diagnosed : s.diagnosed = true
  · simp only [if_pos diagnosed]
    rw [write_of_short _ _ _ (holdsLong_summary e)]
    rfl
  · simp only [if_neg diagnosed]
    rfl

@[simp] theorem history_faulted (e : Event) (l : Listener) (ofAll : Bool) (fault : Fault)
    (s : Session η) : (s.faulted e l ofAll fault).history = s.history := by
  rw [faulted]
  split <;> rfl

@[simp] theorem bus_faulted (e : Event) (l : Listener) (ofAll : Bool) (fault : Fault)
    (s : Session η) : (s.faulted e l ofAll fault).bus = s.bus := by
  rw [faulted]
  split <;> rfl

section

variable {told : Bool} {tell : Listener → Event → Step (Session η) Unit} {e : Event} {ofAll : Bool}
  {l : Listener} {s m : Session η}

theorem tellSafely_of_done (call : tell l e (s.chronicle (.calls l)) = (.done (), m)) :
    tellSafely tell e ofAll l s = (.done (), m.chronicle (.returns l)) := by
  show Step.bind (tell l e).attempt _ (s.chronicle (.calls l)) = _
  rw [Step.bind, Step.attempt, call]
  rfl

theorem tellSafely_of_failed {fault : Fault}
    (call : tell l e (s.chronicle (.calls l)) = (.failed fault, m)) :
    tellSafely tell e ofAll l s =
      (.done (), (m.faulted e l ofAll fault).chronicle (.raises l fault)) := by
  show Step.bind (tell l e).attempt _ (s.chronicle (.calls l)) = _
  rw [Step.bind, Step.attempt, call]
  show Step.bind (reportFailure e l ofAll fault) _ m = _
  rw [Step.bind, reportFailure_eq]
  rfl

theorem tellSafely_of_unfinished (call : tell l e (s.chronicle (.calls l)) = (.unfinished, m)) :
    tellSafely tell e ofAll l s = (.unfinished, m) := by
  show Step.bind (tell l e).attempt _ (s.chronicle (.calls l)) = _
  rw [Step.bind, Step.attempt, call]

/-- Some listeners are told an event, one after another, and from where the one before has left the
session. What each of them causes is complete, and each that raises is reported once. -/
inductive Round (told : Bool) (tell : Listener → Event → Step (Session η) Unit) (e : Event)
    (ofAll : Bool) : List Listener → Session η → List Occurrence → Session η → Prop where
  | nil (s : Session η) : Round told tell e ofAll [] s [] s
  | returns {l : Listener} {ls : List Listener} {s m t : Session η} {during after : List Occurrence}
    (call : tell l e (s.chronicle (.calls l)) = (.done (), m)) (caused : Interlude told during)
    (grown : m.history = during.reverse ++ .calls l :: s.history)
    (later : Round told tell e ofAll ls (m.chronicle (.returns l)) after t) :
    Round told tell e ofAll (l :: ls) s (.calls l :: during ++ .returns l :: after) t
  | raises {l : Listener} {ls : List Listener} {s m t : Session η} {during after : List Occurrence}
    {fault : Fault}
    (call : tell l e (s.chronicle (.calls l)) = (.failed fault, m)) (caused : Interlude told during)
    (grown : m.history = during.reverse ++ .calls l :: s.history)
    (later : Round told tell e ofAll ls
      ((m.faulted e l ofAll fault).chronicle (.raises l fault)) after t) :
    Round told tell e ofAll (l :: ls) s (.calls l :: during ++ .raises l fault :: after) t

theorem Round.hearings {ls : List Listener} {s t : Session η} {during : List Occurrence}
    (h : Round told tell e ofAll ls s during t) : Hearings told ls during := by
  induction h with
  | nil s => exact .nil
  | returns _ caused _ _ ih => exact .returns caused ih
  | raises _ caused _ _ ih => exact .raises _ caused ih

theorem Round.history {ls : List Listener} {s t : Session η} {during : List Occurrence}
    (h : Round told tell e ofAll ls s during t) : t.history = during.reverse ++ s.history := by
  induction h with
  | nil s => rfl
  | returns _ _ grown _ ih => simp [ih, grown]
  | raises _ _ grown _ ih => simp [ih, grown]

theorem Round.proper (ht : ∀ l, Relates (Grows told) (tell l e)) {ls : List Listener}
    {s t : Session η} {during : List Occurrence} (h : Round told tell e ofAll ls s during t)
    (proper : s.bus.Proper) : t.bus.Proper := by
  induction h with
  | nil s => exact proper
  | returns call _ _ _ ih =>
    have grows := ht _ _ (by rw [call]; simp)
    rw [call] at grows
    exact ih (grows.proper proper)
  | raises call _ _ _ ih =>
    have grows := ht _ _ (by rw [call]; simp)
    rw [call] at grows
    refine ih ?_
    show (faulted ..).bus.Proper
    rw [bus_faulted]
    exact grows.proper proper

/-- A round comes to an end unless one of its listeners does not. -/
theorem round_each (ht : ∀ l, Relates (Grows told) (tell l e)) (ofAll : Bool) (ls : List Listener)
    (s : Session η) (ends : (Step.each (tellSafely tell e ofAll) ls s).1 ≠ .unfinished) :
    ∃ t during, Step.each (tellSafely tell e ofAll) ls s = (.done (), t) ∧
      Round told tell e ofAll ls s during t := by
  induction ls generalizing s with
  | nil => exact ⟨s, [], rfl, .nil s⟩
  | cons l ls ih =>
    have caused := ht l (s.chronicle (.calls l))
    rw [Step.each, Step.bind] at ends ⊢
    cases call : tell l e (s.chronicle (.calls l)) with
    | mk ending m =>
      rw [call] at caused
      cases ending with
      | done u =>
        obtain ⟨⟨during, interlude, grown⟩, -⟩ := caused (by simp)
        rw [tellSafely_of_done call] at ends ⊢
        obtain ⟨t, after, rest, round⟩ := ih _ ends
        exact ⟨t, _, rest, .returns call interlude grown round⟩
      | failed fault =>
        obtain ⟨⟨during, interlude, grown⟩, -⟩ := caused (by simp)
        rw [tellSafely_of_failed call] at ends ⊢
        obtain ⟨t, after, rest, round⟩ := ih _ ends
        exact ⟨t, _, rest, .raises call interlude grown round⟩
      | unfinished =>
        rw [tellSafely_of_unfinished call] at ends
        exact absurd rfl ends

theorem tellAll_eq_rounds (ht : ∀ l, Relates (Grows told) (tell l e)) (s : Session η)
    (ends : (tellAll tell e s).1 ≠ .unfinished) :
    ∃ m t first second, tellAll tell e s = (.done (), t.chronicle (.ends e)) ∧
      Round told tell e false (s.bus.listeners (.str e.kind)) (s.chronicle (.begins e)) first m ∧
      Round told tell e true m.bus.forAll m second t ∧
      (s.bus.Proper → m.bus.Proper ∧ t.bus.Proper) := by
  let wildcards (_ : Unit) : Step (Session η) Unit := do
    let s ← Step.current
    Step.each (tellSafely tell e true) s.bus.forAll
    Step.update (·.chronicle (.ends e))
  have begun : tellAll tell e s =
      Step.bind (Step.each (tellSafely tell e false) (s.bus.listeners (.str e.kind))) wildcards
        (s.chronicle (.begins e)) := rfl
  have looked (m : Session η) : wildcards () m =
      Step.bind (Step.each (tellSafely tell e true) m.bus.forAll)
      (fun _ => Step.update (·.chronicle (.ends e))) m := rfl
  rw [begun] at ends ⊢
  obtain ⟨m, first, turns, round⟩ := round_each ht false _ _ (Step.ends_of_bind ends)
  rw [Step.bind_of_done turns, looked] at ends ⊢
  obtain ⟨t, second, turns', round'⟩ := round_each ht true _ _ (Step.ends_of_bind ends)
  refine ⟨m, t, first, second, Step.bind_of_done turns', round, round', fun proper => ?_⟩
  have between : m.bus.Proper := round.proper ht proper
  exact ⟨between, round'.proper ht between⟩

end

/-! ### Emitting -/

section

variable {host : Host η}

theorem reportState_of_none (silent : host.onState = none) (emit : Emitter η) (cause : Option Event)
    (s : Session η) : reportState host emit cause s = (.done (), s) := by
  rw [reportState, silent]
  rfl

theorem reportState_of_some {call : Emitter η → Value → Step (Session η) Unit}
    (asked : host.onState = some call) (emit : Emitter η) (cause : Option Event) (s : Session η) :
    reportState host emit cause s = call emit s.store.root
      (s.chronicle (.reports cause s.store.root)) := by
  rw [reportState, asked]
  rfl

variable (orderly : host.Orderly)

include orderly

/-- An emit that comes to an end has told its event and reports the state then. -/
theorem emit_succ_eq {n : Nat} (inner : ∀ e, Relates (Grows host.onState.isSome) (emit host n e))
    (e : Event) (s : Session η) (ends : (emit host (n + 1) e s).1 ≠ .unfinished) :
    ∃ ls turns t, Hearings host.onState.isSome ls turns ∧
      t.history = (telling e turns).reverse ++ s.history ∧ (s.bus.Proper → t.bus.Proper) ∧
      emit host (n + 1) e s = reportState host (emit host n) (some e) t := by
  have told : emit host (n + 1) e s =
      Step.bind (tellAll (tell host (emit host n)) e)
        (fun _ => reportState host (emit host n) (some e)) s := rfl
  rw [told] at ends ⊢
  obtain ⟨m, t, first, second, all, round, round', proper⟩ :=
    tellAll_eq_rounds (fun l => (behaves_tell orderly (emit host n) l e).grows inner) s
      (Step.ends_of_bind ends)
  rw [Step.bind_of_done all]
  refine ⟨_, _, t.chronicle (.ends e), round.hearings.append round'.hearings, ?_,
    fun h => (proper h).2, rfl⟩
  simp [telling, round.history, round'.history]

/-- However deeply events cause each other, an emit that comes to an end is complete in the
history. -/
theorem grows_emit (n : Nat) (e : Event) : Relates (Grows host.onState.isSome) (emit host n e) := by
  induction n generalizing e with
  | zero => exact fun s ends => absurd rfl ends
  | succ n ih =>
    intro s ends
    obtain ⟨ls, turns, t, all, grown, proper, reports⟩ := emit_succ_eq orderly ih e s ends
    rw [reports] at ends ⊢
    rcases Option.eq_none_or_eq_some host.onState with hs | ⟨call, hs⟩
    · have closes : Closing e host.onState.isSome [] := hs ▸ .untold
      rw [reportState_of_none hs]
      exact ⟨⟨_, .emission e all closes .nil, by simp [grown]⟩, proper⟩
    · have closes : Closing e host.onState.isSome [.reports (some e) t.store.root] :=
        hs ▸ .told t.store.root
      rw [reportState_of_some hs] at ends ⊢
      obtain ⟨⟨during, caused, grown'⟩, proper'⟩ :=
        (orderly.onState call hs (emit host n) t.store.root).grows ih _ ends
      refine ⟨⟨_, .emission e all closes caused, ?_⟩, proper' ∘ proper⟩
      rw [grown', history_chronicle, grown]
      simp

end

/-- Telling an event, for every behaviour of the listeners: it never fails. Those of its kind are
called that are registered when it begins, and then those of all events that are registered when
these have come back, each once and in order, and every emit in between is complete before the next
one is called. Whatever the listeners register or remove meanwhile, nobody comes to be registered
twice. -/
theorem tellAll_rounds {host : Host η} (orderly : host.Orderly) (n : Nat) (e : Event)
    (s : Session η) (ends : (tellAll (tell host (emit host n)) e s).1 ≠ .unfinished) :
    ∃ m t first second, tellAll (tell host (emit host n)) e s = (.done (), t.chronicle (.ends e)) ∧
      Round host.onState.isSome (tell host (emit host n)) e false (s.bus.listeners (.str e.kind))
        (s.chronicle (.begins e)) first m ∧
      Round host.onState.isSome (tell host (emit host n)) e true m.bus.forAll m second t ∧
      t.history = (Occurrence.begins e :: first ++ second).reverse ++ s.history ∧
      calledAt 0 (first ++ second) = s.bus.listeners (.str e.kind) ++ m.bus.forAll ∧
      (s.bus.Proper → (s.bus.listeners (.str e.kind)).Nodup ∧ m.bus.forAll.Nodup ∧
        t.bus.Proper) := by
  have behaves (l : Listener) := (behaves_tell orderly (emit host n) l e).grows
    (grows_emit orderly n)
  obtain ⟨m, t, first, second, all, round, round', proper⟩ := tellAll_eq_rounds behaves s ends
  refine ⟨m, t, first, second, all, round, round', ?_, ?_, fun h => ?_⟩
  · simp [round.history, round'.history]
  · simpa [calledAt] using (round.hearings.append round'.hearings).calledAt_append 0 []
  · exact ⟨h.listeners _, (proper h).1.forAll, (proper h).2⟩

/-- A choir: the first singer brings in another one and is hoarse, the second one has an echo. -/
def choir : Session ScriptHost where
  bus := {
    byKind := [(.str "sceneEnter", [.host "first", .host "second"])]
    forAll := [.course, .host "audience"] }
  host := {
    scripts := [("first", [.onAll "late" "guest", .offAll "audience", .raise "hoarse"]),
      ("second", [.emit (.object [("type", .str "echo")])])] }

def choirSong : Ending Unit × Session ScriptHost :=
  tellAll (tell (ScriptHost.host {}) (emit (ScriptHost.host {}) 3)) (.sceneEnter "hall") choir

theorem tellAll_rounds_choir :
    choirSong.1 ≠ .unfinished ∧
      (∃ (m : Session ScriptHost) (first second : List Occurrence),
        choirSong.2.history = (telling (.sceneEnter "hall") (first ++ second)).reverse ∧
        calledAt 0 (first ++ second) = choir.bus.listeners (.str "sceneEnter") ++ m.bus.forAll) ∧
      calledAt 0 (choirSong.2.history.reverse.drop 1) =
        [.host "first", .host "second", .course, .host "late"] ∧
      choirSong.2.log.entries.map (·.level) = [.error, .info, .info] := by
  have ends : choirSong.1 ≠ .unfinished := by decide +kernel
  obtain ⟨m, t, first, second, all, -, -, grown, called, -⟩ :=
    tellAll_rounds (ScriptHost.orderly_host {}) 3 (.sceneEnter "hall") choir ends
  refine ⟨ends, ⟨m, first, second, ?_, called⟩, by decide +kernel, by decide +kernel⟩
  rw [choirSong, all, history_chronicle, grown]
  simp [telling, choir]

/-! ### The last report -/

def lastSnapshot (s : Session η) : Option Value := s.history.findSome? Occurrence.snapshot?

/-- The last report shows the state as it is. -/
def UpToDate (s : Session η) : Prop := s.lastSnapshot = some s.store.root

theorem upToDate_chronicle (s : Session η) (cause : Option Event) :
    UpToDate (s.chronicle (.reports cause s.store.root)) := rfl

/-- What a party does that only looks: it leaves the state and the history alone, and it emits
events, one after another. So whatever becomes of the state meanwhile comes from what it emits. -/
inductive Watches (emit : Emitter η) : {α : Type} → Step (Session η) α → Prop where
  | still {α : Type} {x : Step (Session η) α}
    (h : ∀ s, (x s).2.store.root = s.store.root ∧ (x s).2.history = s.history) : Watches emit x
  | emit (e : Event) : Watches emit (emit e)
  | bind {α β : Type} {x : Step (Session η) α} {f : α → Step (Session η) β} (hx : Watches emit x)
    (hf : ∀ a, Watches emit (f a)) : Watches emit (x >>= f)
  | attempt {α : Type} {x : Step (Session η) α} (hx : Watches emit x) : Watches emit x.attempt

/-- Whoever only looks leaves behind a report of the state as it is, if there was one before and if
emits leave one. -/
theorem Watches.settles {emit : Emitter η}
    (he : ∀ e s, (emit e s).1 ≠ .unfinished → UpToDate (emit e s).2) {x : Step (Session η) α}
    (h : Watches emit x) : Relates (fun s t => UpToDate s → UpToDate t) x := by
  induction h with
  | still h =>
    intro s _ settled
    rw [UpToDate, lastSnapshot, (h s).1, (h s).2]
    exact settled
  | emit e => exact fun s ends _ => he e s ends
  | bind _ _ hx hf => exact Relates.bind (fun first second settled => second (first settled)) hx hf
  | attempt _ hx => exact hx.attempt

/-- However deeply events cause each other, the last report shows the state that an emit leaves, if
the host only looks at what it is shown. -/
theorem upToDate_emit {host : Host η} (orderly : host.Orderly)
    {call : Emitter η → Value → Step (Session η) Unit} (asked : host.onState = some call)
    (watches : ∀ n v, Watches (emit host n) (call (emit host n) v)) (n : Nat) (e : Event)
    (s : Session η) (ends : (emit host n e s).1 ≠ .unfinished) : UpToDate (emit host n e s).2 := by
  induction n generalizing e s with
  | zero => exact absurd rfl ends
  | succ n ih =>
    obtain ⟨ls, turns, t, -, -, -, reports⟩ := emit_succ_eq orderly (grows_emit orderly n) e s ends
    rw [reports, reportState_of_some asked] at ends ⊢
    exact (watches n t.store.root).settles ih _ ends (upToDate_chronicle t (some e))

/-- Emitting an event, for every behaviour of the listeners and the callbacks of a host that can
always be told of the state: it never fails, and the state is reported once because of the event,
directly after it is told. This is so for every emit on the way, and so there are as many such
reports as emits. If the host, when it is told of the state, changes it only by what it emits, then
the last report of all shows the state as it is afterwards. -/
theorem emit_reports {host : Host η} (orderly : host.Orderly)
    {call : Emitter η → Value → Step (Session η) Unit} (asked : host.onState = some call)
    (calm : ∀ n v s fault, (call (emit host n) v s).1 ≠ .failed fault) (n : Nat) (e : Event)
    (s : Session η) (ends : (emit host n e s).1 ≠ .unfinished) :
    ∃ t ls turns state after, emit host n e s = (.done (), t) ∧ Hearings true ls turns ∧
      Interlude true after ∧
      t.history = (telling e turns ++ Occurrence.reports (some e) state :: after).reverse ++
        s.history ∧
      (turns ++ after).countP Occurrence.reported = (turns ++ after).countP Occurrence.begun ∧
      ((∀ n v, Watches (emit host n) (call (emit host n) v)) →
        t.lastSnapshot = some t.store.root) := by
  have settled (watches : ∀ n v, Watches (emit host n) (call (emit host n) v)) :=
    upToDate_emit orderly asked watches n e s ends
  cases n with
  | zero => exact absurd rfl ends
  | succ n =>
    obtain ⟨ls, turns, m, all, grown, -, reports⟩ :=
      emit_succ_eq orderly (grows_emit orderly n) e s ends
    rw [reports, reportState_of_some asked] at ends settled ⊢
    obtain ⟨⟨after, caused, grown'⟩, -⟩ :=
      (orderly.onState call asked (emit host n) m.store.root).grows
      (grows_emit orderly n) _ ends
    have passed := calm n m.store.root (m.chronicle (.reports (some e) m.store.root))
    rw [asked] at all caused
    cases outcome : call (emit host n) m.store.root
      (m.chronicle (.reports (some e) m.store.root)) with
    | mk ending t =>
      rw [outcome] at ends grown' settled passed
      cases ending with
      | failed fault => exact absurd rfl (passed fault)
      | unfinished => exact absurd rfl ends
      | done u =>
        refine ⟨t, ls, turns, m.store.root, after, rfl, all, caused, ?_, ?_, settled⟩
        · rw [grown', history_chronicle, grown]
          simp
        · rw [List.countP_append, List.countP_append, Hearings.countP_reported all,
            Interlude.countP_reported caused]

def doorstep : Session ScriptHost :=
  let arrive : Step (Session ScriptHost) Unit := do loadCourse Course.house; enterScene "hall"
  (arrive (fresh {} {} {})).2

def doorstepEvent : Ending Unit × Session ScriptHost :=
  emit (ScriptHost.callbacks {}) 5 (.sceneEnter "hall") doorstep

theorem emit_reports_doorstep :
    doorstepEvent.1 ≠ .unfinished ∧
      doorstepEvent.2.passages = [.refused "cellar", .entered "garden", .entered "hall"] ∧
      doorstepEvent.2.lastSnapshot = some doorstepEvent.2.store.root ∧
      ∃ turns state after, Interlude true after ∧
        doorstepEvent.2.history = (telling (.sceneEnter "hall") turns ++
          Occurrence.reports (some (.sceneEnter "hall")) state :: after).reverse ++
            doorstep.history := by
  have ends : doorstepEvent.1 ≠ .unfinished := by decide +kernel
  obtain ⟨t, ls, turns, state, after, done, -, caused, grown, -, last⟩ :=
    emit_reports (ScriptHost.orderly_callbacks {}) rfl (fun _ _ _ _ failed => nomatch failed) 5
      (.sceneEnter "hall")
      doorstep ends
  have shown := last fun _ _ => .still fun _ => ⟨rfl, rfl⟩
  refine ⟨ends, by decide +kernel, ?_, turns, state, after, caused, ?_⟩
  · rw [doorstepEvent, done]
    exact shown
  · rw [doorstepEvent, done]
    exact grown

/-- A host that makes a note in the state whenever it is told of it. -/
def scribe : Host Unit where
  onScene := none
  onState := some fun _ _ => do let _ ← setCopy "globals.vars.seen" (.bool true)
  onUi := none
  onEvent _ _ _ := Step.pure ()

def scribeEvent : Ending Unit × Session Unit := emit scribe 1 { kind := "tap" } (fresh {} {} ())

def helped : Session ScriptHost where
  bus := { byKind := [(.str "tap", [.host "helper"])], forAll := [.course] }
  host := { scripts := [("helper", [.updateNode "q1" (.object [("done", .bool true)])])] }

def helpedEvent : Ending Unit × Session ScriptHost :=
  emit (ScriptHost.host {}) 2 { kind := "tap" } helped

/-- The report of an event need not be the only one between its beginning and its end, since the
update of a node is reported too; and a host that writes when it is told of the state has not seen
what it has written. -/
theorem report_outdated :
    helpedEvent.2.history.countP Occurrence.begun = 1 ∧
      helpedEvent.2.history.countP (·.snapshot?.isSome) = 2 ∧
      (∀ emit v (s : Session Unit) fault, ∀ call ∈ scribe.onState,
        (call emit v s).1 ≠ .failed fault) ∧
      scribeEvent.2.lastSnapshot ≠ some scribeEvent.2.store.root := by
  refine ⟨by decide +kernel, by decide +kernel, ?_, fun same => ?_⟩
  · rintro emit v s fault call ⟨⟩ failed
    nomatch failed
  · exact absurd (congrArg (Option.map Value.shown) same) (by decide +kernel)

end Session

end SceneCourse
