import SceneCourse.Proofs.Invariance
import SceneCourse.Proofs.SameKey
import SceneCourse.Session.Script

/-! What the parties of a session do when it is their turn. Whatever leaves the history alone and
registers nobody twice, a listener or a callback may do at any point, and beside that it emits
events and has the state reported, each of them as often as it likes and depending on how the
earlier ones ended. Proved: the course's own listener behaves like that too, through all its
triggers, actions and scene changes, if the callbacks of the host do. -/

namespace SceneCourse

open Step (Keeps)

/-! ### Registration -/

namespace Bus

/-- Nobody is registered twice for the same events. -/
structure Proper (b : Bus) : Prop where
  byKind : ∀ entry ∈ b.byKind, entry.2.Nodup
  forAll : b.forAll.Nodup

variable {b : Bus}

/-- What holds of all lists of listeners holds of the listeners of a kind. -/
theorem listeners_of_byKind {Q : List Listener → Prop} (none : Q [])
    (all : ∀ entry ∈ b.byKind, Q entry.2) (kind : Key) : Q (b.listeners kind) := by
  have found (es : Entries (List Listener)) (all : ∀ entry ∈ es, Q entry.2) :
      Q ((es.get? kind).getD []) := by
    induction es with
    | nil => exact none
    | cons e es ih =>
      rw [Entries.get?]
      split
      next => exact all e List.mem_cons_self
      next => exact ih fun entry member => all entry (List.mem_cons_of_mem e member)
  exact found b.byKind all

theorem Proper.listeners (h : b.Proper) (kind : Key) : (b.listeners kind).Nodup :=
  listeners_of_byKind List.nodup_nil h.byKind kind

theorem nodup_enter (l : Listener) {ls : List Listener} (h : ls.Nodup) : (enter l ls).Nodup := by
  unfold enter
  split
  next => exact h
  next new =>
    refine List.nodup_append.2 ⟨h, by simp, fun a ha c hc => ?_⟩
    rintro rfl
    obtain rfl := List.mem_singleton.1 hc
    exact new (List.contains_iff_mem.2 ha)

theorem proper_empty : ({} : Bus).Proper := ⟨fun _ h => (nomatch h), List.nodup_nil⟩

theorem Proper.on (h : b.Proper) (kind : Key) (l : Listener) : (b.on kind l).Proper := by
  refine ⟨fun entry member => ?_, h.forAll⟩
  rcases Entries.mem_set member with new | old
  · exact new ▸ nodup_enter l (h.listeners kind)
  · exact h.byKind entry old

theorem Proper.onAll (h : b.Proper) (l : Listener) : (b.onAll l).Proper :=
  ⟨h.byKind, nodup_enter l h.forAll⟩

theorem Proper.off (h : b.Proper) (kind : Key) (l : Listener) : (b.off kind l).Proper := by
  have fewer : ((b.listeners kind).erase l).Nodup := (h.listeners kind).erase l
  unfold Bus.off
  split
  next => exact ⟨fun entry member => h.byKind entry (List.mem_filter.1 member).1, h.forAll⟩
  next =>
    refine ⟨fun entry member => ?_, h.forAll⟩
    rcases Entries.mem_set member with new | old
    · exact new ▸ fewer
    · exact h.byKind entry old

theorem Proper.offAll (h : b.Proper) (l : Listener) : (b.offAll l).Proper :=
  ⟨h.byKind, h.forAll.erase l⟩

theorem proper_clear (b : Bus) : b.clear.Proper := ⟨fun _ h => (nomatch h), List.nodup_nil⟩

theorem Proper.perform (h : b.Proper) (op : Operation) : (b.perform op).Proper := by
  cases op with
  | enter sub =>
    obtain ⟨_ | kind, l⟩ := sub
    · exact h.onAll l
    · exact h.on kind l
  | leave sub =>
    obtain ⟨_ | kind, l⟩ := sub
    · exact h.offAll l
    · exact h.off kind l
  | clear => exact proper_clear b

end Bus

/-! ### Steps that come to an end -/

namespace Step

variable {σ α β : Type} {R : σ → σ → Prop}

instance (ending : Ending α) : Decidable (ending = .unfinished) :=
  match ending with
  | .done _ => isFalse nofun
  | .failed _ => isFalse nofun
  | .unfinished => isTrue rfl

/-- What comes first in a step that comes to an end comes to an end itself. -/
theorem ends_of_bind {x : Step σ α} {f : α → Step σ β} {s : σ}
    (ends : (Step.bind x f s).1 ≠ .unfinished) : (x s).1 ≠ .unfinished := by
  intro open_
  rw [Step.bind] at ends
  generalize x s = outcome at open_ ends
  obtain ⟨_ | _ | _, t⟩ := outcome
  · cases open_
  · cases open_
  · exact ends rfl

/-- When the step comes to an end, what is behind it is related to what was before. -/
def Relates (R : σ → σ → Prop) (x : Step σ α) : Prop := ∀ s, (x s).1 ≠ .unfinished → R s (x s).2

theorem Relates.bind (trans : ∀ {a b c}, R a b → R b c → R a c) {x : Step σ α} {f : α → Step σ β}
    (hx : Relates R x) (hf : ∀ a, Relates R (f a)) : Relates R (x >>= f) := by
  intro s
  have first := hx s
  show (Step.bind x f s).1 ≠ _ → R s (Step.bind x f s).2
  rw [Step.bind]
  generalize x s = outcome at first ⊢
  obtain ⟨_ | _ | _, t⟩ := outcome
  · exact fun ends => trans (first (by simp)) (hf _ t ends)
  · exact fun _ => first (by simp)
  · exact fun ends => absurd rfl ends

theorem Relates.attempt {x : Step σ α} (hx : Relates R x) : Relates R x.attempt := by
  intro s
  have first := hx s
  rw [Step.attempt]
  generalize x s = outcome at first ⊢
  obtain ⟨_ | _ | _, t⟩ := outcome
  · exact fun _ => first (by simp)
  · exact fun _ => first (by simp)
  · exact fun ends => absurd rfl ends

end Step

namespace Session

variable {η α β : Type}

/-! ### Quiet steps -/

/-- Nothing has been told or reported since, and nobody has come to be registered twice. -/
def Still (was s : Session η) : Prop := s.history = was.history ∧ (was.bus.Proper → s.bus.Proper)

theorem Still.refl (s : Session η) : Still s s := ⟨rfl, id⟩

theorem Still.trans {s t u : Session η} (h : Still s t) (later : Still t u) : Still s u :=
  ⟨later.1.trans h.1, later.2 ∘ h.2⟩

def Quiet (x : Step (Session η) α) : Prop := ∀ s, Still s (x s).2

theorem quiet_of_keeps {x : Step (Session η) α} (h : ∀ was, Keeps (Still was) x) : Quiet x :=
  fun s => h s s (Still.refl s)

theorem firm_still (was : Session η) : Firm (Still was) :=
  firm_surroundings fun v => v.history = was.history ∧ (was.bus.Proper → v.bus.Proper)

theorem keeps_refuseScene_still (was : Session η) (name : String) :
    Keeps (Still was) (refuseScene name) :=
  (entering_surroundings fun v => v.history = was.history ∧
    (was.bus.Proper → v.bus.Proper)).refuseScene name

theorem quiet_enterScene (id : String) : Quiet (η := η) (enterScene id) := quiet_of_keeps fun was =>
  (entering_surroundings fun v => v.history = was.history ∧
    (was.bus.Proper → v.bus.Proper)).enterScene id

/-! ### Behaviour -/

def reportTo (call : Value → Step (Session η) Unit) : Step (Session η) Unit := do
  let s ← Step.current
  Step.update (·.chronicle (.reports none s.store.root))
  call s.store.root

/-- What a party does when it is called: quiet steps, emitting events, and reporting the state, one
after another. What it does next may depend on everything before, and on whether that has failed. -/
inductive Behaves (emit : Emitter η) : {α : Type} → Step (Session η) α → Prop where
  | quiet {α : Type} {x : Step (Session η) α} (h : Quiet x) : Behaves emit x
  | emit (e : Event) : Behaves emit (emit e)
  | report {call : Value → Step (Session η) Unit} (h : ∀ v, Behaves emit (call v)) :
    Behaves emit (reportTo call)
  | bind {α β : Type} {x : Step (Session η) α} {f : α → Step (Session η) β} (hx : Behaves emit x)
    (hf : ∀ a, Behaves emit (f a)) : Behaves emit (x >>= f)
  | attempt {α : Type} {x : Step (Session η) α} (hx : Behaves emit x) : Behaves emit x.attempt

namespace Behaves

variable {emit : Emitter η}

theorem pure (a : α) : Behaves emit (Step.pure a : Step (Session η) α) := .quiet Still.refl

theorem fail (e : Fault) : Behaves emit (Step.fail e : Step (Session η) α) := .quiet Still.refl

theorem ofExcept (r : Except Fault α) : Behaves emit (Step.ofExcept r : Step (Session η) α) := by
  cases r with
  | ok a => exact pure a
  | error e => exact fail e

theorem look {f : Session η → Step (Session η) α} (h : ∀ s, Behaves emit (f s)) :
    Behaves emit (Step.current >>= f) :=
  .bind (.quiet Still.refl) h

theorem keeping {x : Step (Session η) α} (h : ∀ was, Keeps (Still was) x) : Behaves emit x :=
  .quiet (quiet_of_keeps h)

theorem write (level : Level) (category : Category) (message : String) (data : Value) :
    Behaves emit (write level category message data) :=
  keeping fun was => (firm_still was).write level category message data

theorem each {f : β → Step (Session η) Unit} {as : List β} (h : ∀ a ∈ as, Behaves emit (f a)) :
    Behaves emit (Step.each f as) := by
  induction as with
  | nil => exact pure ()
  | cons a as ih =>
    exact .bind (h a List.mem_cons_self) fun _ => ih fun b hb => h b (List.mem_cons_of_mem a hb)

end Behaves

end Session

structure Host.Orderly {η : Type} (host : Host η) : Prop where
  onScene : ∀ call, host.onScene = some call → ∀ emit id, Session.Behaves emit (call emit id)
  onState : ∀ call, host.onState = some call → ∀ emit v, Session.Behaves emit (call emit v)
  onUi : ∀ call, host.onUi = some call → ∀ emit r, Session.Behaves emit (call emit r)
  onEvent : ∀ emit name e, Session.Behaves emit (host.onEvent emit name e)

namespace Session

variable {η : Type}

/-! ### Actions and triggers -/

structure Orderly (cb : Callbacks η) (emit : Emitter η) : Prop where
  goto : ∀ call, cb.goto = some call → ∀ id, Behaves emit (call id)
  present : ∀ call, cb.present = some call → ∀ r, Behaves emit (call r)

namespace Orderly

variable {cb : Callbacks η} {emit : Emitter η} (h : Orderly cb emit)

include h

theorem behaves_present (kind : UiKind) (text : String) (extras : List (String × Value)) :
    Behaves emit (Session.present cb kind text extras) := by
  refine .bind (.look fun s => .pure _) fun extras => ?_
  refine .bind (.keeping fun was => (firm_still was).ask _) fun r => ?_
  cases hp : cb.present with
  | none => exact .write _ _ _ _
  | some call => exact h.present call hp r

theorem behaves_leaveFor (sceneId : String) : Behaves emit (leaveFor cb sceneId) := by
  unfold leaveFor
  cases hg : cb.goto with
  | none => exact .write _ _ _ _
  | some call => exact h.goto call hg sceneId

omit h

mutual

theorem behaves_execute (h : Orderly cb emit) (a : Action) : Behaves emit (execute cb a) := by
  have announced (tag : String) : Behaves emit (announce tag) := .write _ _ _ _
  cases a with
  | gotoScene sceneId _ => exact .bind (announced _) fun _ => h.behaves_leaveFor sceneId
  | setVar path value =>
    exact .bind (announced _) fun _ => .keeping fun was => (firm_still was).assign path value
  | incVar path amount =>
    exact .bind (announced _) fun _ => .keeping fun was => (firm_still was).increment path amount
  | addScore value =>
    exact .bind (announced _) fun _ => .keeping fun was =>
      (firm_still was).increment scorePath value
  | toast text extras => exact .bind (announced _) fun _ => h.behaves_present .toast text extras
  | modal text extras => exact .bind (announced _) fun _ => h.behaves_present .modal text extras
  | resetNode nodeId =>
    exact .bind (announced _) fun _ => .keeping fun was => (firm_still was).setNode nodeId .emptyMap
  | delay _ => exact announced _
  | sequence actions => exact .bind (announced _) fun _ => behaves_executeAll h actions
  | parallel actions => exact .bind (announced _) fun _ => behaves_executeAll h actions
  | unknown tag params =>
    exact .bind (announced _) fun _ => .bind (.quiet Still.refl) fun _ => .write _ _ _ _

theorem behaves_executeAll (h : Orderly cb emit) (as : List Action) :
    Behaves emit (executeAll cb as) := by
  cases as with
  | nil => exact .pure ()
  | cons a as => exact .bind (behaves_execute h a) fun _ => behaves_executeAll h as

end

include h

theorem behaves_fire (e : Event) (index : Nat) (t : Trigger) :
    Behaves emit (fire cb e index t) := by
  refine .bind (.quiet Still.refl) fun _ => .bind (.write _ _ _ _) fun _ => ?_
  refine .bind (.keeping fun was => (firm_still was).weigh t) fun holds => ?_
  unfold runBranch
  cases holds with
  | true => exact .bind (.write _ _ _ _) fun _ => behaves_executeAll h _
  | false =>
    cases t.alternative with
    | none => exact .pure ()
    | some as => exact .bind (.write _ _ _ _) fun _ => behaves_executeAll h _

theorem behaves_handle (e : Event) (ts : List Trigger) : Behaves emit (handle cb e ts) :=
  .bind (.each fun (i, t) _ => h.behaves_fire e i t) fun _ => .pure _

end Orderly

/-! ### Listeners -/

section

variable {host : Host η} (orderly : host.Orderly) (emit : Emitter η)

include orderly

theorem behaves_gotoScene (id : String) : Behaves emit (gotoScene host emit id) := by
  have arrives : Behaves emit (do Step.update fun s => s.moved (.arrives id); emit (.sceneEnter id)) :=
    .bind (.quiet Still.refl) fun _ => .emit _
  refine .bind (.quiet (quiet_enterScene id)) fun _ => ?_
  cases hs : host.onScene with
  | none => exact arrives
  | some call => exact .bind (orderly.onScene call hs emit id) fun _ => arrives

theorem behaves_dispatch (e : Event) : Behaves emit (dispatch host emit e) := by
  have callbacks : Orderly ⟨some (gotoScene host emit), host.onUi.map (· emit)⟩ emit := by
    constructor
    · rintro call ⟨⟩ id
      exact behaves_gotoScene orderly emit id
    · intro call hc r
      obtain ⟨present, hp, rfl⟩ := Option.map_eq_some_iff.1 hc
      exact orderly.onUi present hp emit r
  refine .bind (.ofExcept _) fun record => .bind (.write _ _ _ _) fun _ => .look fun s => ?_
  refine .bind (.quiet Still.refl) fun _ =>
    .bind (callbacks.behaves_handle e s.triggers).attempt fun outcome => ?_
  exact .bind (.quiet Still.refl) fun _ => .bind (.ofExcept _) fun _ => .pure ()

/-- Whoever is told an event behaves, be it the course or a listener of the host. -/
theorem behaves_tell (l : Listener) (e : Event) : Behaves emit (tell host emit l e) := by
  cases l with
  | course => exact behaves_dispatch orderly emit e
  | host name => exact orderly.onEvent emit name e

end

/-! ### Operations -/

section

variable {host : Host η} (emit : Emitter η)

variable (orderly : host.Orderly)

include orderly

theorem behaves_changeNode (id : String) (updates : Value) :
    Behaves emit (changeNode host emit id updates) := by
  refine .bind (.keeping fun was => (firm_still was).updateNode id updates) fun _ => ?_
  unfold reportState
  cases hs : host.onState with
  | none => exact .pure ()
  | some call => exact .report fun v => orderly.onState call hs emit v

theorem behaves_start (scene : Option String) (snapshot : Value) :
    Behaves emit (start host emit scene snapshot) := by
  refine .look fun s => ?_
  cases s.course with
  | none => exact .fail _
  | some course =>
    have entered (id : String) : Behaves emit (do
        write .info .scene s!"Starting course from scene: {id}"
        gotoScene host emit id) := .bind (.write _ _ _ _) fun _ => behaves_gotoScene orderly emit id
    dsimp only
    by_cases resumed : snapshot.truthy = true
    · rw [if_pos resumed]
      exact .bind (.ofExcept _) fun store => .bind (.quiet Still.refl) fun _ => entered _
    · rw [if_neg resumed]
      exact entered _

theorem behaves_gotoNamed (scene : Value) : Behaves emit (gotoNamed host emit scene) := by
  cases scene with
  | str id => exact behaves_gotoScene orderly emit id
  | _ =>
    refine .look fun s => ?_
    cases s.course with
    | none => exact .fail _
    | some course => exact .keeping fun was => keeps_refuseScene_still was _

end

theorem quiet_loadCourse (c : Course) : Quiet (η := η) (loadCourse c) := quiet_of_keeps fun was =>
  (entering_surroundings fun v => v.history = was.history ∧
    (was.bus.Proper → v.bus.Proper)).loadCourse c fun _ h => h

theorem keeps_reset_still (was : Session η) : Keeps (Still was) reset :=
  Keeps.bind ((firm_still was).write _ _ _ _) fun _ => Keeps.update fun s h =>
    ⟨h.1, fun _ => (Bus.proper_clear s.bus).onAll .course⟩

theorem quiet_reset : Quiet (η := η) reset := quiet_of_keeps keeps_reset_still

theorem quiet_destroy : Quiet (η := η) destroy :=
  quiet_of_keeps fun was => Keeps.bind (keeps_reset_still was) fun _ =>
    (firm_still was).write _ _ _ _

end Session

/-! ### Hosts made of scripts -/

namespace ScriptHost

open Session

theorem orderly_callbacks (r : Responses) : (callbacks r).Orderly := by
  obtain ⟨onScene, onState, onUi⟩ := callbacks_all (P := fun emit x => Behaves emit x)
    (fun _ _ => .quiet Still.refl)
    (fun _ _ _ => .quiet Still.refl) r
  exact ⟨onScene, onState, onUi, fun _ _ _ => .pure ()⟩

theorem quiet_subscribe (sub : Subscription) (label : String) : Quiet (subscribe sub label) :=
  fun _ => ⟨rfl, fun proper => proper.perform (.enter sub)⟩

theorem quiet_unsubscribe (sub : Subscription) : Quiet (unsubscribe sub) :=
  fun _ => ⟨rfl, fun proper => proper.perform (.leave sub)⟩

theorem behaves_perform (r : Responses) (emit : Emitter ScriptHost) (act : Act) :
    Behaves emit (perform (callbacks r) emit act) := by
  have orderly := orderly_callbacks r
  cases act with
  | load course =>
    exact .bind (.ofExcept _) fun c => .bind (.quiet (quiet_loadCourse c)) fun _ => .pure _
  | start scene snapshot => exact .bind (behaves_start emit orderly scene snapshot) fun _ => .pure _
  | goto scene => exact .bind (behaves_gotoNamed emit orderly scene) fun _ => .pure _
  | emit event => exact .bind (.ofExcept _) fun e => .bind (.emit e) fun _ => .pure _
  | setState state =>
    exact .bind (.keeping fun was => (firm_still was).setState state) fun _ => .pure _
  | updateNode id updates =>
    exact .bind (behaves_changeNode emit orderly id updates) fun _ => .pure _
  | getNode id => exact .look fun s => .ofExcept _
  | scene =>
    refine .look fun s => ?_
    cases s.activeScene <;> exact .pure _
  | on kind name label =>
    exact .bind (.ofExcept _) fun k => .bind (.quiet (quiet_subscribe _ label)) fun _ => .pure _
  | onAll name label => exact .bind (.quiet (quiet_subscribe _ label)) fun _ => .pure _
  | off kind name =>
    exact .bind (.ofExcept _) fun k => .bind (.quiet (quiet_unsubscribe _)) fun _ => .pure _
  | offAll name => exact .bind (.quiet (quiet_unsubscribe _)) fun _ => .pure _
  | unsubscribe label =>
    refine .look fun s => ?_
    cases s.host.subscriptions.lookup label with
    | none => exact .fail _
    | some sub => exact .bind (.quiet (quiet_unsubscribe sub)) fun _ => .pure _
  | clear => exact .bind (.quiet fun s => ⟨rfl, fun _ => Bus.proper_clear s.bus⟩) fun _ => .pure _
  | reset => exact .bind (.quiet quiet_reset) fun _ => .pure _
  | destroy => exact .bind (.quiet quiet_destroy) fun _ => .pure _
  | count kind =>
    cases kind with
    | null => exact .quiet Still.refl
    | _ => exact .bind (.ofExcept _) fun k => .quiet Still.refl
  | exportLogs => exact .look fun s => .bind (.ofExcept _) fun text => .pure _
  | _ => exact .quiet Still.refl

/-- Whatever the scripts of its listeners say, a script host behaves. -/
theorem orderly_host (r : Responses) : (host r).Orderly where
  onScene := (orderly_callbacks r).onScene
  onState := (orderly_callbacks r).onState
  onUi := (orderly_callbacks r).onUi
  onEvent emit name e := by
    refine .bind (.quiet Still.refl) fun _ => .look fun s => ?_
    dsimp only
    split
    next =>
      refine .bind (.quiet Still.refl) fun _ =>
        .bind (.attempt (.each fun act _ => ?_)) fun outcome => ?_
      · exact .bind (behaves_perform r emit act) fun _ => .pure _
      · exact .bind (.quiet Still.refl) fun _ => .bind (.ofExcept _) fun _ => .quiet Still.refl
    next => exact .pure ()

end ScriptHost

end SceneCourse
