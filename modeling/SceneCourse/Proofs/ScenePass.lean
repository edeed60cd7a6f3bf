import SceneCourse.Proofs.MoveHistory
import SceneCourse.Proofs.Telling

/-! Each event is interpreted against one scene. Scene changes happen in the middle of passes over
triggers and replace the active triggers under them. Proved, for a course that is loaded once and a
host that keeps to itself: the history of every run is faithful, and when the run comes to an end no
pass is open and no arrival unheard. What carries the induction over nested events is that telling
an event leaves the open passes as they were, whatever scenes it leads to. -/

namespace SceneCourse

open Step (Keeps Guards MadeOf Leads)
open Move (openPasses arrival? Faithful)

/-! ### Who hears -/

namespace Bus

/-- The course hears all events, each of them once. -/
structure Hearing (b : Bus) : Prop where
  own : .course ∈ b.forAll
  once : b.forAll.Nodup
  alone : ∀ entry ∈ b.byKind, .course ∉ entry.2

theorem hearing_own : ({ forAll := [.course] } : Bus).Hearing := ⟨by decide, by decide, nofun⟩

namespace Hearing

variable {b : Bus} (h : b.Hearing)

include h

theorem listeners (kind : Key) : .course ∉ b.listeners kind :=
  listeners_of_byKind (Q := fun ls => .course ∉ ls) List.not_mem_nil h.alone kind

theorem on (kind : Key) (name : String) : (b.on kind (.host name)).Hearing where
  own := h.own
  once := h.once
  alone entry member := by
    rcases Entries.mem_set member with new | old
    · rw [new, enter]
      split
      next => exact h.listeners kind
      next => simpa using h.listeners kind
    · exact h.alone entry old

theorem onAll (name : String) : (b.onAll (.host name)).Hearing where
  own := by
    show .course ∈ enter _ b.forAll
    rw [enter]
    split
    next => exact h.own
    next => exact List.mem_append_left _ h.own
  once := nodup_enter _ h.once
  alone := h.alone

theorem off (kind : Key) (name : String) : (b.off kind (.host name)).Hearing := by
  have fewer : .course ∉ (b.listeners kind).erase (.host name) := fun there =>
    h.listeners kind (List.mem_of_mem_erase there)
  unfold Bus.off
  split
  next => exact ⟨h.own, h.once, fun entry member => h.alone entry (List.mem_filter.1 member).1⟩
  next =>
    refine ⟨h.own, h.once, fun entry member => ?_⟩
    rcases Entries.mem_set member with new | old
    · exact new ▸ fewer
    · exact h.alone entry old

theorem offAll (name : String) : (b.offAll (.host name)).Hearing where
  own := (List.mem_erase_of_ne (by simp)).2 h.own
  once := h.once.erase _
  alone := h.alone

end Hearing

end Bus

namespace Session

variable {η α β : Type} {declared : String → Option (List Trigger)}

/-! ### Stances -/

/-- Between two moves: some passes are open, and maybe an arrival awaits the event of the active
scene. -/
structure Stance (declared : String → Option (List Trigger)) (awaited : Option String)
    (passes : List Pass)
    (s : Session η) : Prop where
  declares : s.position.declared = some declared
  settled : Settled s.position
  hears : s.bus.Hearing
  passes : openPasses s.moves = passes
  awaits : arrival? s.moves = awaited
  there : ∀ id, awaited = some id → s.scene = some id

/-- Nothing has changed but the state, the log, and the affairs of the host. -/
def Unmoved (was s : Session η) : Prop :=
  s.position = was.position ∧ s.surroundings = was.surroundings

variable {awaited : Option String} {passes : List Pass}

theorem Stance.of_eq {s t : Session η} (h : Stance declared awaited passes s)
    (stands : t.position = s.position) (bus : t.bus = s.bus) (moves : t.moves = s.moves) :
    Stance declared awaited passes t where
  declares := stands ▸ h.declares
  settled := stands ▸ h.settled
  hears := bus ▸ h.hears
  passes := moves ▸ h.passes
  awaits := moves ▸ h.awaits
  there id arrived := (congrArg Position.scene stands).trans (h.there id arrived)

theorem Stance.unmoved {s t : Session η} (h : Stance declared awaited passes s)
    (same : Unmoved s t) : Stance declared awaited passes t :=
  h.of_eq same.1 (congrArg Surroundings.bus same.2) (congrArg Surroundings.moves same.2)

theorem firm_unmoved (was : Session η) : Firm (Unmoved was) :=
  (stable_position (· = was.position)).toFirm.and (firm_surroundings (· = was.surroundings))

/-- The active triggers are those of the active scene. -/
theorem triggers_eq_of_settled {s : Session η} (declares : s.position.declared = some declared)
    (settled : Settled s.position) : s.triggers = (s.scene.bind declared).getD [] := by
  generalize stands : s.position = p at declares settled
  have scene : s.scene = p.scene := congrArg Position.scene stands
  have triggers : s.triggers = p.triggers := congrArg Position.triggers stands
  rw [scene, triggers]
  cases settled with
  | idle => rfl
  | active inside =>
    obtain rfl := Option.some.inj declares
    rw [Option.bind_some, inside, Option.getD_some]

/-! ### Faithful steps -/

/-- The step makes only faithful moves, and leads from states of one kind to states of another if it
comes to an end. -/
abbrev Carries (declared : String → Option (List Trigger)) (P Q : Session η → Prop)
    (x : Step (Session η) α) : Prop :=
  Guards (fun s => Faithful declared s.moves) P Q x

theorem carries_keeping {P : Session η → Prop} {x : Step (Session η) α}
    (same : ∀ {s t}, Unmoved s t → P s → P t) (h : ∀ was, Keeps (Unmoved was) x) :
    Carries declared P P x := by
  intro s faithful hs
  have unmoved : Unmoved s (x s).2 := h s s ⟨rfl, rfl⟩
  have moves : (x s).2.moves = s.moves := congrArg Surroundings.moves unmoved.2
  exact ⟨(congrArg (Faithful declared) moves).mpr faithful, fun _ => same unmoved hs⟩

theorem carries_unmoved {x : Step (Session η) α} (h : ∀ was, Keeps (Unmoved was) x) :
    Carries declared (Stance declared awaited passes) (Stance declared awaited passes) x :=
  carries_keeping (fun same hs => hs.unmoved same) h

theorem firm_stance :
    Firm fun s : Session η => Faithful declared s.moves ∧ Stance declared awaited passes s :=
  .of_related (fun _ => ⟨rfl, rfl⟩) firm_unmoved fun {s t} unmoved hs => by
    have moves : t.moves = s.moves := congrArg Surroundings.moves unmoved.2
    exact ⟨moves ▸ hs.1, hs.2.unmoved unmoved⟩

/-- The steps that keep the stance of a session, whichever passes are open. -/
def Settles (declared : String → Option (List Trigger)) (x : Step (Session η) α) : Prop :=
  ∀ passes, Carries declared (Stance declared none passes) (Stance declared none passes) x

/-- Callbacks that keep the stance, whichever passes are open. -/
def Suited (declared : String → Option (List Trigger)) (cb : Callbacks η) : Prop :=
  ∀ passes, Heeds cb (fun _ => True) (fun s => Faithful declared s.moves)
    (Stance declared none passes)

section

variable {cb : Callbacks η} (h : Suited declared cb)

include h

/-! ### One pass -/

/-- A trigger is fired inside a pass whose turn it is. -/
theorem carries_fire {p : Pass} {i : Nat} {t : Trigger}
    (next : p.fired ++ [(i, t)] <+: p.due declared) :
    Carries declared (Stance declared none (p :: passes))
      (Stance declared none ({ p with fired := p.fired ++ [(i, t)] } :: passes))
      (fire cb p.event i t) := by
  refine .after (fun s faithful hs => ?_) (.bind (firm_stance.write _ _ _ _).guards fun _ => ?_)
  · refine ⟨.fires faithful hs.awaits hs.passes next,
      ⟨hs.declares, hs.settled, hs.hears, ?_, rfl, nofun⟩⟩
    show openPasses (.fires p.event i t :: s.moves) = _
    rw [openPasses, hs.passes]
  · exact firm_stance.react (h _) fun _ _ => trivial

/-- A pass that is open for an event, with some of its triggers fired. -/
def Within (declared : String → Option (List Trigger)) (e : Event) (scene : Option String)
    (passes : List Pass) (s : Session η) : Prop :=
  ∃ fired, Stance declared none (⟨e, scene, fired⟩ :: passes) s

/-- The induction is on the triggers that are still due; a trigger that fails leaves the pass with
those fired so far. -/
theorem carries_each {e : Event} {scene : Option String} (rest fired : List (Nat × Trigger))
    (due : fired ++ rest = Pass.due declared ⟨e, scene, []⟩) :
    Carries declared (Stance declared none (⟨e, scene, fired⟩ :: passes))
    (Within declared e scene passes)
      (fireAll cb e rest) := by
  induction rest generalizing fired with
  | nil => exact fun s faithful hs => ⟨faithful, fun _ => ⟨fired, hs⟩⟩
  | cons f rest ih =>
    obtain ⟨i, t⟩ := f
    have split : fired ++ [(i, t)] ++ rest = Pass.due declared ⟨e, scene, []⟩ := by
      rw [List.append_assoc, List.singleton_append, due]
    have here : Carries declared (Stance declared none (⟨e, scene, fired⟩ :: passes))
        (Stance declared none (⟨e, scene, fired ++ [(i, t)]⟩ :: passes)) (fire cb e i t) :=
      carries_fire (p := ⟨e, scene, fired⟩) h ⟨rest, split⟩
    exact .next here (fun _ => ih (fired ++ [(i, t)]) split) fun _ hs => ⟨_, hs⟩

/-- A pass begins in the active scene with its triggers, and when it ends the passes around it are
as they were. -/
theorem carries_interpret {e : Event} (own : ∀ id, awaited = some id → e = .sceneEnter id) :
    Carries declared (Stance declared awaited passes) (Stance declared none passes)
    (interpret cb e) := by
  intro s faithful hs
  have due : [] ++ matching e s.triggers = Pass.due declared ⟨e, s.scene, []⟩ := by
    rw [List.nil_append, Pass.due, Pass.triggers, ← triggers_eq_of_settled hs.declares hs.settled]
  have fired : Carries declared (Stance declared none (⟨e, s.scene, []⟩ :: passes))
      (Within declared e s.scene passes)
      (handle cb e s.triggers) := .bind (carries_each h _ [] due) fun _ => .pure _
  have whole : Carries declared (Stance declared none (⟨e, s.scene, []⟩ :: passes))
      (Stance declared none passes)
      ((handle cb e s.triggers).attempt >>= fun outcome => Step.update (·.moved .ends) >>= fun _ =>
        Step.ofExcept outcome >>= fun _ => pure ()) := by
    refine .attempting fired fun r => .after (fun t faithful ht => ?_)
      (.bind (.ofExcept _) fun _ => .pure ())
    obtain ⟨fired, ht⟩ := ht
    refine ⟨.ends faithful ht.awaits (by simp [ht.passes]),
      ⟨ht.declares, ht.settled, ht.hears, ?_, rfl, by simp⟩⟩
    exact congrArg List.tail ht.passes
  refine whole (s.moved (.begins e s.scene)) (.begins faithful fun id arrived => ?_)
    ⟨hs.declares, hs.settled, hs.hears, congrArg (_ :: ·) hs.passes, rfl, by simp⟩
  have same := hs.awaits.symm.trans arrived
  exact ⟨own id same, hs.there id same⟩

end

/-! ### Hosts that keep to themselves -/

/-- What a host does that does not call back: it keeps its own affairs. -/
inductive Aside (emit : Emitter η) : Step (Session η) Unit → Prop where
  | remember (f : Session η → η) : Aside emit (Step.update fun s => { s with host := f s })

theorem ends_aside {emit : Emitter η} {x : Step (Session η) Unit} (made : x.MadeOf (Aside emit))
    (s : Session η) : ∃ r kept, x.attempt s = (.done r, { s with host := kept }) := by
  induction made generalizing s with
  | call called =>
    cases called with
    | remember f => exact ⟨.ok (), f s, rfl⟩
  | done => exact ⟨.ok (), s.host, rfl⟩
  | fail e => exact ⟨.error e, s.host, rfl⟩
  | look _ ih => exact ih s s
  | @next x f _ _ hx hf =>
    obtain ⟨r, kept, ended⟩ := hx s
    obtain ⟨r', kept', ended'⟩ := hf r { s with host := kept }
    refine ⟨r', kept', ?_⟩
    have behind : (x.attempt >>= f) s = f r { s with host := kept } := Step.bind_of_done ended
    rw [Step.attempt] at ended' ⊢
    rw [behind, ended']

theorem unmoved_aside {emit : Emitter η} {x : Step (Session η) Unit} (made : x.MadeOf (Aside emit))
    (was : Session η) : Keeps (Unmoved was) x := by
  refine made.keeps fun y called => ?_
  cases called with
  | remember f => exact Keeps.update fun _ same => same

/-- Telling an event leads from an arrival, if one awaits the event, to where nothing is awaited. -/
def Tells (declared : String → Option (List Trigger)) (emit : Emitter η) : Prop :=
  ∀ awaited passes e, (∀ id, awaited = some id → e = .sceneEnter id) →
    Carries declared (Stance declared awaited passes) (Stance declared none passes) (emit e)

theorem scene_of_enterScene {id : String} {s : Session η} (ends : (enterScene id s).1 = .done ()) :
    (enterScene id s).2.scene = some id := by
  rcases enterScene_eq id s with refused | refused | ⟨c, scene, loaded, there, entered⟩
  · rw [refused] at ends
    cases ends
  · rw [refused] at ends
    simp only [refuseScene, write_null] at ends
    cases ends
  · rw [entered]
    exact congrArg Position.scene (position_activate id scene _ s)

theorem settles_enterScene (id : String) : Settles (η := η) declared (enterScene id) := by
  intro passes s faithful hs
  have same : (enterScene id s).2.surroundings = s.surroundings :=
    (entering_surroundings (· = s.surroundings)).enterScene id s rfl
  have moves : (enterScene id s).2.moves = s.moves := congrArg Surroundings.moves same
  have bus : (enterScene id s).2.bus = s.bus := congrArg Surroundings.bus same
  refine ⟨(congrArg (Faithful declared) moves).mpr faithful, fun _ => ?_⟩
  rcases position_enterScene id s with stays | ⟨declared', ts, declares, inside, stands⟩
  · exact hs.of_eq stays bus moves
  · obtain rfl := Option.some.inj (declares.symm.trans hs.declares)
    exact ⟨stands ▸ rfl, stands ▸ .active inside, bus ▸ hs.hears, moves ▸ hs.passes,
      moves ▸ hs.awaits, nofun⟩

/-- A scene has become active, which the host may have been told. -/
def Arrived (declared : String → Option (List Trigger)) (passes : List Pass) (id : String)
    (s : Session η) : Prop :=
  Stance declared none passes s ∧ s.scene = some id

theorem Arrived.unmoved {id : String} {s t : Session η} (same : Unmoved s t)
    (h : Arrived declared passes id s) :
    Arrived declared passes id t := ⟨h.1.unmoved same, (congrArg Position.scene same.1).trans h.2⟩

section

variable {host : Host η} (aside : host.MadeOf Aside) {emit : Emitter η}
  (tells : Tells declared emit)

include aside tells

/-- The arrival is noted when the scene is active and the host has been told, right before the
scene's own event. -/
theorem settles_gotoScene (id : String) : Settles declared (gotoScene host emit id) := by
  intro passes
  have heard : Carries declared (Arrived declared passes id) (Stance declared none passes) (do
      Step.update (·.moved (.arrives id))
      emit (.sceneEnter id)) := by
    refine .after (fun s faithful ⟨hs, here⟩ => ?_)
      (tells (some id) passes _ fun _ same => by cases same; rfl)
    refine ⟨.arrives id faithful hs.awaits, hs.declares, hs.settled, hs.hears, hs.passes, rfl,
      fun _ same => ?_⟩
    cases same
    exact here
  have there (s : Session η) (a : Unit) (ends : (enterScene id s).1 = .done a) :
      (enterScene id s).2.scene = some id :=
    scene_of_enterScene ends
  refine .relying (D := fun s => s.scene = some id) (settles_enterScene id passes) there
    (fun _ => ?_) fun _ hs => hs
  cases called : host.onScene with
  | none => exact heard
  | some call =>
    have kept := aside.onScene call called emit id
    exact .next (carries_keeping Arrived.unmoved (unmoved_aside kept))
      (fun _ => heard) fun _ hs => hs.1

theorem suited : Suited declared ⟨some (gotoScene host emit), host.onUi.map (· emit)⟩ := by
  intro passes
  constructor
  · rintro call ⟨⟩ id -
    exact settles_gotoScene aside tells id passes
  · intro call called r
    obtain ⟨present, shown, rfl⟩ := Option.map_eq_some_iff.1 called
    exact carries_unmoved (unmoved_aside (aside.onUi present shown emit r))

omit aside tells in
/-- The event of a scene can always be written to the log, so nothing comes between it and its
pass. -/
theorem dispatch_sceneEnter (id : String) :
    ∃ entry : LogEntry, dispatch host emit (.sceneEnter id) =
    Step.update (·.addEntry entry) >>= fun _ =>
      interpret ⟨some (gotoScene host emit), host.onUi.map (· emit)⟩ (.sceneEnter id) := by
  have recorded : eventRecord (.sceneEnter id) = .ok (Event.sceneEnter id).dump := rfl
  have short : (Event.sceneEnter id).dump.holdsLong = false := by
    have zero : ¬leastLong ≤ 0 := Nat.not_le_of_lt leastLong_pos
    simp [Event.dump, Event.sceneEnter, Event.optionalText, Value.object, Value.ofEntries,
      Value.holdsLong,
      Value.anyEntryHoldsLong, Key.isLong, zero]
  refine ⟨⟨.info, .event, s!"Event: {(Event.sceneEnter id).kind}", (Event.sceneEnter id).dump, 0⟩,
    ?_⟩
  rw [dispatch, recorded]
  exact congrArg (· >>= fun _ => _) (write_of_short _ _ _ short)

theorem carries_dispatch {e : Event} (own : ∀ id, awaited = some id → e = .sceneEnter id) :
    Carries declared (Stance declared awaited passes) (Stance declared none passes)
    (dispatch host emit e) := by
  have interpreted : Carries declared (Stance declared awaited passes) (Stance declared none passes)
      (interpret ⟨some (gotoScene host emit), host.onUi.map (· emit)⟩ e) :=
        carries_interpret (suited aside tells) own
  cases awaited with
  | none =>
    exact .bind (.ofExcept _) fun r => .bind (firm_stance.write _ _ _ _).guards fun _ => interpreted
  | some id =>
    obtain rfl := own id rfl
    obtain ⟨entry, same⟩ := @dispatch_sceneEnter η host emit id
    rw [same]
    exact .after (fun s faithful hs => ⟨faithful, hs.of_eq rfl rfl rfl⟩) interpreted

/-! ### Telling -/

omit aside tells in
theorem chronicled (o : Occurrence) (s : Session η) (faithful : Faithful declared s.moves)
    (hs : Stance declared awaited passes s) :
    Faithful declared (s.chronicle o).moves ∧ Stance declared awaited passes (s.chronicle o) :=
  ⟨faithful, hs.of_eq rfl rfl rfl⟩

omit tells in
/-- A listener of the host may raise, but it has no part in what awaits the event. -/
theorem leads_tellSafely (e : Event) (ofAll : Bool) {l : Listener} (other : l ≠ .course) :
    Leads (fun s => Faithful declared s.moves ∧ Stance declared awaited passes s)
      (fun s => Faithful declared s.moves ∧ Stance declared awaited passes s)
      (tellSafely (tell host emit) e ofAll l) := by
  intro s ⟨faithful, hs⟩
  cases l with
  | course => exact absurd rfl other
  | host name =>
    obtain ⟨r, kept, ended⟩ := ends_aside (aside.onEvent emit name e)
      (s.chronicle (.calls (.host name)))
    have apart (t : Session η) (stands : t.position = s.position) (bus : t.bus = s.bus)
        (moves : t.moves = s.moves) :
        Faithful declared t.moves ∧ Stance declared awaited passes t :=
          ⟨moves ▸ faithful, hs.of_eq stands bus moves⟩
    rw [Step.attempt] at ended
    cases call : host.onEvent emit name e (s.chronicle (.calls (.host name))) with
    | mk ending m =>
      rw [call] at ended
      cases ending with
      | done u =>
        cases ended
        exact ⟨_, tellSafely_of_done call, apart _ rfl rfl rfl⟩
      | failed fault =>
        cases ended
        refine ⟨_, tellSafely_of_failed call, apart _ ?_ ?_ ?_⟩
        all_goals
          rw [faulted]
          split <;> rfl
      | unfinished => cases ended

/-- The course itself is told the event, in a pass of its own. -/
theorem carries_tellSafely {e : Event} (ofAll : Bool)
    (own : ∀ id, awaited = some id → e = .sceneEnter id) :
    Carries declared (Stance declared awaited passes) (Stance declared none passes)
      (tellSafely (tell host emit) e ofAll .course) := by
  refine .after (chronicled _) (.attempting (carries_dispatch aside tells own) fun r => ?_)
  cases r with
  | ok _ => exact .update (chronicled _)
  | error fault =>
    refine .bind (carries_unmoved fun was s same => ?_) fun _ => .update (chronicled _)
    rw [reportFailure_eq, faulted]
    split <;> exact same

theorem carries_round {e : Event} (own : ∀ id, awaited = some id → e = .sceneEnter id)
    {ls : List Listener} (hears : .course ∈ ls) (once : ls.Nodup) :
    Carries declared (Stance declared awaited passes) (Stance declared none passes)
      (Step.each (tellSafely (tell host emit) e true) ls) := by
  obtain ⟨before, after, rfl⟩ := List.append_of_mem hears
  obtain ⟨-, later, apart⟩ := List.nodup_append.mp once
  have others (l : Listener) (mem : l ∈ before ∨ l ∈ after) : l ≠ .course := by
    rintro rfl
    rcases mem with early | late
    · exact apart _ early _ List.mem_cons_self rfl
    · exact (List.nodup_cons.mp later).1 late
  rw [Step.each_append]
  refine .leading (Leads.each fun l early => leads_tellSafely aside e true
    (others l (Or.inl early))) ?_
  refine .bind (carries_tellSafely aside tells true own) fun _ => ?_
  exact .each fun l late => .of_leads (leads_tellSafely aside e true (others l (Or.inr late)))

/-- The listeners of one kind come first and have no part in it; among the others the course has its
turn. -/
theorem carries_tellAll {e : Event} (own : ∀ id, awaited = some id → e = .sceneEnter id) :
    Carries declared (Stance declared awaited passes) (Stance declared none passes)
    (tellAll (tell host emit) e) := by
  have second : Carries declared (Stance declared awaited passes) (Stance declared none passes) (do
      let s ← Step.current
      Step.each (tellSafely (tell host emit) e true) s.bus.forAll
      Step.update (·.chronicle (.ends e))) := by
    intro s faithful hs
    have round : Carries declared (Stance declared awaited passes) (Stance declared none passes)
        (Step.each (tellSafely (tell host emit) e true) s.bus.forAll) :=
      carries_round aside tells own hs.hears.own hs.hears.once
    exact Guards.bind round (fun _ => .update (chronicled _)) s faithful hs
  have first : Carries declared (Stance declared awaited passes) (Stance declared none passes) (do
      let s ← Step.current
      Step.each (tellSafely (tell host emit) e false) (s.bus.listeners (.str e.kind))
      let s ← Step.current
      Step.each (tellSafely (tell host emit) e true) s.bus.forAll
      Step.update (·.chronicle (.ends e))) := by
    intro s faithful hs
    refine Guards.leading (Leads.each fun l mem => leads_tellSafely aside e false ?_)
      second s faithful hs
    rintro rfl
    exact hs.hears.listeners _ mem
  exact .after (chronicled _) first

omit tells in
theorem settles_reportState (cause : Option Event) :
    Settles declared (reportState host emit cause) := by
  intro passes
  unfold reportState
  cases called : host.onState with
  | none => exact .pure ()
  | some call =>
    exact .look fun s _ => .after (chronicled _)
      (carries_unmoved (unmoved_aside (aside.onState call called emit _)))

end

/-- However deeply events cause each other, each is told with the passes around it as they are. -/
theorem tells_emit {host : Host η} (aside : host.MadeOf Aside) (nesting : Nat) :
    Tells declared (emit host nesting) := by
  induction nesting with
  | zero => exact fun _ _ _ _ => .unfinished
  | succ n ih =>
    exact fun awaited passes e own => .bind (carries_tellAll aside ih own) fun _ =>
      settles_reportState aside _ passes

/-! ### Runs -/

/-- What can be asked of a session once its course is loaded, while listeners of the host come and
go. -/
inductive Request (host : Host η) (emit : Emitter η) : Step (Session η) Unit → Prop where
  | operation {x : Step (Session η) Unit} (h : Operation host emit x) : Request host emit x
  | on (kind : Key) (name : String) :
    Request host emit (Step.update fun s => { s with bus := s.bus.on kind (.host name) })
  | onAll (name : String) :
    Request host emit (Step.update fun s => { s with bus := s.bus.onAll (.host name) })
  | off (kind : Key) (name : String) :
    Request host emit (Step.update fun s => { s with bus := s.bus.off kind (.host name) })
  | offAll (name : String) : Request host emit
    (Step.update fun s => { s with bus := s.bus.offAll (.host name) })

section

variable {host : Host η} (aside : host.MadeOf Aside) (nesting : Nat)

include aside

theorem settles_start (scene : Option String) (snapshot : Value) :
    Settles declared (start host (emit host nesting) scene snapshot) := by
  intro passes
  have entered (id : String) : Carries declared (Stance declared none passes)
      (Stance declared none passes) (do
      write .info .scene s!"Starting course from scene: {id}"
      gotoScene host (emit host nesting) id) :=
    .bind (firm_stance.write _ _ _ _).guards fun _ =>
      settles_gotoScene aside (tells_emit aside nesting) id passes
  refine .look fun s _ => ?_
  cases s.course with
  | none => exact .fail _
  | some course =>
    dsimp only
    by_cases resumed : snapshot.truthy = true
    · rw [if_pos resumed]
      refine .bind (.ofExcept _) fun store => .after
        (fun s faithful hs => ⟨faithful, hs.of_eq rfl rfl rfl⟩) (entered _)
    · rw [if_neg resumed]
      exact entered _

theorem settles_operation {x : Step (Session η) Unit}
    (asked : Operation host (emit host nesting) x) : Settles declared x := by
  intro passes
  cases asked with
  | start scene snapshot => exact settles_start aside nesting scene snapshot passes
  | goto id => exact settles_gotoScene aside (tells_emit aside nesting) id passes
  | emit e => exact tells_emit aside nesting none passes e nofun
  | setState state => exact (firm_stance.setState state).guards
  | changeNode id updates =>
    exact .bind (firm_stance.updateNode id updates).guards fun _ =>
      settles_reportState aside none passes

omit aside in
theorem settles_listening {change : Bus → Bus} (hears : ∀ b : Bus, b.Hearing → (change b).Hearing) :
    Settles (η := η) declared (Step.update fun s => { s with bus := change s.bus }) := fun _ =>
  .update fun s faithful hs =>
    ⟨faithful, hs.declares, hs.settled, hears s.bus hs.hears, hs.passes, hs.awaits, hs.there⟩

theorem settles_run {run : Step (Session η) Unit}
    (asked : run.MadeOf (Request host (emit host nesting))) : Settles declared run := by
  intro passes
  induction asked with
  | call called =>
    cases called with
    | operation operation => exact settles_operation aside nesting operation passes
    | on kind name => exact settles_listening (fun _ h => h.on kind name) passes
    | onAll name => exact settles_listening (fun _ h => h.onAll name) passes
    | off kind name => exact settles_listening (fun _ h => h.off kind name) passes
    | offAll name => exact settles_listening (fun _ h => h.offAll name) passes
  | done => exact .pure ()
  | fail e => exact .fail e
  | look _ ih => exact .look fun s _ => ih s
  | next _ _ hx hf => exact .attempting hx hf

end

/-- A course is loaded into a session in which nothing is active. -/
theorem carries_loadCourse (c : Course) (limits : Limits) (log : RunLog) (kept : η) {bus : Bus}
    (hears : bus.Hearing) :
    Carries (adoptCourse (fresh limits log kept).store.next c).1.triggersOf
      (· = { fresh limits log kept with bus })
      (Stance (adoptCourse (fresh limits log kept).store.next c).1.triggersOf none [])
      (loadCourse c) := by
  rintro s faithful rfl
  have same := (entering_surroundings (· = ⟨bus, [], []⟩)).loadCourse c
    (fun _ h => h) { fresh limits log kept with bus } rfl
  have stands := position_loadCourse c { fresh limits log kept with bus }
  generalize loadCourse c { fresh limits log kept with bus } = outcome at same stands
  have moves : outcome.2.moves = [] := congrArg Surroundings.moves same
  have around : outcome.2.bus = bus := congrArg Surroundings.bus same
  refine ⟨(congrArg (Faithful _) moves).mpr .nil,
    fun _ => ⟨stands ▸ rfl, stands ▸ .idle _, around ▸ hears, moves ▸ rfl, moves ▸ rfl, nofun⟩⟩

/-- Every event is interpreted against one scene. Whatever is asked of a session whose course is
loaded once, and however its host raises: each trigger is fired in its turn, in a pass over the
triggers of the scene in which the pass began; each arrival in a scene is followed at once by the
pass for the scene's own event, in that scene; and all passes end. -/
theorem passes_run (c : Course) {host : Host η} (aside : host.MadeOf Aside) (nesting : Nat)
    {run : Step (Session η) Unit} (asked : run.MadeOf (Request host (emit host nesting)))
    (limits : Limits) (log : RunLog) (kept : η) {bus : Bus} (hears : bus.Hearing) {loaded : Course}
    (taken : loaded = (adoptCourse (fresh limits log kept).store.next c).1)
    {outcome : Ending Unit × Session η}
    (behind : outcome = (do loadCourse c; run) { fresh limits log kept with bus }) :
    (∀ later e i t earlier, outcome.2.moves = later ++ .fires e i t :: earlier →
        Move.InTurn loaded.triggersOf earlier e i t) ∧
      (∀ later id earlier, outcome.2.moves = later ++ .arrives id :: earlier →
        later = [] ∧ outcome.1 = .unfinished ∨ ∃ rest, later =
          rest ++ [.begins (.sceneEnter id) (some id)]) ∧
      (outcome.1 ≠ .unfinished → openPasses outcome.2.moves = []) ∧
      (c.marks = 0 → loaded.triggersOf = c.triggersOf) := by
  subst taken
  have whole := Guards.bind (carries_loadCourse c limits log kept hears) fun _ =>
    settles_run aside nesting asked []
  obtain ⟨faithful, stance⟩ := whole { fresh limits log kept with bus } .nil rfl
  rw [← behind] at faithful stance
  refine ⟨?_, ?_, fun ends => (stance ends).passes, fun json => triggersOf_adoptCourse json _⟩
  · rintro later e i t earlier moves
    rw [moves] at faithful
    exact faithful.inTurn
  · rintro later id earlier moves
    rw [moves] at faithful
    rcases faithful.heard with rfl | rest
    · refine Or.inl ⟨rfl, Classical.byContradiction fun ends => ?_⟩
      have awaits := (stance ends).awaits
      rw [moves] at awaits
      cases awaits
    · exact Or.inr rest

end Session

namespace Course

open Session

/-- A corridor with two doors. The tap in the first room leads through one door, and then goes on in
the first room. -/
def corridor : Course where
  schema := "vvce.dsl.v1"
  about := ⟨"corridor", "1.0.0", []⟩
  globals := ⟨[], []⟩
  start := "here"
  scenes := [⟨"here", [], [], tapTriggers, []⟩,
    ⟨"next", [], [], [⟨⟨"sceneEnter", none, []⟩, none, [.delay (.int 1)], none, []⟩], []⟩]
  extras := []

def deaf : Host Unit where
  onScene := none
  onState := none
  onUi := none
  onEvent _ _ _ := Step.fail (.host "deaf")

def corridorBus : Bus :=
  (({ forAll := [.course] } : Bus).on (.str "tap") (.host "ear")).onAll (.host "ear")

def corridorWalk : Ending Unit × Session Unit :=
  (do loadCourse corridor
      (do Session.start deaf (emit deaf 5) none .null
          emit deaf 5 tap)) { fresh {} {} () with bus := corridorBus }

/-- The second trigger of the first room fires when the pass in the next room has ended, in the pass
that began in the first room, and in the end no pass is open. -/
theorem passes_run_corridorWalk :
    (corridorWalk.2.moves[1]? matches some (Move.fires _ 1 _)) ∧
      (corridorWalk.2.moves[2]? matches some Move.ends) ∧
      (corridorWalk.2.moves[4]? matches some (Move.begins _ (some "next"))) ∧
      corridorWalk.2.scene = some "next" ∧
      openPasses corridorWalk.2.moves = [] ∧
      ∀ later e i t earlier, corridorWalk.2.moves = later ++ .fires e i t :: earlier →
        Move.InTurn corridor.triggersOf earlier e i t := by
  have aside : deaf.MadeOf Aside := ⟨nofun, nofun, nofun, fun _ _ _ => .fail _⟩
  have asked : (do Session.start deaf (emit deaf 5) none .null; emit deaf 5 tap).MadeOf
      (Request deaf (emit deaf 5)) :=
    .andThen (.call (.operation (.start none .null))) (.call (.operation (.emit tap)))
  have hears : corridorBus.Hearing := (Bus.hearing_own.on (.str "tap") "ear").onAll "ear"
  obtain ⟨turns, -, ends, same⟩ := passes_run corridor aside 5 asked {} {}
    () hears rfl (show corridorWalk = _ from rfl)
  rw [same rfl] at turns
  exact ⟨by decide +kernel, by decide +kernel, by decide +kernel, by decide +kernel,
    ends (by decide +kernel), turns⟩

end Course

end SceneCourse
