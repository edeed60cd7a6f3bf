import Mathlib.Data.List.Dedup
import Mathlib.Data.List.Perm.Subperm
import Mathlib.Logic.Relation
import SceneCourse.Proofs.Mishap
import SceneCourse.Proofs.SceneWalk

/-! Scenes that lead on by themselves. Whoever enters a scene causes the scene's own event, and a
trigger that hears it may go to the next scene, from where it goes on in the same way. Proved: where
no scene comes back to itself like that, a course that nobody else listens to brings every start,
every change of scene and every event to an end, and scenes are entered inside each other at most as
deep as there are scenes. A pass goes on with its own triggers after it has led elsewhere, so what
gets smaller is not what is left of the pass; it is the number of scenes that have not been entered
in the passes around it. -/

namespace SceneCourse

open Step (Keeps Ends)
open Move (openings)

namespace Step

variable {σ α β : Type} {P Q R : σ → Prop}

/-! ### Steps that finish -/

/-- From every state of one kind the step fails or is done, in a state of another kind. -/
def Finishes (P Q : σ → Prop) (x : Step σ α) : Prop := ∀ s, P s → (x s).1 ≠ .unfinished ∧ Q (x s).2

namespace Finishes

theorem of_ends {x : Step σ α} (ends : Ends x) (kept : Keeps P x) : Finishes P P x :=
  fun s hs => ⟨ends s, kept s hs⟩

theorem narrow {x : Step σ α} (h : Finishes Q R x) (imp : ∀ s, P s → Q s) : Finishes P R x :=
  fun s hs => h s (imp s hs)

theorem pure (a : α) : Finishes P P (Step.pure a : Step σ α) := fun _ hs => ⟨nofun, hs⟩

theorem fail (e : Fault) : Finishes P P (Step.fail e : Step σ α) := fun _ hs => ⟨nofun, hs⟩

theorem ofExcept (r : Except Fault α) : Finishes P P (Step.ofExcept r : Step σ α) :=
  of_ends (.ofExcept r) (.ofExcept r)

theorem update {g : σ → σ} (h : ∀ s, P s → Q (g s)) : Finishes P Q (Step.update g) :=
  fun s hs => ⟨nofun, h s hs⟩

/-- A step that fails stops where it is. -/
theorem next {x : Step σ α} {f : α → Step σ β} (hx : Finishes P Q x) (hf : ∀ a, Finishes Q R (f a))
    (stops : ∀ s, Q s → R s) : Finishes P R (x >>= f) := by
  intro s hs
  have first := hx s hs
  show (Step.bind x f s).1 ≠ _ ∧ R (Step.bind x f s).2
  rw [Step.bind]
  generalize x s = outcome at first ⊢
  obtain ⟨_ | _ | _, t⟩ := outcome
  · exact hf _ t first.2
  · exact ⟨nofun, stops t first.2⟩
  · exact absurd rfl first.1

theorem bind {x : Step σ α} {f : α → Step σ β} (hx : Finishes P Q x)
    (hf : ∀ a, Finishes Q Q (f a)) : Finishes P Q (x >>= f) := next hx hf fun _ => id

/-- What has failed is no end, so what comes after it may lead elsewhere. -/
theorem attempting {x : Step σ α} {f : Except Fault α → Step σ β} (hx : Finishes P Q x)
    (hf : ∀ r, Finishes Q R (f r)) : Finishes P R (x.attempt >>= f) := by
  intro s hs
  have first := hx s hs
  show (Step.bind x.attempt f s).1 ≠ _ ∧ R (Step.bind x.attempt f s).2
  rw [Step.bind, Step.attempt]
  generalize x s = outcome at first ⊢
  obtain ⟨_ | _ | _, t⟩ := outcome
  · exact hf _ t first.2
  · exact hf _ t first.2
  · exact absurd rfl first.1

/-- A change of the state, and what comes after it. -/
theorem after {g : σ → σ} {x : Step σ α} (h : ∀ s, P s → Q (g s)) (hx : Finishes Q R x) :
    Finishes P R (Step.update g >>= fun _ => x) := fun s hs => hx (g s) (h s hs)

theorem look {f : σ → Step σ α} (hf : ∀ s, P s → Finishes P Q (f s)) :
    Finishes P Q (Step.current >>= f) :=
  fun s hs => hf s hs s hs

theorem each {f : β → Step σ Unit} {bs : List β} (h : ∀ b ∈ bs, Finishes P P (f b)) :
    Finishes P P (Step.each f bs) := by
  induction bs with
  | nil => exact pure ()
  | cons b bs ih =>
    exact bind (h b List.mem_cons_self) fun _ => ih fun c hc => h c (List.mem_cons_of_mem b hc)

end Finishes

end Step

open Step (Finishes)

/-! ### Scenes that lead on -/

/-- By itself one scene leads to another if a trigger that hears the scene's own event goes there,
in either branch and at any depth. Both scenes are declared. -/
def LeadsOn (declared : String → Option (List Trigger)) (id next : String) : Prop :=
  (∃ ts, declared id = some ts ∧ ∃ t ∈ ts,
    t.on.matches (Event.sceneEnter id).kind (Event.sceneEnter id).target = true ∧
    next ∈ Action.destinations t.actions) ∧ declared next ≠ none

namespace Course

theorem mem_sceneIds_of_triggersOf {c : Course} {id : String} (declares : c.triggersOf id ≠ none) :
    id ∈ c.sceneIds := by
  rw [triggersOf, ne_eq, Option.map_eq_none_iff, scene?, List.find?_eq_none] at declares
  push Not at declares
  obtain ⟨sc, member, named⟩ := declares
  exact List.mem_map.2 ⟨sc, member, by simpa using named⟩

def Acyclic (c : Course) : Prop := ∀ id, ¬Relation.TransGen (LeadsOn c.triggersOf) id id

/-- No scene comes back to itself if every trigger that hears its scene's own event leads only to
scenes of higher rank. -/
theorem acyclic_of_rank {c : Course} (rank : String → Nat)
    (rises : ∀ sc ∈ c.scenes, ∀ t ∈ sc.triggers,
      t.on.matches (Event.sceneEnter sc.id).kind (Event.sceneEnter sc.id).target = true →
      ∀ next ∈ Action.destinations t.actions, next ∈ c.sceneIds → rank sc.id < rank next) :
    c.Acyclic := by
  have step {id next : String} (h : LeadsOn c.triggersOf id next) : rank id < rank next := by
    obtain ⟨⟨_, declares, t, member, hears, goes⟩, inside⟩ := h
    obtain ⟨sc, there, rfl⟩ := Option.map_eq_some_iff.1 declares
    obtain rfl : sc.id = id := by simpa using List.find?_some there
    exact rises sc (List.mem_of_find?_eq_some there) t member hears next goes
      (mem_sceneIds_of_triggersOf inside)
  have higher {id next : String} (h : Relation.TransGen (LeadsOn c.triggersOf) id next) : rank id <
      rank next := by
    induction h with
    | single leads => exact step leads
    | tail _ leads ih => exact Nat.lt_trans ih (step leads)
  exact fun id back => absurd (higher back) (Nat.lt_irrefl _)

/-- How many scenes a course declares. Scenes of one name count once. -/
def sceneCount (c : Course) : Nat := c.sceneIds.dedup.length

end Course

/-- Declared scenes, the latest first, each of which leads on to the next one. -/
structure Trail (declared : String → Option (List Trigger)) (ids : List String) : Prop where
  descends : ids.Pairwise fun later earlier => Relation.TransGen (LeadsOn declared) earlier later
  inside : ∀ id ∈ ids, declared id ≠ none

namespace Trail

variable {declared : String → Option (List Trigger)} {id next : String} {ids : List String}

theorem single (inside : declared id ≠ none) : Trail declared [id] where
  descends := List.pairwise_singleton _ _
  inside := List.forall_mem_singleton.2 inside

theorem cons (h : Trail declared (id :: ids)) (leads : LeadsOn declared id next) :
    Trail declared (next :: id :: ids) where
  descends := by
    refine h.descends.cons fun earlier member => ?_
    rcases List.mem_cons.1 member with rfl | before
    · exact .single leads
    · exact (List.rel_of_pairwise_cons h.descends before).tail leads
  inside := List.forall_mem_cons.2 ⟨leads.2, h.inside⟩

/-- A trail passes through no scene twice, so it is no longer than there are scenes. -/
theorem length_le {c : Course} (acyclic : c.Acyclic) (h : Trail c.triggersOf ids) :
    ids.length ≤ c.sceneCount := by
  have distinct : ids.Nodup := by
    refine h.descends.imp fun {later earlier} way same => ?_
    subst same
    exact acyclic later way
  refine (List.subperm_of_subset distinct fun id member => ?_).length_le
  exact List.mem_dedup.2 (Course.mem_sceneIds_of_triggersOf (h.inside id member))

end Trail

/-- How many passes were open when the scene became active. -/
def Entrance.depth (v : Entrance) : Nat := (openings v.moves).length

/-- No listener of the host is registered. The course is for all events, if at all, and once. -/
structure Bus.Private (b : Bus) : Prop where
  byKind : ∀ entry ∈ b.byKind, entry.2 = []
  forAll : b.forAll.Sublist [.course]

theorem Bus.Private.listeners {b : Bus} (h : b.Private) (kind : Key) : b.listeners kind = [] :=
  listeners_of_byKind (Q := fun ls => ls = []) rfl h.byKind kind

namespace Session

variable {η α : Type}

/-! ### Sessions on a cascade -/

/-- Nothing has changed but the state, the log and the affairs of the host. -/
def Undisturbed (was s : Session η) : Prop := Stayed was s ∧ s.bus = was.bus

theorem firm_undisturbed (was : Session η) : Firm (Undisturbed was) :=
  (firm_stayed was).and (firm_surroundings fun v => v.bus = was.bus)

variable {declared : String → Option (List Trigger)} {deepest : Nat} {since : List Entrance}
  {opened : Nat}

/-- A session that nobody else listens to, with some passes open. Since a certain moment scenes were
entered in fewer passes than a certain number only. -/
structure Cascading (declared : String → Option (List Trigger)) (deepest : Nat)
    (since : List Entrance) (opened : Nat)
    (s : Session η) : Prop where
  declares : s.position.declared = some declared
  unheard : s.bus.Private
  opens : (openings s.moves).length = opened
  shallow : ∃ newer, s.entrances = newer ++ since ∧ ∀ v ∈ newer, v.depth < deepest

theorem Cascading.undisturbed {s t : Session η} (h : Cascading declared deepest since opened s)
    (same : Undisturbed s t) : Cascading declared deepest since opened t := by
  obtain ⟨⟨⟨stands, moves⟩, entrances⟩, bus⟩ := same
  exact ⟨stands ▸ h.declares, bus ▸ h.unheard, moves ▸ h.opens, entrances ▸ h.shallow⟩

theorem historic_cascading : Historic (Cascading (η := η) declared deepest since opened) where
  toFirm := .of_related (fun _ => ⟨⟨⟨rfl, rfl⟩, rfl⟩, rfl⟩) firm_undisturbed fun same hs =>
    hs.undisturbed same
  history _ _ hs := hs.undisturbed ⟨⟨⟨rfl, rfl⟩, rfl⟩, rfl⟩

def Armed (declared : String → Option (List Trigger)) (deepest : Nat) (since : List Entrance)
    (opened : Nat) (ts : List Trigger) (s : Session η) : Prop :=
  Cascading declared deepest since opened s ∧ s.triggers = ts

theorem Armed.undisturbed {ts : List Trigger} {s t : Session η}
    (h : Armed declared deepest since opened ts s) (same : Undisturbed s t) :
    Armed declared deepest since opened ts t :=
  ⟨h.1.undisturbed same, (congrArg Position.triggers same.1.1.1).trans h.2⟩

theorem historic_armed {ts : List Trigger} :
    Historic (Armed (η := η) declared deepest since opened ts) where
  toFirm := .of_related (fun _ => ⟨⟨⟨rfl, rfl⟩, rfl⟩, rfl⟩) firm_undisturbed fun same hs =>
    hs.undisturbed same
  history _ _ hs := hs.undisturbed ⟨⟨⟨rfl, rfl⟩, rfl⟩, rfl⟩

/-- Who enters a scene is refused and stays where it was, or is in that scene with its triggers. -/
theorem enterScene_ends (id : String) (s : Session η) :
    (∃ fault t, enterScene id s = (.failed fault, t) ∧ Undisturbed s t) ∨
      ∃ ts t, enterScene id s = (.done (), t) ∧ ∃ declared, s.position.declared = some declared ∧
      declared id = some ts ∧
        t.position = ⟨some declared, some id, ts⟩ ∧ t.surroundings = s.surroundings ∧
        t.entrances = ⟨id, s.moves⟩ :: s.entrances := by
  rcases enterScene_eq id s with refused | refused | ⟨c, scene, loaded, there, entered⟩
  · exact Or.inl ⟨_, s, refused, ⟨⟨rfl, rfl⟩, rfl⟩, rfl⟩
  · rw [refused]
    simp only [refuseScene, write_null]
    exact Or.inl ⟨_, _, rfl, ⟨⟨rfl, rfl⟩, rfl⟩, rfl⟩
  · have declares : s.position.declared = some c.triggersOf := by
      rw [position, loaded, Option.map_some]
    have stands := position_activate id scene (s.scene != some id) s
    have around : (activate id scene (s.scene != some id) s).2.surroundings = s.surroundings :=
      (entering_surroundings (· = s.surroundings)).activate id scene _ s rfl
    have entrances := entrances_activate id scene (s.scene != some id) s
    obtain ⟨t, done⟩ : ∃ t, activate id scene (s.scene != some id) s = (.done (), t) := by
      cases s.scene != some id with
      | true =>
        obtain ⟨t, seeded, -⟩ := leads_seed_position
          (fun _ => True) "scene" (sceneVars id) (cleared id s) trivial
        exact ⟨_, activate_anew seeded⟩
      | false =>
        simp only [activate, write_null]
        exact ⟨_, rfl⟩
    rw [done] at stands around entrances
    rw [declares] at stands
    exact Or.inr ⟨scene.triggers, t, entered.trans done, c.triggersOf, declares,
      Course.triggersOf_of_scene? there, stands,
      around, entrances⟩

/-! ### Actions and triggers -/

theorem ends_assign (path : String) (v : Value) : Ends (assign path v : Step (Session η) Unit) :=
  Ends.bind (fun _ => nofun) fun _ => ends_ask.bind fun _ => ends_setCopy.bind fun _ => ends_write

theorem ends_weigh (t : Trigger) : Ends (weigh t : Step (Session η) Bool) := by
  unfold weigh
  cases t.conditions with
  | none => exact .pure true
  | some cs =>
    refine Ends.bind (fun _ => nofun) fun s => ends_ask.bind fun holds =>
      (Ends.ofExcept _).bind fun records => ?_
    exact ends_write.bind fun _ => .pure holds

section

variable {P : Session η → Prop} (firm : Firm P) {cb : Callbacks η} {R : String → Prop}
  (presents : ∀ call, cb.present = some call → ∀ r, Finishes P P (call r))
  (goes : ∀ call, cb.goto = some call → ∀ id, R id → Finishes P P (call id))

include firm

theorem finishes_write (level : Level) (category : Category) (message : String) (data : Value) :
    Finishes P P (write level category message data) := .of_ends ends_write (firm.write _ _ _ _)

include presents

theorem finishes_present (kind : UiKind) (text : String) (extras : List (String × Value)) :
    Finishes P P (present cb kind text extras) := by
  refine .bind (.look fun s _ => .pure _) fun extras =>
    .bind (.of_ends ends_ask (firm.ask _)) fun r => ?_
  cases shown : cb.present with
  | none => exact finishes_write firm _ _ _ _
  | some call => exact presents call shown r

include goes

theorem finishes_visit (a : Action) (leads : ∀ id, a.destination? = some id → R id) :
    Finishes P P (visit cb a) := by
  have announced {tag : String} {x : Step (Session η) Unit} (h : Finishes P P x) :
      Finishes P P (announce tag >>= fun _ => x) := .bind (finishes_write firm _ _ _ _) fun _ => h
  cases a with
  | gotoScene id transition =>
    refine announced ?_
    unfold leaveFor
    cases led : cb.goto with
    | none => exact finishes_write firm _ _ _ _
    | some call => exact goes call led id (leads id rfl)
  | setVar path v => exact announced (.of_ends (ends_assign path v) (firm.assign path v))
  | incVar path amount =>
    exact announced (.of_ends (ends_increment path amount) (firm.increment path amount))
  | addScore amount =>
    exact announced (.of_ends (ends_increment _ amount) (firm.increment _ amount))
  | toast text extras => exact announced (finishes_present firm presents .toast text extras)
  | modal text extras => exact announced (finishes_present firm presents .modal text extras)
  | resetNode id => exact announced (.of_ends (ends_setNode id _) (firm.setNode id _))
  | unknown tag params =>
    exact announced (.bind (fun _ hs => ⟨nofun, hs⟩) fun _ => finishes_write firm _ _ _ _)
  | delay duration => exact finishes_write firm _ _ _ _
  | sequence as => exact finishes_write firm _ _ _ _
  | parallel as => exact finishes_write firm _ _ _ _

theorem finishes_executeAll (as : List Action) (leads : Action.LeadTo R as) :
    Finishes P P (executeAll cb as) := by
  rw [executeAll_eq_visits]
  refine .each fun a member => finishes_visit firm presents goes a fun id goes => leads id ?_
  exact List.mem_filterMap.2 ⟨a, member, goes⟩

theorem finishes_react {t : Trigger} (leads : t.LeadsTo R) :
    Finishes P P (weigh t >>= fun holds => runBranch cb t holds) := by
  rw [Trigger.LeadsTo, Action.LeadTo, Trigger.actions, Action.preorderAll_append,
    List.filterMap_append,
    List.forall_mem_append] at leads
  refine .bind (.of_ends (ends_weigh t) (firm.weigh t)) fun holds => ?_
  unfold runBranch
  cases holds with
  | true =>
    exact .bind (finishes_write firm _ _ _ _) fun _ =>
      finishes_executeAll firm presents goes _ leads.1
  | false =>
    cases alternative : t.alternative with
    | none => exact .pure ()
    | some as =>
      rw [alternative] at leads
      exact .bind (finishes_write firm _ _ _ _) fun _ =>
        finishes_executeAll firm presents goes _ leads.2

end

/-! ### Hosts that keep to themselves -/

theorem finishes_aside {P : Session η → Prop} (kept : ∀ s host, P s → P { s with host })
    {emit : Emitter η} {x : Step (Session η) Unit} (made : x.MadeOf (Aside emit)) :
    Finishes P P x := by
  intro s hs
  obtain ⟨r, host, ended⟩ := ends_aside made s
  have behind := kept s host hs
  rw [Step.attempt] at ended
  generalize x s = outcome at ended ⊢
  obtain ⟨_ | _ | _, t⟩ := outcome
  · exact ⟨by simp, (congrArg Prod.snd ended).symm ▸ behind⟩
  · exact ⟨by simp, (congrArg Prod.snd ended).symm ▸ behind⟩
  · cases (congrArg Prod.fst ended)

/-! ### Telling -/

/-- An invariant that looks neither at the log nor at the notes about what is told. -/
structure Heedless (I : Session η → Prop) : Prop where
  addEntry : ∀ s e, I s → I (s.addEntry e)
  addLine : ∀ s line, I s → I (s.addLine line)
  history : ∀ s history, I s → I { s with history }

theorem Historic.heedless {I : Session η → Prop} (h : Historic I) : Heedless I :=
  ⟨h.addEntry, h.addLine, h.history⟩

section

variable {P Q : Session η → Prop} (before : Heedless P) (behind : Heedless Q)

include behind

theorem finishes_reportFailure (e : Event) (l : Listener) (ofAll : Bool) (fault : Fault) :
    Finishes Q Q (reportFailure e l ofAll fault) := by
  refine .look fun s _ => ?_
  by_cases diagnosed : s.diagnosed = true
  · rw [if_pos diagnosed]
    exact .of_ends ends_write fun s hs => Keeps.ofExcept _ _ (behind.addEntry s _ hs)
  · rw [if_neg diagnosed]
    exact .update fun s hs => behind.addLine s _ hs

include before

/-- An event that only the course hears, and only once, is told to it. -/
theorem finishes_tellAll {tell : Listener → Event → Step (Session η) Unit} {e : Event}
    (unheard : ∀ s, P s → s.bus.Private) (kept : ∀ s, P s → Q s)
    (told : Finishes P Q (tell .course e)) : Finishes P Q (tellAll tell e) := by
  have one : Finishes P Q (tellSafely tell e true .course) := by
    refine .after (fun s hs => before.history s _ hs) (.attempting told fun outcome => ?_)
    cases outcome with
    | ok _ => exact .update fun s hs => behind.history s _ hs
    | error fault =>
      exact .bind (finishes_reportFailure behind e _ _ fault) fun _ => .update fun s hs =>
        behind.history s _ hs
  have closing : Finishes Q Q (Step.update fun s => s.chronicle (.ends e)) :=
    .update fun s hs => behind.history s _ hs
  have second : Finishes P Q (do
      let s ← Step.current
      Step.each (tellSafely tell e true) s.bus.forAll
      Step.update (·.chronicle (.ends e))) := by
    refine .look fun s hs => ?_
    rcases List.sublist_singleton.1 (unheard s hs).forAll with nobody | alone
    · rw [nobody]
      exact closing.narrow kept
    · rw [alone]
      exact .bind (.next one (fun _ => .pure ()) fun _ => id) fun _ => closing
  have first : Finishes P Q (do
      let s ← Step.current
      Step.each (tellSafely tell e false) (s.bus.listeners (.str e.kind))
      let s ← Step.current
      Step.each (tellSafely tell e true) s.bus.forAll
      Step.update (·.chronicle (.ends e))) := by
    refine .look fun s hs => ?_
    rw [(unheard s hs).listeners]
    exact second
  exact .after (fun s hs => before.history s _ hs) first

end

/-! ### Passes -/

section

variable {host : Host η} (aside : host.MadeOf Aside) {emit : Emitter η}

include aside

theorem finishes_reportState {P : Session η → Prop} (h : Heedless P)
    (kept : ∀ s host, P s → P { s with host }) (cause : Option Event) :
    Finishes P P (reportState host emit cause) := by
  unfold reportState
  cases called : host.onState with
  | none => exact .pure ()
  | some call =>
    refine .look fun s _ => .after (fun s hs => h.history s _ hs) ?_
    exact finishes_aside kept (aside.onState call called emit _)

/-- A pass whose triggers lead only to scenes that can be gone to inside it. -/
theorem finishes_dispatch {e : Event} {ts : List Trigger}
    (goes : ∀ t ∈ ts, t.on.matches e.kind e.target = true →
      t.LeadsTo fun id => Finishes (Cascading declared deepest since (opened + 1))
      (Cascading declared deepest since (opened + 1)) (gotoScene host emit id)) :
    Finishes (Armed declared deepest since opened ts) (Cascading declared deepest since opened)
    (dispatch host emit e) := by
  have fired : ∀ p ∈ matching e ts, Finishes (Cascading declared deepest since (opened + 1))
      (Cascading declared deepest since (opened + 1))
      (fire ⟨some (gotoScene host emit), host.onUi.map (· emit)⟩ e p.1 p.2) := by
    rintro ⟨i, t⟩ due
    obtain ⟨placed, hears⟩ := mem_matching.1 due
    have leads := goes t (List.mem_of_getElem? placed) hears
    refine .after (Q := Cascading declared deepest since (opened + 1))
      (fun s hs => ⟨hs.declares, hs.unheard, hs.opens, hs.shallow⟩) ?_
    refine .bind (finishes_write historic_cascading.toFirm _ _ _ _) fun _ =>
      finishes_react historic_cascading.toFirm ?_ ?_ leads
    · intro call shown r
      obtain ⟨present, answered, rfl⟩ := Option.map_eq_some_iff.1 shown
      exact finishes_aside (fun s _ hs => hs.undisturbed ⟨⟨⟨rfl, rfl⟩, rfl⟩, rfl⟩)
        (aside.onUi present answered emit r)
    · rintro call ⟨⟩ id goes
      exact goes
  have pass : Finishes (Cascading declared deepest since (opened + 1))
      (Cascading declared deepest since opened)
      ((handle ⟨some (gotoScene host emit), host.onUi.map (· emit)⟩ e ts).attempt >>= fun outcome =>
        Step.update (·.moved .ends) >>= fun _ => Step.ofExcept outcome >>= fun _ => pure ()) := by
    refine .attempting (.bind (.each fun p due => fired p due) fun _ => .pure _) fun outcome =>
      .after (fun s hs => ⟨hs.declares, hs.unheard, ?_, hs.shallow⟩)
        (.bind (.ofExcept outcome) fun _ => .pure ())
    show (openings s.moves).tail.length = opened
    rw [List.length_tail, hs.opens, Nat.add_sub_cancel]
  refine .next (.ofExcept _)
    (fun record => .next (finishes_write historic_armed.toFirm _ _ _ _) (fun _ => ?_)
    fun _ hs => hs.1) fun _ hs => hs.1
  intro s hs
  have began : Cascading declared deepest since (opened + 1) (s.moved (.begins e s.scene)) :=
    ⟨hs.1.declares, hs.1.unheard, congrArg Nat.succ hs.1.opens, hs.1.shallow⟩
  have whole := pass (s.moved (.begins e s.scene)) began
  rw [← hs.2] at whole
  exact whole

/-- An event that is told where certain triggers are active. -/
theorem finishes_emitOnce {e : Event} {ts : List Trigger}
    (goes : ∀ t ∈ ts, t.on.matches e.kind e.target = true →
      t.LeadsTo fun id => Finishes (Cascading declared deepest since (opened + 1))
      (Cascading declared deepest since (opened + 1)) (gotoScene host emit id)) :
    Finishes (Armed declared deepest since opened ts) (Cascading declared deepest since opened)
    (emitOnce host emit e) :=
  .bind (finishes_tellAll historic_armed.heedless historic_cascading.heedless
    (fun _ hs => hs.1.unheard) (fun _ hs => hs.1)
    (finishes_dispatch aside goes)) fun _ =>
      finishes_reportState aside historic_cascading.heedless
        (fun _ _ hs => hs.undisturbed ⟨⟨⟨rfl, rfl⟩, rfl⟩, rfl⟩) _

/-- A scene is gone to if it may be entered so deep and its own event can be told there. -/
theorem finishes_gotoScene {id : String} (enters : ∀ ts, declared id = some ts → opened < deepest ∧
      Finishes (Armed declared deepest since opened ts) (Cascading declared deepest since opened)
        (emit (.sceneEnter id))) :
    Finishes (Cascading declared deepest since opened) (Cascading declared deepest since opened)
      (gotoScene host emit id) := by
  intro s hs
  show (Step.bind (enterScene id) _ s).1 ≠ _ ∧
    Cascading declared deepest since opened (Step.bind (enterScene id) _ s).2
  rw [Step.bind]
  rcases enterScene_ends id s with ⟨fault, t, refused, same⟩ | ⟨ts, t, entered, moved⟩
  · rw [refused]
    exact ⟨nofun, hs.undisturbed same⟩
  · rw [entered]
    obtain ⟨declared', declares, inside, stands, around, entrances⟩ := moved
    obtain rfl := Option.some.inj (declares.symm.trans hs.declares)
    obtain ⟨deep, told⟩ := enters ts inside
    have bus : t.bus = s.bus := congrArg Surroundings.bus around
    have moves : t.moves = s.moves := congrArg Surroundings.moves around
    have here : Armed declared' deepest since opened ts t := by
      obtain ⟨newer, before, shallow⟩ := hs.shallow
      refine ⟨⟨stands ▸ rfl, bus ▸ hs.unheard, moves ▸ hs.opens, ⟨id, s.moves⟩ :: newer, ?_, ?_⟩,
        congrArg Position.triggers stands⟩
      · rw [entrances, before, List.cons_append]
      · exact List.forall_mem_cons.2 ⟨Nat.lt_of_le_of_lt (Nat.le_of_eq hs.opens) deep, shallow⟩
    have arrives : Finishes (Armed declared' deepest since opened ts)
        (Cascading declared' deepest since opened) (do
        Step.update fun s => s.moved (.arrives id)
        emit (.sceneEnter id)) :=
      .after (fun s hs => ⟨⟨hs.1.declares, hs.1.unheard, hs.1.opens, hs.1.shallow⟩, hs.2⟩) told
    cases called : host.onScene with
    | none => exact arrives t here
    | some call =>
      have answered : Finishes (Armed declared' deepest since opened ts)
          (Armed declared' deepest since opened ts)
          (call emit id) :=
        finishes_aside (fun _ _ hs => hs.undisturbed ⟨⟨⟨rfl, rfl⟩, rfl⟩, rfl⟩)
          (aside.onScene call called emit id)
      exact answered.next (fun _ => arrives) (fun _ hs => hs.1) t here

end

/-! ### Cascades -/

/-- The own event of the scene that a trail ends in is told within as many events inside each other
as there are scenes that the trail has not passed through. -/
theorem finishes_trail {c : Course} (acyclic : c.Acyclic) {host : Host η}
    (aside : host.MadeOf Aside) {root : Nat} (nesting : Nat) {id : String} {ids : List String}
    (trail : Trail c.triggersOf (id :: ids)) {ts : List Trigger}
    (declares : c.triggersOf id = some ts) (enough : c.sceneCount ≤ nesting + ids.length) :
    Finishes (Armed c.triggersOf (root + c.sceneCount) since (root + ids.length) ts)
      (Cascading c.triggersOf (root + c.sceneCount) since (root + ids.length))
      (emit host nesting (.sceneEnter id)) := by
  induction nesting generalizing id ids ts with
  | zero =>
    have short := trail.length_le acyclic
    rw [List.length_cons] at short
    omega
  | succ n ih =>
    refine finishes_emitOnce aside fun t member hears next goes =>
      finishes_gotoScene aside fun ts' inside => ?_
    have leads : LeadsOn c.triggersOf id next :=
      ⟨⟨ts, declares, t, member, hears, mem_firstMentions.2 goes⟩, by rw [inside]; simp⟩
    have longer := trail.cons leads
    have short := longer.length_le acyclic
    have told := ih longer inside (by rw [List.length_cons]; omega)
    rw [List.length_cons, List.length_cons] at short
    rw [List.length_cons, ← Nat.add_assoc] at told
    exact ⟨by omega, told⟩

section

variable {c : Course} (acyclic : c.Acyclic) {host : Host η} (aside : host.MadeOf Aside)
  {nesting : Nat} (enough : c.sceneCount ≤ nesting)

include acyclic aside enough

theorem finishes_goto (root : Nat) (id : String) :
    Finishes (Cascading c.triggersOf (root + c.sceneCount) since root)
    (Cascading c.triggersOf (root + c.sceneCount) since root)
    (gotoScene host (emit host nesting) id) := by
  refine finishes_gotoScene aside fun ts inside => ?_
  have trail : Trail c.triggersOf [id] := .single (by rw [inside]; simp)
  have short := trail.length_le acyclic
  rw [List.length_singleton] at short
  exact ⟨by omega, finishes_trail acyclic aside nesting trail inside enough⟩

theorem finishes_start (root : Nat) (scene : Option String) (snapshot : Value) :
    Finishes (Cascading c.triggersOf (root + c.sceneCount) since root)
      (Cascading c.triggersOf (root + c.sceneCount) since root)
      (start host (emit host nesting) scene snapshot) := by
  have entered (id : String) : Finishes (Cascading c.triggersOf (root + c.sceneCount) since root)
      (Cascading c.triggersOf (root + c.sceneCount) since root) (do
        write .info .scene s!"Starting course from scene: {id}"
        gotoScene host (emit host nesting) id) :=
    .bind (finishes_write historic_cascading.toFirm _ _ _ _) fun _ =>
      finishes_goto acyclic aside enough root id
  refine .look fun s _ => ?_
  cases s.course with
  | none => exact .fail _
  | some course =>
    dsimp only
    by_cases resumed : snapshot.truthy = true
    · rw [if_pos resumed]
      refine .bind (.ofExcept _) fun store => .after (fun s hs => ?_) (entered _)
      exact ⟨hs.declares, hs.unheard, hs.opens, hs.shallow⟩
    · rw [if_neg resumed]
      exact entered _

theorem finishes_emit (root : Nat) (e : Event) (ts : List Trigger) :
    Finishes (Armed c.triggersOf (root + 1 + c.sceneCount) since root ts)
      (Cascading c.triggersOf (root + 1 + c.sceneCount) since root) (emit host (nesting + 1) e) :=
  finishes_emitOnce aside fun _ _ _ id _ => finishes_goto acyclic aside enough (root + 1) id

end

def EndsShallow (deepest : Nat) (x : Step (Session η) Unit) (s : Session η) : Prop :=
  (x s).1 ≠ .unfinished ∧ ∃ newer, (x s).2.entrances = newer ++ s.entrances ∧
    ∀ v ∈ newer, v.depth < deepest

/-- Where no scene comes back to itself by itself, everything that is asked of a session comes to an
end, whatever its state, its active triggers and its past are, and however its host fails; as many
events inside each other as there are scenes are enough, and one more for an event from outside. A
scene is entered inside fewer others than there are scenes: each of the others has a pass open, and
so has the event from outside. -/
theorem cascade_ends {c : Course} (acyclic : c.Acyclic) {host : Host η} (aside : host.MadeOf Aside)
    {s : Session η} (loaded : s.course = some c) (unheard : s.bus.Private) (nesting : Nat)
    (enough : c.sceneCount ≤ nesting) :
    (∀ scene snapshot, EndsShallow ((openings s.moves).length + c.sceneCount)
        (start host (emit host nesting) scene snapshot) s) ∧
      (∀ id, EndsShallow ((openings s.moves).length + c.sceneCount)
        (gotoScene host (emit host nesting) id) s) ∧
      ∀ e, EndsShallow ((openings s.moves).length + 1 + c.sceneCount)
      (emit host (nesting + 1) e) s := by
  have begun (deepest : Nat) : Cascading c.triggersOf deepest s.entrances
      (openings s.moves).length s :=
    ⟨by rw [position, loaded, Option.map_some], unheard, rfl, [], rfl, nofun⟩
  have shallow {deepest : Nat} {x : Step (Session η) Unit} (h : (x s).1 ≠ .unfinished ∧
      Cascading c.triggersOf deepest s.entrances (openings s.moves).length (x s).2) :
          EndsShallow deepest x s :=
    ⟨h.1, h.2.shallow⟩
  refine ⟨fun scene snapshot => shallow ?_, fun id => shallow ?_, fun e => shallow ?_⟩
  · exact finishes_start acyclic aside enough _ scene snapshot s (begun _)
  · exact finishes_goto acyclic aside enough _ id s (begun _)
  · exact finishes_emit acyclic aside enough _ e s.triggers s ⟨begun _, rfl⟩

end Session

/-! ### Stairs -/

namespace ScriptHost

open Session

/-- Without listeners a script host keeps to itself. -/
theorem aside_callbacks (r : Responses) : (callbacks r).MadeOf Aside := by
  obtain ⟨onScene, onState, onUi⟩ := callbacks_all (P := fun emit x => x.MadeOf (Aside emit))
    (fun _ _ => .call (.remember _)) (fun _ _ _ => .andThen (.call (.remember _)) (.fail _)) r
  exact ⟨onScene, onState, onUi, fun _ _ _ => .done⟩

end ScriptHost

namespace Course

open Session ScriptHost

/-- The stairs lead up by themselves, from the cellar by an alternative and from the hall past a
missing landing. The way back down has to be asked for. -/
def stairs : Course where
  schema := "vvce.dsl.v1"
  about := ⟨"stairs", "1.0.0", []⟩
  globals := ⟨[], []⟩
  start := "cellar"
  scenes := [
    { passageway "cellar" [] with triggers := [⟨⟨"sceneEnter", none, []⟩, some [], [],
        some [.sequence [.parallel [.gotoScene "hall" .null]]], []⟩,
          ⟨⟨"sceneEnter", none, []⟩, none,
        [.sequence [.gotoScene "hall" .null, .gotoScene "roof" .null]], none, []⟩] },
    passageway "hall" ["roof", "landing"],
    { passageway "roof" [] with triggers :=
      [⟨⟨"tap", none, []⟩, none, [.gotoScene "cellar" .null], none, []⟩] }]
  extras := []

theorem acyclic_stairs : stairs.Acyclic := acyclic_of_rank (stairs.sceneIds.idxOf ·) (by decide)

def blind : Host ScriptHost := callbacks { state := .failing "dark" }

def foot : Session ScriptHost := (loadCourse stairs (fresh {} {} {})).2

def top : Session ScriptHost := (enterScene "roof" foot).2

/-- One climbs from the cellar to the roof; a tap on the roof leads down to the cellar, from where
one climbs again. -/
theorem cascade_ends_stairs :
    stairs.sceneCount = 3 ∧ foot.course = some stairs ∧ top.course = some stairs ∧
    top.scene = some "roof" ∧ foot.bus.Private ∧ top.bus.Private ∧
    EndsShallow 3 (Session.start blind (emit blind 3) none .null) foot ∧ EndsShallow 4
      (emit blind 4 tap) top := by
  have count : stairs.sceneCount = 3 := by decide
  have aside : blind.MadeOf Aside := aside_callbacks { state := .failing "dark" }
  have unheard : foot.bus.Private := ⟨nofun, List.Sublist.refl _⟩
  have unheard' : top.bus.Private := ⟨nofun, List.Sublist.refl _⟩
  have climbed := cascade_ends acyclic_stairs aside (s := foot) rfl unheard 3 (Nat.le_of_eq count)
  have tapped := cascade_ends acyclic_stairs aside (s := top) rfl unheard' 3 (Nat.le_of_eq count)
  rw [count] at climbed tapped
  exact ⟨count, rfl, rfl, rfl, unheard, unheard', climbed.1 none .null, tapped.2.2 tap⟩

end Course

end SceneCourse
