import SceneCourse.Proofs.Phases
import SceneCourse.Proofs.TriggerPass

/-! What a history of moves says. Triggers fire in passes: a pass begins with an event and the scene
that is active then, fires some triggers, and ends. The passes that its actions cause lie inside it,
so the moves are a text with brackets. A history is faithful when every pass fires the triggers of
the scene that it began in, in their order, and when a scene that has become active is still active
when the pass for its own event begins. -/

namespace SceneCourse

/-- A pass over triggers, with those that it has fired so far. -/
structure Pass where
  event : Event
  scene : Option String
  fired : List (Nat × Trigger) := []

def Pass.triggers (declared : String → Option (List Trigger)) (p : Pass) : List Trigger :=
  (p.scene.bind declared).getD []

def Pass.due (declared : String → Option (List Trigger)) (p : Pass) : List (Nat × Trigger) :=
  Session.matching p.event (p.triggers declared)

namespace Move

def openPasses : List Move → List Pass
  | [] => []
  | .arrives _ :: ms => openPasses ms
  | .begins e scene :: ms => ⟨e, scene, []⟩ :: openPasses ms
  | .fires _ i t :: ms =>
    match openPasses ms with
    | [] => []
    | p :: ps => { p with fired := p.fired ++ [(i, t)] } :: ps
  | .ends :: ms => (openPasses ms).tail

/-- The scene whose own event is about to be told. -/
def arrival? : List Move → Option String
  | .arrives id :: _ => some id
  | _ => none

variable (declared : String → Option (List Trigger))

/-- Moves that happen as they should, the latest first. Nothing happens between an arrival and the
pass for the event of the scene, and that pass begins in that very scene. -/
inductive Faithful : List Move → Prop where
  | nil : Faithful []
  | arrives {ms : List Move} (id : String) (h : Faithful ms) (heard : arrival? ms = none) :
    Faithful (.arrives id :: ms)
  | begins {ms : List Move} {e : Event} {scene : Option String} (h : Faithful ms)
    (own : ∀ id, arrival? ms = some id → e = .sceneEnter id ∧ scene = some id) :
    Faithful (.begins e scene :: ms)
  | fires {ms : List Move} {p : Pass} {ps : List Pass} {i : Nat} {t : Trigger} (h : Faithful ms)
    (heard : arrival? ms = none) (inside : openPasses ms = p :: ps)
    (next : p.fired ++ [(i, t)] <+: p.due declared) : Faithful (.fires p.event i t :: ms)
  | ends {ms : List Move} (h : Faithful ms) (heard : arrival? ms = none)
    (inside : openPasses ms ≠ []) :
    Faithful (.ends :: ms)

variable {declared}

namespace Faithful

theorem tail {m : Move} {ms : List Move} (h : Faithful declared (m :: ms)) :
    Faithful declared ms := by
  cases h <;> assumption

theorem of_append {later earlier : List Move} (h : Faithful declared (later ++ earlier)) :
    Faithful declared earlier := by
  induction later with
  | nil => exact h
  | cons m later ih => exact ih h.tail

end Faithful

/-- It is the turn of a trigger: the innermost pass is one for the event, it began in a scene that
declares the trigger at its place, and it has fired exactly those triggers of the scene that the
event matches and that come before. -/
def InTurn (declared : String → Option (List Trigger)) (earlier : List Move) (e : Event) (i : Nat)
    (t : Trigger) : Prop :=
  ∃ p ps id ts, openPasses earlier = p :: ps ∧ p.event = e ∧ p.scene = some id ∧
    declared id = some ts ∧
    ts[i]? = some t ∧ p.fired ++ [(i, t)] <+: Session.matching e ts ∧ ∀ f ∈ p.fired, f.1 < i

namespace Faithful

theorem inTurn {later earlier : List Move} {e : Event} {i : Nat} {t : Trigger}
    (h : Faithful declared (later ++ .fires e i t :: earlier)) : InTurn declared earlier e i t := by
  cases h.of_append with | @fires _ p ps _ _ _ _ inside next =>
  have there : (i, t) ∈ p.due declared := next.subset (by simp)
  have placed : (p.triggers declared)[i]? = some t := (Session.mem_matching.mp there).1
  obtain ⟨ts, found⟩ : ∃ ts, p.scene.bind declared = some ts := by
    cases found : p.scene.bind declared with
    | some ts => exact ⟨ts, rfl⟩
    | none => simp [Pass.triggers, found] at placed
  obtain ⟨id, here, declares⟩ := Option.bind_eq_some_iff.mp found
  have active : p.triggers declared = ts := by rw [Pass.triggers, found, Option.getD_some]
  rw [Pass.due, active] at next
  rw [active] at placed
  refine ⟨p, ps, id, ts, inside, rfl, here, declares, placed, next, fun f before => ?_⟩
  have ordered := (Session.pairwise_matching p.event ts).sublist next.sublist
  exact (List.pairwise_append.mp ordered).2.2 f before (i, t) (by simp)

/-- What comes after an arrival is the pass for the scene's own event, in that scene. -/
theorem heard {later earlier : List Move} {id : String}
    (h : Faithful declared (later ++ .arrives id :: earlier)) :
    later = [] ∨ ∃ rest, later = rest ++ [.begins (.sceneEnter id) (some id)] := by
  rcases List.eq_nil_or_concat later with none | ⟨rest, m, rfl⟩
  · exact Or.inl none
  · refine Or.inr ⟨rest, ?_⟩
    rw [List.concat_eq_append, List.append_assoc, List.singleton_append] at h
    rw [List.concat_eq_append]
    cases h.of_append with
    | arrives _ _ heard => cases heard
    | begins _ own =>
      obtain ⟨rfl, rfl⟩ := own id rfl
      rfl
    | fires _ heard => cases heard
    | ends _ heard => cases heard

end Faithful

end Move

end SceneCourse
