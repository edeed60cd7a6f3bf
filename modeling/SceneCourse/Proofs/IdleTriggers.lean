import SceneCourse.Proofs.Transparency

/-! Triggers that do nothing. A trigger is idle if all that its branches hold, at any depth, is
delays and composites. What makes an action significant is a recursion over composites that stops at
the first leaf that does something; running actions is a visit of everything inside them. Both are
compared with the list of all actions in document order. Proved: a dry run calls exactly the idle
triggers dead, and running a branch of one, in whatever session and with whatever callbacks, comes
to its end and changes nothing but the log, which gets one announcement for every action. -/

namespace SceneCourse

namespace Action

def isIdle : Action → Bool
  | delay _ | sequence _ | parallel _ => true
  | _ => false

mutual

theorem isSignificant_eq_false_iff (a : Action) :
    a.isSignificant = false ↔ ∀ b ∈ preorder a, b.isIdle = true := by
  cases a with
  | sequence as =>
    rw [isSignificant, preorder, List.forall_mem_cons, anySignificant_eq_false_iff as]
    exact (and_iff_right rfl).symm
  | parallel as =>
    rw [isSignificant, preorder, List.forall_mem_cons, anySignificant_eq_false_iff as]
    exact (and_iff_right rfl).symm
  | _ => simp [isSignificant, preorder, isIdle]

/-- Some action is significant unless everything inside the actions is idle. -/
theorem anySignificant_eq_false_iff (as : List Action) :
    anySignificant as = false ↔ ∀ b ∈ preorderAll as, b.isIdle = true := by
  cases as with
  | nil => simp [anySignificant, preorderAll]
  | cons a as =>
    rw [anySignificant, Bool.or_eq_false_iff, isSignificant_eq_false_iff a,
      anySignificant_eq_false_iff as, preorderAll,
      List.forall_mem_append]

end

end Action

/-- Neither branch of a trigger holds, at any depth, anything but delays and composites. -/
def Trigger.Idle (t : Trigger) : Prop := ∀ a ∈ Action.preorderAll t.actions, a.isIdle = true

instance : DecidablePred Trigger.Idle := fun t =>
  inferInstanceAs (Decidable (∀ a ∈ Action.preorderAll t.actions, a.isIdle = true))

namespace Trigger

variable {t : Trigger}

theorem idle_iff_branches : t.Idle ↔ (∀ a ∈ Action.preorderAll t.consequent, a.isIdle = true) ∧
    ∀ a ∈ Action.preorderAll (t.alternative.getD []), a.isIdle = true := by
  rw [Idle, actions, Action.preorderAll_append, List.forall_mem_append]

theorem idle_iff_insignificant : t.Idle ↔
    Action.anySignificant t.consequent = false ∧ Action.anySignificant
      (t.alternative.getD []) = false := by
  rw [idle_iff_branches, Action.anySignificant_eq_false_iff, Action.anySignificant_eq_false_iff]

end Trigger

/-! ### Running what is idle -/

/-- The log after the announcements of the actions and of everything inside them. -/
def RunLog.announced (log : RunLog) (as : List Action) : RunLog :=
  (Action.preorderAll as).foldl (fun log a => log.add (Session.announcement a.tag)) log

namespace Session

open SceneCourse.Action (isIdle preorderAll)

variable {η : Type} {as : List Action}

theorem announce_eq (tag : String) (s : Session η) :
    announce tag s = (.done (), { s with log := s.log.add (announcement tag) }) := by
  rw [announce, write_null]
  rfl

/-- At what is idle a run does nothing but announce it. -/
theorem visit_of_idle {a : Action} (idle : a.isIdle = true) (cb : Callbacks η) :
    visit cb a = announce a.tag := by
  cases a with
  | delay _ => rfl
  | sequence _ => rfl
  | parallel _ => rfl
  | _ => simp [isIdle] at idle

theorem each_visit_of_idle (idle : ∀ a ∈ as, a.isIdle = true) (cb : Callbacks η) (s : Session η) :
    Step.each (visit cb) as s =
      (.done (), { s with log := as.foldl (fun log a => log.add (announcement a.tag)) s.log }) := by
  induction as generalizing s with
  | nil => rfl
  | cons a as ih =>
    obtain ⟨first, others⟩ := List.forall_mem_cons.1 idle
    rw [Step.each, Step.bind, visit_of_idle first, announce_eq]
    exact ih others _

/-- Running actions with nothing but delays and composites inside them announces these in document
order. -/
theorem executeAll_of_idle (idle : ∀ a ∈ preorderAll as, a.isIdle = true) (cb : Callbacks η)
    (s : Session η) : executeAll cb as s = (.done (), { s with log := s.log.announced as }) := by
  rw [executeAll_eq_visits]
  exact each_visit_of_idle idle cb s

end Session

/-! ### Called dead -/

namespace Course

open Session

/-- A dry run lists the idle triggers, by their scenes and places there and in document order, and
no others. Each branch of an idle trigger runs to its end in every session, whatever the callbacks
would do if they were called, and leaves all but the log as it was. -/
theorem deadTriggers_idle (c : Course) (limit : Int) :
    (c.dryRun limit).deadCode.deadTriggers =
        (c.scenes.flatMap fun s => (s.triggers.zipIdx.filter fun (t, _) => t.Idle).map
          fun (_, i) => ⟨s.id, i⟩) ∧
      ∀ s ∈ c.scenes, ∀ t ∈ s.triggers, t.Idle → ∀ (η : Type) (cb : Callbacks η) (u : Session η),
        executeAll cb t.consequent u = (.done (), { u with log := u.log.announced t.consequent }) ∧
          ∀ as, t.alternative = some as → executeAll cb as u =
            (.done (), { u with log := u.log.announced as }) := by
  constructor
  · rw [dryRun, deadCode, placedTriggers, List.filterMap_flatMap]
    refine congrArg (List.flatMap · _) (funext fun s => ?_)
    rw [List.filterMap_map, ← List.filterMap_eq_map, List.filterMap_filter]
    refine congrArg (List.filterMap · _) (funext fun (t, i) => ?_)
    by_cases idle : t.Idle
    · obtain ⟨consequent, alternative⟩ := Trigger.idle_iff_insignificant.1 idle
      simp [idle, consequent, alternative]
    · have significant := mt Trigger.idle_iff_insignificant.2 idle
      simpa [idle] using significant
  · intro s _ t _ idle η cb u
    obtain ⟨consequent, alternative⟩ := Trigger.idle_iff_branches.1 idle
    refine ⟨executeAll_of_idle consequent cb u, ?_⟩
    rintro as branch
    rw [branch, Option.getD_some] at alternative
    exact executeAll_of_idle alternative cb u

def pause : Trigger where
  on := ⟨"tap", none, []⟩
  conditions := none
  consequent := [.delay (.int 500), .sequence [.parallel [], .delay (.int 1)]]
  alternative := some [.parallel []]
  extras := []

def waitingHall : Course where
  schema := "vvce.dsl.v1"
  about := ⟨"waiting", "1.0.0", []⟩
  globals := ⟨[], []⟩
  start := "hall"
  scenes := [⟨"hall", [], [],
    [{ pause with consequent := [.sequence [.delay (.int 500), .gotoScene "hall" .null]] }, pause],
      []⟩]
  extras := []

theorem deadTriggers_idle_pause :
    (waitingHall.dryRun 10).deadCode.deadTriggers = [⟨"hall", 1⟩] ∧ pause.Idle ∧
      ∀ u : Session Unit, executeAll
        ⟨some fun _ => Step.fail .tooDeep, some fun _ => Step.fail .tooDeep⟩ pause.consequent u =
        (.done (), { u with log := u.log.announced pause.consequent }) := by
  have idle : pause.Idle := by decide
  obtain ⟨listed, harmless⟩ := deadTriggers_idle waitingHall 10
  refine ⟨listed.trans (by decide), idle, fun u => ?_⟩
  exact (harmless _ List.mem_cons_self pause (List.mem_cons_of_mem _ List.mem_cons_self)
    idle Unit _ u).1

end Course

end SceneCourse
