import Mathlib.Logic.Function.Basic
import SceneCourse.Session.Script

/-! One pass over the active triggers. The triggers that match an event fire in the order of the
document, and the pass counts them. It is meant that none of them can stop a later one, which is
what `handleEach` says; but a trigger that fails ends the pass. Proved: the pass is the intended one
exactly when no trigger fails at its turn, and the failure of a trigger is the failure of the pass,
with everything before it done and nothing behind it begun. -/

namespace SceneCourse

namespace Step

variable {σ α : Type} {f : α → Step σ Unit} {a : α} {as : List α} {s t : σ} {fault : Fault}

theorem each_cons_of_done (h : f a s = (.done (), t)) :
    Step.each f (a :: as) s = Step.each f as t := by
  rw [Step.each, Step.bind, h]

theorem each_cons_of_failed (h : f a s = (.failed fault, t)) :
    Step.each f (a :: as) s = (.failed fault, t) := by
  rw [Step.each, Step.bind, h]

theorem each_cons_of_unfinished (h : f a s = (.unfinished, t)) :
    Step.each f (a :: as) s = (.unfinished, t) := by
  rw [Step.each, Step.bind, h]

end Step

namespace Session

variable {η : Type}

/-! ### The order of a pass -/

theorem mem_matching {e : Event} {ts : List Trigger} {i : Nat} {t : Trigger} :
    (i, t) ∈ matching e ts ↔ ts[i]? = some t ∧ t.on.matches e.kind e.target = true := by
  rw [matching, List.mem_filter, and_congr_left_iff]
  intro _
  rw [List.mem_map]
  constructor
  · rintro ⟨⟨u, j⟩, placed, ⟨⟩⟩
    exact List.mem_zipIdx_iff_getElem?.1 placed
  · intro placed
    exact ⟨(t, i), List.mem_zipIdx_iff_getElem?.2 placed, rfl⟩

theorem pairwise_matching (e : Event) (ts : List Trigger) :
    (matching e ts).Pairwise fun p q => p.1 < q.1 := by
  have places : (ts.zipIdx.map Prod.snd).Pairwise (· < ·) := by
    rw [List.zipIdx_map_snd]
    exact List.pairwise_lt_range'
  exact List.Pairwise.filter _ (List.pairwise_map.2 (List.pairwise_map.1 places))

/-! ### Turns -/

/-- Triggers that have their turns one after the other, each once, and are all done. -/
inductive Turns (cb : Callbacks η) (e : Event) :
    List (Nat × Trigger) → Session η → Session η → Prop where
  | nil (s : Session η) : Turns cb e [] s s
  | turn {i : Nat} {t : Trigger} {rest : List (Nat × Trigger)} {s s' s'' : Session η}
    (fired : fire cb e i t s = (.done (), s')) (others : Turns cb e rest s' s'') :
      Turns cb e ((i, t) :: rest) s s''

def NoneFails (cb : Callbacks η) (e : Event) (found : List (Nat × Trigger)) (s : Session η) :
    Prop :=
  ∀ before i t after s', found = before ++ (i, t) :: after → Turns cb e before s s' →
    ∀ fault, (fire cb e i t s').1 ≠ .failed fault

/-- The turns of a pass, up to the first trigger that fails. -/
abbrev fireAll (cb : Callbacks η) (e : Event) (found : List (Nat × Trigger)) :
    Step (Session η) Unit :=
  Step.each (fun (i, t) => fire cb e i t) found

/-- The turns of a pass, whatever becomes of each. -/
abbrev fireEach (cb : Callbacks η) (e : Event) (found : List (Nat × Trigger)) :
    Step (Session η) Unit :=
  Step.each (fun (i, t) => do let _ ← (fire cb e i t).attempt) found

/-- The pass that is meant: every trigger that matches an event fires, whatever became of those
before it, and all of them count. -/
def handleEach (cb : Callbacks η) (e : Event) (ts : List Trigger) : Step (Session η) Nat := do
  fireEach cb e (matching e ts)
  return (matching e ts).length

section

variable {cb : Callbacks η} {e : Event} {i : Nat} {t : Trigger} {found : List (Nat × Trigger)}
  {s s' : Session η} {fault : Fault}

theorem fireAll_cons_of_done (h : fire cb e i t s = (.done (), s')) :
    fireAll cb e ((i, t) :: found) s = fireAll cb e found s' := Step.each_cons_of_done h

theorem fireAll_cons_of_failed (h : fire cb e i t s = (.failed fault, s')) :
    fireAll cb e ((i, t) :: found) s = (.failed fault, s') := Step.each_cons_of_failed h

theorem fireAll_cons_of_unfinished (h : fire cb e i t s = (.unfinished, s')) :
    fireAll cb e ((i, t) :: found) s = (.unfinished, s') := Step.each_cons_of_unfinished h

theorem fireAll_done_iff : fireAll cb e found s = (.done (), s') ↔ Turns cb e found s s' := by
  induction found generalizing s with
  | nil =>
    constructor
    · rintro ⟨⟩
      exact .nil _
    · rintro ⟨⟩
      rfl
  | cons p found ih =>
    obtain ⟨i, t⟩ := p
    constructor
    · intro h
      rcases fired : fire cb e i t s with ⟨_ | fault | _, middle⟩
      · rw [fireAll_cons_of_done fired] at h
        exact .turn fired (ih.1 h)
      · rw [fireAll_cons_of_failed fired] at h
        cases h
      · rw [fireAll_cons_of_unfinished fired] at h
        cases h
    · intro turns
      cases turns with
      | turn fired others =>
        rw [fireAll_cons_of_done fired]
        exact ih.2 others

theorem fireAll_failed_iff : fireAll cb e found s = (.failed fault, s') ↔
    ∃ before i t after middle, found = before ++ (i, t) :: after ∧ Turns cb e before s middle ∧
      fire cb e i t middle = (.failed fault, s') := by
  constructor
  · intro h
    induction found generalizing s with
    | nil => cases h
    | cons p found ih =>
      obtain ⟨i, t⟩ := p
      rcases fired : fire cb e i t s with ⟨_ | other | _, middle⟩
      · rw [fireAll_cons_of_done fired] at h
        obtain ⟨before, j, u, after, last, rfl, turns, failed⟩ := ih h
        exact ⟨(i, t) :: before, j, u, after, last, rfl, .turn fired turns, failed⟩
      · rw [fireAll_cons_of_failed fired] at h
        exact ⟨[], i, t, found, s, rfl, .nil s, fired.trans h⟩
      · rw [fireAll_cons_of_unfinished fired] at h
        cases h
  · rintro ⟨before, i, t, after, middle, rfl, turns, failed⟩
    induction turns with
    | nil s => exact fireAll_cons_of_failed failed
    | turn fired others ih =>
      rw [List.cons_append, fireAll_cons_of_done fired]
      exact ih failed

theorem fireEach_cons_of_done (h : fire cb e i t s = (.done (), s')) :
    fireEach cb e ((i, t) :: found) s = fireEach cb e found s' := by
  refine Step.each_cons_of_done ?_
  show Step.bind (fire cb e i t).attempt _ s = _
  rw [Step.bind, Step.attempt, h]
  rfl

theorem fireEach_cons_of_failed (h : fire cb e i t s = (.failed fault, s')) :
    fireEach cb e ((i, t) :: found) s = fireEach cb e found s' := by
  refine Step.each_cons_of_done ?_
  show Step.bind (fire cb e i t).attempt _ s = _
  rw [Step.bind, Step.attempt, h]
  rfl

theorem fireEach_cons_of_unfinished (h : fire cb e i t s = (.unfinished, s')) :
    fireEach cb e ((i, t) :: found) s = (.unfinished, s') := by
  refine Step.each_cons_of_unfinished ?_
  show Step.bind (fire cb e i t).attempt _ s = _
  rw [Step.bind, Step.attempt, h]

theorem fireEach_ne_failed : fireEach cb e found s ≠ (.failed fault, s') := by
  induction found generalizing s with
  | nil => rintro ⟨⟩
  | cons p found ih =>
    obtain ⟨i, t⟩ := p
    rcases fired : fire cb e i t s with ⟨_ | other | _, middle⟩
    · rw [fireEach_cons_of_done fired]
      exact ih
    · rw [fireEach_cons_of_failed fired]
      exact ih
    · rw [fireEach_cons_of_unfinished fired]
      rintro ⟨⟩

theorem fireAll_eq_fireEach_iff :
    fireAll cb e found s = fireEach cb e found s ↔ NoneFails cb e found s := by
  constructor
  · intro same before i t after middle cut turns fault failed
    have stopped : fireAll cb e found s = (.failed fault, (fire cb e i t middle).2) :=
      fireAll_failed_iff.2 ⟨before, i, t, after, middle, cut, turns, Prod.ext failed rfl⟩
    exact fireEach_ne_failed (same.symm.trans stopped)
  · intro sound
    induction found generalizing s with
    | nil => rfl
    | cons p found ih =>
      obtain ⟨i, t⟩ := p
      rcases fired : fire cb e i t s with ⟨_ | fault | _, middle⟩
      · rw [fireAll_cons_of_done fired, fireEach_cons_of_done fired]
        refine ih ?_
        rintro before j u after last rfl turns
        exact sound ((i, t) :: before) j u after last rfl (.turn fired turns)
      · have first := sound [] i t found s rfl (.nil s) fault
        rw [fired] at first
        exact absurd rfl first
      · rw [fireAll_cons_of_unfinished fired, fireEach_cons_of_unfinished fired]

end

/-! ### Outcomes -/

section

variable {cb : Callbacks η} {e : Event} {ts : List Trigger} {s s' : Session η}

/-- The ending of a pass whose turns end in some way. -/
def counted (n : Nat) : Ending Unit → Ending Nat
  | .done _ => .done n
  | .failed fault => .failed fault
  | .unfinished => .unfinished

theorem counted_injective (n : Nat) : Function.Injective (counted n) := by
  intro x y same
  cases x <;> cases y <;> cases same <;> rfl

theorem bind_pure_eq_counted (x : Step (Session η) Unit) (n : Nat) (s : Session η) :
    Step.bind x (fun _ => Step.pure n) s = (counted n (x s).1, (x s).2) := by
  rw [Step.bind]
  rcases x s with ⟨_ | fault | _, last⟩ <;> rfl

theorem handle_eq (cb : Callbacks η) (e : Event) (ts : List Trigger) (s : Session η) :
    handle cb e ts s = (counted (matching e ts).length (fireAll cb e (matching e ts) s).1,
      (fireAll cb e (matching e ts) s).2) := bind_pure_eq_counted _ _ s

theorem handleEach_eq (cb : Callbacks η) (e : Event) (ts : List Trigger) (s : Session η) :
    handleEach cb e ts s = (counted (matching e ts).length (fireEach cb e (matching e ts) s).1,
      (fireEach cb e (matching e ts) s).2) := bind_pure_eq_counted _ _ s

theorem handle_done_iff {n : Nat} : handle cb e ts s = (.done n, s') ↔
    n = (matching e ts).length ∧ Turns cb e (matching e ts) s s' := by
  rw [handle_eq, ← fireAll_done_iff]
  rcases fireAll cb e (matching e ts) s with ⟨_ | fault | _, last⟩ <;> simp [counted, eq_comm]

theorem handle_failed_iff {fault : Fault} : handle cb e ts s = (.failed fault, s') ↔
    ∃ before i t after middle, matching e ts = before ++ (i, t) :: after ∧
    Turns cb e before s middle ∧
      fire cb e i t middle = (.failed fault, s') := by
  rw [handle_eq, ← fireAll_failed_iff]
  rcases fireAll cb e (matching e ts) s with ⟨_ | fault | _, last⟩ <;> simp [counted]

/-- A pass gives every matching trigger its turn, in order and once, exactly when none of them
fails; otherwise the first that fails ends the pass with its fault, and those behind it have no
turn. -/
theorem handle_independent_iff (cb : Callbacks η) (e : Event) (ts : List Trigger) (s : Session η) :
    (handle cb e ts s = handleEach cb e ts s ↔ NoneFails cb e (matching e ts) s) ∧
      (∀ n s', handle cb e ts s = (.done n, s') ↔
        n = (matching e ts).length ∧ Turns cb e (matching e ts) s s') ∧
      (∀ fault s', handle cb e ts s = (.failed fault, s') ↔
        ∃ before i t after middle, matching e ts = before ++ (i, t) :: after ∧
        Turns cb e before s middle ∧
          fire cb e i t middle = (.failed fault, s')) ∧
      (matching e ts).Pairwise (fun p q => p.1 < q.1) ∧
      (∀ i t, (i, t) ∈ matching e ts ↔ ts[i]? = some t ∧ t.on.matches e.kind e.target = true) := by
  refine ⟨?_, fun _ _ => handle_done_iff, fun _ _ => handle_failed_iff, pairwise_matching e ts,
    fun _ _ => mem_matching⟩
  rw [← fireAll_eq_fireEach_iff, handle_eq, handleEach_eq, Prod.mk.injEq,
    (counted_injective _).eq_iff]
  exact Prod.ext_iff.symm

end

/-! ### A scene change that fails -/

def tap : Event := { kind := "tap" }

/-- The first trigger leaves the scene, the second writes down the tap. -/
def tapTriggers : List Trigger :=
  [⟨⟨"tap", none, []⟩, none, [.gotoScene "next" .null], none, []⟩,
    ⟨⟨"tap", none, []⟩, none, [.setVar "globals.vars.tapped" (.bool true)], none, []⟩]

def barred : Callbacks ScriptHost := ⟨ScriptHost.onScene (.failing "host failure"), none⟩

/-- The second trigger has no turn, although it matches. -/
theorem handle_barred : (matching tap tapTriggers).length = 2 ∧
    ((handle barred tap tapTriggers (fresh {} {} {})).1 matches .failed (.host "host failure")) ∧
    ((handle barred tap tapTriggers (fresh {} {} {})).2.store.get "globals.vars.tapped"
      matches .ok .null) ∧
    ((handleEach barred tap tapTriggers (fresh {} {} {})).1 matches .done 2) ∧
    ((handleEach barred tap tapTriggers (fresh {} {} {})).2.store.get "globals.vars.tapped" matches
      .ok (.bool true)) ∧
    handle barred tap tapTriggers (fresh {} {} {}) ≠ handleEach barred tap tapTriggers
      (fresh {} {} {}) := by
  have stopped : (handle barred tap tapTriggers (fresh {} {} {})).1 matches .failed
      (.host "host failure") := by
    decide +kernel
  have passed : (handleEach barred tap tapTriggers (fresh {} {} {})).1 matches .done 2 := by
    decide +kernel
  refine ⟨by decide +kernel, stopped, by decide +kernel, passed, by decide +kernel, ?_⟩
  intro same
  rw [same] at stopped
  cases ended : (handleEach barred tap tapTriggers (fresh {} {} {})).1 with
  | done n => simp [ended] at stopped
  | failed fault => simp [ended] at passed
  | unfinished => simp [ended] at passed

end Session

end SceneCourse
