import SceneCourse.Course.Action
import SceneCourse.Proofs.ConditionReading

/-! Every value in which no container holds itself is read as an action or refused, whatever stands
in it: its tag, its fields and the actions inside it. A reading of an action never ends in a fault
that is let through. -/

namespace SceneCourse

namespace Checked

variable {α β : Type}

/-- A reading that never stops outright. -/
abbrev GoesOn (x : Checked α) : Prop := Halts x False

theorem GoesOn.seq {f : Checked (α → β)} {x : Checked α} (hf : GoesOn f) (hx : GoesOn x) :
    GoesOn (f <*> x) :=
  (Halts.seq hf hx).congr (or_self_iff)

theorem goesOn_faulty (cs : List Complaint) : GoesOn (faulty cs : Checked α) := ⟨nofun, by simp⟩

theorem GoesOn.not_breaks {x : Checked α} (h : GoesOn x) (record : String) :
    ¬Breaks (x.toExcept record) :=
  (h.breaks_toExcept record).mp

end Checked

open Checked

/-! ### Fields -/

section

variable {α : Type} {es : List (Key × Value)} {names : List String} {read : Value → Checked α}

theorem goesOn_requiredField (h : ∀ v, GoesOn (read v)) : GoesOn (requiredField es names read) := by
  rw [requiredField]
  split
  next name v _ => exact (h v).inside _
  next => exact (Halts.complain _).inside _

theorem goesOn_optionalField {absent : α} (h : ∀ v, GoesOn (read v)) :
    GoesOn (optionalField es names absent read) := by
  rw [optionalField]
  split
  next name v _ => exact (h v).inside _
  next => exact Halts.ok absent

theorem goesOn_readExtras (fields : List (List String)) : GoesOn (readExtras es fields) := by
  rw [readExtras]
  split
  next => exact Halts.ok _
  next => exact goesOn_faulty _

end

namespace Value

theorem goesOn_readBytes (bs : List UInt8) : GoesOn (readBytes bs) := by
  rw [readBytes]
  split
  next => exact Halts.ok _
  next => exact Halts.complain _

theorem goesOn_readText (v : Value) : GoesOn v.readText := by
  cases v with
  | str s => exact Halts.ok s
  | bytes bs => exact goesOn_readBytes bs
  | _ => exact Halts.complain _

theorem goesOn_ofText (s : String) : GoesOn (Amount.ofText s) := by
  unfold Amount.ofText
  split
  next => exact Halts.ok _
  next => exact Halts.ok _
  next => exact goesOn_faulty _
  next => exact goesOn_faulty _

theorem goesOn_readAmount (v : Value) : GoesOn v.readAmount := by
  cases v with
  | int n => exact Halts.ok _
  | float x => exact Halts.ok _
  | bool b => exact Halts.ok _
  | str s => exact goesOn_ofText s
  | bytes bs =>
    rw [readAmount]
    split
    next => exact goesOn_ofText _
    next => exact goesOn_faulty _
  | _ => exact goesOn_faulty _

end Value

/-! ### Actions -/

namespace Action

theorem not_breaks_readUnknown (tag : String) (es : List (Key × Value)) :
    ¬Breaks (readUnknown tag es) :=
  GoesOn.not_breaks ((goesOn_readExtras _).map (unknown tag)) "UnknownAction"

theorem not_breaks_told_readUnknown (v : Value) (es : List (Key × Value)) :
    ¬Breaks (do readUnknown (← v.told) es) := by
  cases told : v.told with
  | ok tag => exact not_breaks_readUnknown tag es
  | error e =>
    rintro ⟨_, ⟨⟩, outright⟩
    simp [Value.isRefusal_of_told told] at outright

theorem goesOn_readPresented (make : String → List (String × Value) → Action)
    (es : List (Key × Value)) : GoesOn (readPresented make es) :=
  GoesOn.seq ((goesOn_requiredField Value.goesOn_readText).map make) (goesOn_readExtras _)

theorem goesOn_refuseKeys (ks : List Key) : GoesOn (refuseKeys ks) := by
  suffices h : ∀ (i : Nat) (vs : List Value),
      GoesOn (Value.readItems
        (fun v => (.ofExcept (.error (.badValue (.action v))) : Checked Action)) i vs) from h 0 _
  intro i vs
  induction vs generalizing i with
  | nil => exact Halts.ok []
  | cons v vs ih =>
    have item : GoesOn (.ofExcept (.error (.badValue (.action v))) : Checked Action) :=
      Halts.complain _
    exact GoesOn.seq ((item.inside (.item i)).map _) (ih (i + 1))

/-- Each kind of action has its fields, none of which stops the reading; a tag that is no text is
shown or refused. -/
theorem not_breaks_ofEntries (es : List (Key × Value)) {children : Checked (List Action)}
    (h : GoesOn children) : ¬Breaks (ofEntries es children) := by
  have anything (v : Value) : GoesOn (Checked.ok v) := Halts.ok v
  have text {names : List String} : GoesOn (requiredField es names Value.readText) :=
    goesOn_requiredField Value.goesOn_readText
  unfold ofEntries
  split
  next =>
    exact GoesOn.not_breaks (GoesOn.seq (text.map gotoScene) (goesOn_optionalField anything)) _
  next => exact GoesOn.not_breaks (GoesOn.seq (text.map setVar) (goesOn_optionalField anything)) _
  next =>
    exact GoesOn.not_breaks (GoesOn.seq (text.map incVar)
      (goesOn_optionalField Value.goesOn_readAmount)) _
  next => exact GoesOn.not_breaks ((goesOn_requiredField Value.goesOn_readAmount).map addScore) _
  next => exact GoesOn.not_breaks (goesOn_readPresented toast es) _
  next => exact GoesOn.not_breaks (goesOn_readPresented modal es) _
  next => exact GoesOn.not_breaks (text.map resetNode) _
  next => exact GoesOn.not_breaks ((goesOn_optionalField Value.goesOn_readAmount).map delay) _
  next => exact GoesOn.not_breaks (h.map sequence) _
  next => exact GoesOn.not_breaks (h.map parallel) _
  next => exact not_breaks_told_readUnknown _ es

mutual

theorem not_breaks_ofPart (around : List Value) (v : Value) (acyclic : v.isCyclic = false) :
    ¬Breaks (ofPart around v) := by
  cases v with
  | map m es =>
    rw [ofPart]
    exact not_breaks_ofEntries _ (goesOn_readChildren _ es acyclic)
  | again m mapping => simp [Value.isCyclic] at acyclic
  | _ => simp [Breaks, ofPart, Fault.isRefusal]
termination_by structural v

theorem goesOn_readChildren (around : List Value) (es : List (Key × Value))
    (acyclic : Value.anyCyclicEntry es = false) : GoesOn (readChildren around es) := by
  cases es with
  | nil =>
    rw [readChildren]
    exact Halts.ok []
  | cons e es =>
    obtain ⟨k, v⟩ := e
    simp only [Value.anyCyclicEntry, Bool.or_eq_false_iff] at acyclic
    rw [readChildren]
    split
    next => exact (goesOn_readNested around v acyclic.1).inside _
    next => exact goesOn_readChildren around es acyclic.2
termination_by structural es

theorem goesOn_readNested (around : List Value) (v : Value) (acyclic : v.isCyclic = false) :
    GoesOn (readNested around v) := by
  cases v with
  | list m vs =>
    rw [readNested]
    exact goesOn_readEach _ 0 vs acyclic
  | set ks =>
    rw [readNested]
    exact goesOn_refuseKeys ks
  | again m mapping => simp [Value.isCyclic] at acyclic
  | _ =>
    simp only [readNested]
    exact Halts.complain _
termination_by structural v

theorem goesOn_readEach (around : List Value) (i : Nat) (vs : List Value)
    (acyclic : Value.anyCyclic vs = false) : GoesOn (readEach around i vs) := by
  cases vs with
  | nil =>
    rw [readEach]
    exact Halts.ok []
  | cons v vs =>
    simp only [Value.anyCyclic, Bool.or_eq_false_iff] at acyclic
    have item : GoesOn (.ofExcept (ofPart around v)) :=
      (halts_ofExcept (ofPart around v)).congr
        (iff_false_intro (not_breaks_ofPart around v acyclic.1))
    rw [readEach]
    exact GoesOn.seq ((item.inside (.item i)).map _) (goesOn_readEach around (i + 1) vs acyclic.2)
termination_by structural vs

end

/-- A value is read as an action or refused. -/
theorem not_breaks_ofValue {v : Value} (acyclic : v.isCyclic = false) : ¬Breaks (ofValue v) :=
  not_breaks_ofPart [] v acyclic

end Action

end SceneCourse
