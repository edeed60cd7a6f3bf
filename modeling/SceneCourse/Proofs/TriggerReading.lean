import SceneCourse.Proofs.NestedReading
import SceneCourse.Proofs.Resolution

/-! Events that are handled against triggers of which some, or all, still have to be read.
Everything is read before the first trigger fires. Proved: if the event or any trigger cannot be
read, the answer is the first fault that is met, and the session is wholly as it was, whatever the
callbacks would have done; otherwise the session takes the same course as for the event and the
triggers that have been read. A trigger cannot be read just if one of its own fields is wrong, or a
condition or an action at any place and depth in it. -/

namespace SceneCourse

open Checked

variable {α : Type}

/-! ### Faults of a trigger -/

/-- What should be a list of records is none, or some record in it has a fault. -/
def Value.FaultyList (faulty : Value → Prop) (v : Value) : Prop :=
  ∀ vs, v.items? = some vs → ∃ w ∈ vs, faulty w

/-- A trigger with a fault: of its own fields, or at any depth in one of its conditions or
actions. -/
inductive Trigger.Faulty : Value → Prop where
  | notMapping {v : Value} (other : ∀ m es, v ≠ .map m es) : Faulty v
  | key {m : Nat} {es : List (Key × Value)} {e : Key × Value} (mem : e ∈ es)
    (noText : ∀ s, e.1 ≠ .str s) : Faulty (.map m es)
  | noMatcher {m : Nat} {es : List (Key × Value)} (missing : Entries.get? (.str "on") es = none) :
    Faulty (.map m es)
  | matcher {m : Nat} {es : List (Key × Value)} {v : Value}
    (found : Entries.get? (.str "on") es = some v) (bad : ∀ on, Matcher.read v ≠ .ok on) :
    Faulty (.map m es)
  | conditions {m : Nat} {es : List (Key × Value)} {name : String} {v : Value}
    (found : findField es ["if", "conditions"] = some (name, v)) (given : v ≠ .null)
    (bad : v.FaultyList Condition.Faulty) : Faulty (.map m es)
  | consequent {m : Nat} {es : List (Key × Value)} {name : String} {v : Value}
    (found : findField es ["then"] = some (name, v)) (bad : v.FaultyList Action.Faulty) :
    Faulty (.map m es)
  | alternative {m : Nat} {es : List (Key × Value)} {name : String} {v : Value}
    (found : findField es ["else", "otherwise"] = some (name, v)) (given : v ≠ .null)
      (bad : v.FaultyList Action.Faulty) :
    Faulty (.map m es)

theorem exists_readExtras_iff {es : List (Key × Value)} {fields : List (List String)} :
    (∃ extras, readExtras es fields = .ok extras) ↔ ∀ e ∈ es, ∃ s, e.1 = .str s := by
  have texts : Value.keyComplaints Key.notName? (extraEntries es fields) = [] ↔
      ∀ e ∈ es, ∃ s, e.1 = .str s := by
    simp only [Value.keyComplaints_eq_nil_iff, extraEntries, List.mem_filter]
    constructor
    · intro kept e mem
      cases key : e.1 with
      | str s => exact ⟨s, rfl⟩
      | _ => simpa [Key.notName?, key] using kept e ⟨mem, by rw [key]⟩
    · rintro each e ⟨mem, -⟩
      obtain ⟨s, key⟩ := each e mem
      rw [key, Key.notName?]
  rw [← texts, readExtras]
  split
  next none => exact iff_of_true ⟨_, rfl⟩ none
  next some => exact iff_of_false (by simp) some

theorem findField_singleton {es : List (Key × Value)} {name name' : String} {v : Value} :
    findField es [name] = some (name', v) ↔ name = name' ∧ Entries.get?
      (.str name) es = some v := by
  unfold findField
  cases Entries.get? (.str name) es <;> simp [findField]

section

variable {ofValue : Value → Except Fault α} {faulty : Value → Prop} {es : List (Key × Value)}
  {names : List String}

theorem Value.not_faultyList_iff
    (each : ∀ {v : Value}, v.isCyclic = false → (faulty v ↔ ∀ a, ofValue v ≠ .ok a)) {v : Value}
    (acyclic : v.isCyclic = false) :
    ¬v.FaultyList faulty ↔ ∃ vs, v.items? = some vs ∧ ∀ w ∈ vs, ∃ a, Checked.ofExcept
      (ofValue w) = .ok a := by
  unfold FaultyList
  simp only [not_forall, not_exists, not_and, exists_prop, exists_ofExcept_iff]
  refine exists_congr fun vs => and_congr_right fun listed => forall_congr' fun w =>
    forall_congr' fun mem => ?_
  rw [each (item_inner acyclic listed mem).1, ← not_exists, not_not]

/-- A field with a list of records is read just if the list has no fault. -/
theorem exists_records_iff
    (each : ∀ {v : Value}, v.isCyclic = false → (faulty v ↔ ∀ a, ofValue v ≠ .ok a))
    (acyclic : Value.anyCyclicEntry es = false) :
    (∃ as, optionalField es names [] (Value.readList fun v => .ofExcept (ofValue v)) = .ok as) ↔
      ∀ name v, findField es names = some (name, v) → ¬v.FaultyList faulty := by
  rw [exists_optionalField_iff]
  refine forall₂_congr fun name v => forall_congr' fun found => ?_
  rw [exists_readList_iff, Value.not_faultyList_iff each (Value.findField_inner acyclic found)]

/-- The like for a list that may be left out. -/
theorem exists_optionalRecords_iff
    (each : ∀ {v : Value}, v.isCyclic = false → (faulty v ↔ ∀ a, ofValue v ≠ .ok a))
    (acyclic : Value.anyCyclicEntry es = false) :
    (∃ as, optionalField es names none (Value.readOptionalList fun v => .ofExcept (ofValue v)) =
      .ok as) ↔
      ∀ name v, findField es names = some (name, v) → v = .null ∨ ¬v.FaultyList faulty := by
  rw [exists_optionalField_iff]
  refine forall₂_congr fun name v => forall_congr' fun found => ?_
  rw [exists_readOptionalList_iff, Value.not_faultyList_iff each
    (Value.findField_inner acyclic found)]

end

namespace Trigger

/-- A mapping writes a trigger just if each of its fields can be read. -/
theorem exists_ofValue_iff {m : Nat} {es : List (Key × Value)}
    (acyclic : Value.anyCyclicEntry es = false) :
    (∃ t, ofValue (.map m es) = .ok t) ↔
      (∃ v, Entries.get? (.str "on") es = some v ∧ ∃ on, Matcher.read v = .ok on) ∧
      (∀ name v, findField es ["if", "conditions"] = some (name, v) → v = .null ∨
        ¬v.FaultyList Condition.Faulty) ∧
      (∀ name v, findField es ["then"] = some (name, v) → ¬v.FaultyList Action.Faulty) ∧
      (∀ name v, findField es ["else", "otherwise"] = some (name, v) → v = .null ∨
        ¬v.FaultyList Action.Faulty) ∧
      ∀ e ∈ es, ∃ s, e.1 = .str s := by
  have conditions {names : List String} :
      (∃ cs, optionalField es names none (Value.readOptionalList Condition.read) = .ok cs) ↔
      _ := exists_optionalRecords_iff Condition.faulty_iff acyclic
  have consequent {names : List String} :
      (∃ as, optionalField es names [] (Value.readList Action.read) = .ok as) ↔ _ :=
    exists_records_iff Action.faulty_iff acyclic
  have alternative {names : List String} :
      (∃ as, optionalField es names none (Value.readOptionalList Action.read) = .ok as) ↔
      _ := exists_optionalRecords_iff Action.faulty_iff acyclic
  simp only [ofValue, toExcept_eq_ok, read, Value.readRecord,
    Value.entries_of_anyCyclicEntry_eq_false m acyclic,
    exists_seq_iff, exists_map_iff, exists_requiredField_iff, conditions, consequent, alternative,
      exists_readExtras_iff,
    findField_singleton, and_assoc, exists_and_left, exists_eq_left']

theorem faulty_iff {v : Value} (acyclic : v.isCyclic = false) :
    Faulty v ↔ ∀ t, ofValue v ≠ .ok t := by
  rw [← not_exists]
  cases v with
  | map m es =>
    rw [exists_ofValue_iff acyclic]
    constructor
    · rintro (⟨other⟩ | ⟨mem, noText⟩ | ⟨missing⟩ | ⟨found, bad⟩ | ⟨found, given, bad⟩ | ⟨found,
        bad⟩ | ⟨found, given, bad⟩) <;>
        rintro ⟨⟨w, on, matcher, read⟩, conditions, consequent, alternative, texts⟩
      · exact other m es rfl
      · obtain ⟨s, text⟩ := texts _ mem
        exact noText s text
      · cases missing.symm.trans on
      · cases found.symm.trans on
        exact bad matcher read
      · exact (conditions _ _ found).elim given fun fine => fine bad
      · exact consequent _ _ found bad
      · exact (alternative _ _ found).elim given fun fine => fine bad
    · intro bad
      by_contra fine
      refine bad ⟨?_, ?_, ?_, ?_, ?_⟩
      · cases on : Entries.get? (.str "on") es with
        | none => exact absurd (.noMatcher on) fine
        | some w =>
          refine ⟨w, rfl, ?_⟩
          by_contra unread
          exact fine (.matcher on (not_exists.mp unread))
      · exact fun name w found => or_iff_not_imp_left.mpr fun given faulty =>
          fine (.conditions found given faulty)
      · exact fun name w found faulty => fine (.consequent found faulty)
      · exact fun name w found => or_iff_not_imp_left.mpr fun given faulty =>
          fine (.alternative found given faulty)
      · intro e mem
        by_contra noText
        exact fine (.key mem (not_exists.mp noText))
  | _ =>
    exact iff_of_true (.notMapping (by simp))
      (by simp [ofValue, read, Value.readRecord, complain, toExcept])

end Trigger

/-! ### Reading what is given -/

/-- Reading one after the other ends at the first that cannot be read. -/
theorem mapM_ends {β : Type} (f : α → Except Fault β) (as : List α) :
    (∃ bs, List.Forall₂ (fun a b => f a = .ok b) as bs ∧ as.mapM f = .ok bs) ∨
      ∃ before a after e, as = before ++ a :: after ∧ (∀ x ∈ before, ∃ b, f x = .ok b) ∧
      f a = .error e ∧
        as.mapM f = .error e := by
  induction as with
  | nil => exact .inl ⟨[], .nil, rfl⟩
  | cons a as ih =>
    simp only [List.mapM_cons]
    cases here : f a with
    | error e => exact .inr ⟨[], a, as, e, rfl, by simp, here, rfl⟩
    | ok b =>
      rcases ih with ⟨bs, each, read⟩ | ⟨before, x, after, e, rfl, earlier, bad, failed⟩
      · exact .inl ⟨b :: bs, .cons here each, by rw [read]; rfl⟩
      · refine .inr ⟨a :: before, x, after, e, rfl, ?_, bad, by rw [failed]; rfl⟩
        exact List.forall_mem_cons.mpr ⟨⟨b, here⟩, earlier⟩

namespace Given

/-- What is given cannot be read. What has been read already never is. -/
def Invalid (ofValue : Value → Except Fault α) (g : Given α) : Prop := ∀ a, g.read ofValue ≠ .ok a

theorem not_invalid_of_read {ofValue : Value → Except Fault α} {g : Given α} {a : α}
    (read : g.read ofValue = .ok a) : ¬g.Invalid ofValue := fun bad => bad a read

theorem mapM_read_parsed (ofValue : Value → Except Fault α) (as : List α) :
    (as.map Given.parsed).mapM (Given.read ofValue) = .ok as := by
  induction as with
  | nil => rfl
  | cons a as ih =>
    rw [List.map_cons, List.mapM_cons, ih]
    rfl

end Given

namespace Session

variable {η : Type} {event : Given Event} {triggers : List (Given Trigger)}

/-- The first fault that is met when the event is read and then the triggers in order. -/
inductive FirstFault (event : Given Event) (triggers : List (Given Trigger)) (e : Fault) :
    Prop where
  | event (bad : event.read Event.ofValue = .error e)
  | trigger {heard : Event} {before after : List (Given Trigger)} {t : Given Trigger}
    (fine : event.read Event.ofValue = .ok heard) (split : triggers = before ++ t :: after)
    (earlier : ∀ b ∈ before, ∃ t, b.read Trigger.ofValue = .ok t)
      (bad : t.read Trigger.ofValue = .error e)

theorem FirstFault.invalid {e : Fault} (met : FirstFault event triggers e) :
    event.Invalid Event.ofValue ∨ ∃ t ∈ triggers, t.Invalid Trigger.ofValue := by
  have fails {α : Type} {ofValue : Value → Except Fault α} {g : Given α}
      (bad : g.read ofValue = .error e) :
      g.Invalid ofValue := fun a read => by cases bad.symm.trans read
  rcases met with bad | ⟨-, rfl, -, bad⟩
  · exact .inl (fails bad)
  · exact .inr ⟨_, by simp, fails bad⟩

theorem handleGiven_parsed (cb : Callbacks η) (e : Event) (ts : List Trigger) :
    handleGiven cb (.parsed e) (ts.map .parsed) = handle cb e ts := by
  rw [handleGiven, Given.mapM_read_parsed]
  rfl

/-- Nothing is done before everything has been read. -/
theorem handleGiven_ends (event : Given Event) (triggers : List (Given Trigger)) :
    (∃ e, FirstFault event triggers e ∧ ∀ (cb : Callbacks η),
      handleGiven cb event triggers = Step.fail e) ∨
      ∃ e ts, event.read Event.ofValue = .ok e ∧ List.Forall₂
        (fun g t => g.read Trigger.ofValue = .ok t) triggers ts ∧
        ∀ (cb : Callbacks η), handleGiven cb event triggers = handle cb e ts := by
  cases heard : event.read Event.ofValue with
  | error e =>
    refine .inl ⟨e, .event heard, fun cb => ?_⟩
    rw [handleGiven, heard]
    rfl
  | ok e =>
    rcases mapM_ends (Given.read Trigger.ofValue) triggers with
      ⟨ts, each, read⟩ | ⟨before, t, after, f, split, earlier, bad, failed⟩
    · refine .inr ⟨e, ts, rfl, each, fun cb => ?_⟩
      rw [handleGiven, heard, read]
      rfl
    · refine .inl ⟨f, .trigger heard split earlier bad, fun cb => ?_⟩
      rw [handleGiven, heard, failed]
      rfl

/-- An event is handled by all of the triggers or by none. -/
theorem handleGiven_all_or_none (event : Given Event) (triggers : List (Given Trigger)) :
    (event.Invalid Event.ofValue ∨ (∃ t ∈ triggers, t.Invalid Trigger.ofValue) →
      ∃ e, FirstFault event triggers e ∧
        ∀ (cb : Callbacks η) (s : Session η), handleGiven cb event triggers s = (.failed e, s)) ∧
    (¬event.Invalid Event.ofValue → (∀ t ∈ triggers, ¬t.Invalid Trigger.ofValue) →
      ∃ e ts, event.read Event.ofValue = .ok e ∧ List.Forall₂
        (fun g t => g.read Trigger.ofValue = .ok t) triggers ts ∧
        ∀ cb : Callbacks η, handleGiven cb event triggers = handleGiven cb (.parsed e)
        (ts.map .parsed)) ∧
    ∀ v : Value, v.isCyclic = false → ((Given.raw v).Invalid Trigger.ofValue ↔
      Trigger.Faulty v) := by
  refine ⟨?_, ?_, fun v acyclic => (Trigger.faulty_iff acyclic).symm⟩
  · intro invalid
    rcases handleGiven_ends (η := η) event triggers with ⟨e, met, fails⟩ | ⟨e, ts, heard, each, -⟩
    · exact ⟨e, met, fun cb s => congrFun (fails cb) s⟩
    · rcases invalid with bad | ⟨g, mem, bad⟩
      · exact absurd bad (Given.not_invalid_of_read heard)
      · obtain ⟨t, read⟩ := exists_forall₂_iff.mp ⟨ts, each⟩ g mem
        exact absurd bad (Given.not_invalid_of_read read)
  · intro heardFine eachFine
    rcases handleGiven_ends (η := η) event triggers with ⟨e, met, -⟩ | ⟨e, ts, heard, each, handles⟩
    · rcases met.invalid with bad | ⟨t, mem, bad⟩
      · exact absurd bad heardFine
      · exact absurd bad (eachFine t mem)
    · exact ⟨e, ts, heard, each, fun cb => (handles cb).trans (handleGiven_parsed cb e ts).symm⟩

def deepTrigger (a : Action) : Trigger :=
  ⟨⟨"tap", none, []⟩, none, [.sequence [.parallel [a]]], none, []⟩

def pathlessTrigger : Value :=
  .object [("on", .object [("event", .str "tap")]), ("then", .ofList [
    .object [("action", .str "sequence"), ("actions", .ofList [
      .object [("action", .str "parallel"),
        ("actions", .ofList [.object [("action", .str "setVar")]])]])]])]

theorem faulty_pathlessTrigger : Trigger.Faulty pathlessTrigger := by
  refine .consequent rfl fun vs listed => ?_
  cases listed
  refine ⟨_, List.mem_singleton_self _, .inside rfl rfl (List.mem_singleton_self _) ?_⟩
  refine .inside rfl rfl (List.mem_singleton_self _) (.alone rfl fun a => ?_)
  have refused : Action.ofValue (.object [("action", .str "setVar")]) =
      .error (.malformed "SetVarAction" [⟨[.field "path"], .missing⟩]) := by cbv
  exact fun read => by cases refused.symm.trans read

/-- A trigger that lacks a path deep inside keeps another one from firing; without it there is no
difference to triggers that have been read. -/
theorem handleGiven_all_or_none_deep :
    (∃ e, ∀ (cb : Callbacks Unit) (s : Session Unit),
      handleGiven cb (.raw (Event.dump { kind := "tap" }))
      [.raw (deepTrigger (.resetNode "lamp")).dump, .raw pathlessTrigger] s = (.failed e, s)) ∧
    ∃ (e : Event) (ts : List Trigger), ts.length = 2 ∧ ∀ cb : Callbacks Unit,
      handleGiven cb (.raw (Event.dump { kind := "tap" }))
          [.raw (deepTrigger (.resetNode "lamp")).dump, .parsed (deepTrigger (.resetNode "door"))] =
        handleGiven cb (.parsed e) (ts.map .parsed) := by
  have heard : Event.ofValue (Event.dump { kind := "tap" }) = .ok { kind := "tap" } := rfl
  have lamp : Trigger.ofValue (deepTrigger (.resetNode "lamp")).dump =
      .ok (deepTrigger (.resetNode "lamp")) := by cbv
  have bad := ((handleGiven_all_or_none (η := Unit) (.raw .null) []).2.2 pathlessTrigger rfl).mpr
    faulty_pathlessTrigger
  obtain ⟨e, -, unchanged⟩ := (handleGiven_all_or_none (.raw (Event.dump { kind := "tap" }))
    [.raw (deepTrigger (.resetNode "lamp")).dump, .raw pathlessTrigger]).1 (.inr ⟨_, by simp, bad⟩)
  obtain ⟨e', ts, -, each, same⟩ := (handleGiven_all_or_none (.raw (Event.dump { kind := "tap" }))
    [.raw (deepTrigger (.resetNode "lamp")).dump, .parsed (deepTrigger (.resetNode "door"))]).2.1
      (Given.not_invalid_of_read heard) (by
        simp only [List.forall_mem_cons, List.not_mem_nil, false_implies, implies_true, and_true]
        exact ⟨Given.not_invalid_of_read lamp, Given.not_invalid_of_read rfl⟩)
  exact ⟨⟨e, unchanged⟩, e', ts, each.length_eq.symm, same⟩

end Session

end SceneCourse
