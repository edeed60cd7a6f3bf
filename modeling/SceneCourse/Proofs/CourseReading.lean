import SceneCourse.Proofs.NestedReading

/-! Where the reading of a document stops outright. Defects add up to a loading fault, but a fault
that is no complaint ends the reading there and then. Proved: a document without cycles is read up
to the first condition of a trigger that cannot be looked at, whatever else stands in it, and it
ends with the fault of that condition; so it gives a course or a loading fault unless some condition
of a trigger, at any depth, has a list or a mapping for its operator. -/

namespace SceneCourse

/-! ### The fault of a reading -/

namespace Checked

variable {α β : Type}

/-- The fault at which a reading stops outright. -/
def fault? : Checked α → Option Fault
  | stopped e => some e
  | _ => none

theorem fault?_eq_some {x : Checked α} {e : Fault} : x.fault? = some e ↔ x = stopped e := by
  cases x <;> simp [fault?]

@[simp] theorem fault?_map (f : α → β) (x : Checked α) : (f <$> x).fault? = x.fault? :=
  by cases x <;> rfl

/-- Of two readings the first one stops first. -/
@[simp] theorem fault?_seq (f : Checked (α → β)) (x : Checked α) :
    (f <*> x).fault? = f.fault?.or x.fault? := by
  cases f <;> cases x <;> rfl

@[simp] theorem fault?_inside (x : Checked α) (place : Place) :
    (x.inside place).fault? = x.fault? := by cases x <;> rfl

theorem GoesOn.fault?_eq_none {x : Checked α} (h : GoesOn x) : x.fault? = none := by
  cases x with
  | stopped e => exact (h.exact.mp ⟨e, rfl⟩).elim
  | _ => rfl

theorem fault?_ofExcept {r : Except Fault α} {e : Fault} :
    (ofExcept r).fault? = some e ↔ r = .error e ∧ e.isRefusal = false := by
  have halts := halts_ofExcept r
  rw [fault?_eq_some]
  constructor
  · intro stops
    obtain ⟨f, rfl, outright⟩ := halts.exact.mp ⟨e, stops⟩
    cases f <;> cases stops <;> exact ⟨rfl, outright⟩
  · rintro ⟨rfl, outright⟩
    cases e <;> first | rfl | cases outright

theorem fault?_of_toExcept {x : Checked α} {record : String} {e : Fault}
    (failed : x.toExcept record = .error e) (outright : e.isRefusal = false) :
    x.fault? = some e := by
  cases x with
  | ok a => cases failed
  | faulty cs =>
    cases failed
    cases outright
  | stopped f =>
    cases failed
    rfl

end Checked

open Checked

section

variable {α : Type} (read : Value → Checked α)

theorem fault?_readItems (i : Nat) (vs : List Value) :
    (Value.readItems read i vs).fault? = vs.findSome? fun v => (read v).fault? := by
  induction vs generalizing i with
  | nil => rfl
  | cons v vs ih =>
    rw [Value.readItems, fault?_seq, fault?_map, fault?_inside, ih, List.findSome?_cons]
    cases (read v).fault? <;> rfl

theorem fault?_readList (v : Value) :
    (Value.readList read v).fault? = (v.items?.getD []).findSome? fun v => (read v).fault? := by
  unfold Value.readList
  cases v.items? with
  | none => rfl
  | some vs => exact fault?_readItems read 0 vs

theorem fault?_readOptionalList (v : Value) :
    (Value.readOptionalList read v).fault? = (v.items?.getD []).findSome? fun v =>
      (read v).fault? := by
  unfold Value.readOptionalList
  split
  next => rfl
  next => exact (fault?_map some _).trans (fault?_readList read _)

variable {read} in
@[simp] theorem fault?_requiredField (each : ∀ v, (read v).fault? = none) (es : List (Key × Value))
    (names : List String) : (requiredField es names read).fault? = none := by
  unfold requiredField
  split
  next => exact (fault?_inside _ _).trans (each _)
  next => rfl

theorem fault?_optionalField (es : List (Key × Value)) (names : List String) (absent : α) :
    (optionalField es names absent read).fault? = (findField es names).bind fun f =>
      (read f.2).fault? := by
  unfold optionalField
  cases findField es names with
  | none => rfl
  | some f => exact fault?_inside _ _

variable {read} in
@[simp] theorem fault?_optionalField_of_none (each : ∀ v, (read v).fault? = none)
    (es : List (Key × Value)) (names : List String) (absent : α) :
    (optionalField es names absent read).fault? = none := by
  rw [fault?_optionalField]
  cases findField es names with
  | none => rfl
  | some f => exact each f.2

end

/-! ### Records of a document -/

namespace Value

/-- The items of the list that a record has under one of the names, none if there is no such
list. -/
def listed (names : List String) : Value → List Value
  | .map m es => ((findField (entries m es) names).bind (·.2.items?)).getD []
  | _ => []

def conditions (doc : Value) : List Value :=
  (doc.listed ["scenes"]).flatMap fun scene =>
    (scene.listed ["triggers"]).flatMap (listed ["if", "conditions"])

/-- Some condition in the document cannot be read for the operator that it or one inside it has. -/
def Garbled (doc : Value) : Prop := ∃ v ∈ doc.conditions, v.Unreadable

theorem isCyclic_of_mem_listed {names : List String} {v w : Value} (acyclic : v.isCyclic = false)
    (mem : w ∈ v.listed names) : w.isCyclic = false := by
  cases v with
  | map m es =>
    rw [listed, entries_of_anyCyclicEntry_eq_false m acyclic] at mem
    cases found : findField es names with
    | none => simp [found] at mem
    | some f =>
      cases items : f.2.items? with
      | none => simp [found, items] at mem
      | some vs =>
        simp only [found, Option.bind_some, items, Option.getD_some] at mem
        exact (item_inner (findField_inner acyclic found) items mem).1
  | _ => simp [listed] at mem

section

variable {α : Type} (read : Value → Checked α) (es : List (Key × Value)) (names : List String)

theorem fault?_list (absent : List α) : (optionalField es names absent (readList read)).fault? =
    (((findField es names).bind (·.2.items?)).getD []).findSome? fun v => (read v).fault? := by
  rw [fault?_optionalField]
  cases findField es names with
  | none => rfl
  | some f => exact fault?_readList read f.2

theorem fault?_optionalList (absent : Option (List α)) :
    (optionalField es names absent (readOptionalList read)).fault? =
    (((findField es names).bind (·.2.items?)).getD []).findSome? fun v => (read v).fault? := by
  rw [fault?_optionalField]
  cases findField es names with
  | none => rfl
  | some f => exact fault?_readOptionalList read f.2

end

/-- What is read without the parts of a list never stops. -/
theorem fault?_readRecord {α : Type} {read : List (Key × Value) → Checked α}
    (each : ∀ es, (read es).fault? = none) (v : Value) : (v.readRecord read).fault? = none := by
  unfold readRecord
  split
  next => exact each _
  next => rfl

@[simp] theorem fault?_readText (v : Value) : v.readText.fault? = none :=
  (goesOn_readText v).fault?_eq_none

@[simp] theorem fault?_readOptionalText (v : Value) : v.readOptionalText.fault? = none := by
  unfold readOptionalText
  split
  next => rfl
  next => exact (fault?_map some _).trans (fault?_readText _)

@[simp] theorem fault?_readTextMap (v : Value) : v.readTextMap.fault? = none := by
  unfold readTextMap
  split
  next => split <;> rfl
  next => rfl

end Value

@[simp] theorem fault?_readExtras (es : List (Key × Value)) (fields : List (List String)) :
    (readExtras es fields).fault? = none := (goesOn_readExtras fields).fault?_eq_none

@[simp] theorem Matcher.fault?_read (v : Value) : (read v).fault? = none :=
  Value.fault?_readRecord (fun _ => by simp) v

@[simp] theorem Node.fault?_read (v : Value) : (read v).fault? = none :=
  Value.fault?_readRecord (fun _ => by simp) v

@[simp] theorem Meta.fault?_read (v : Value) : (read v).fault? = none :=
  Value.fault?_readRecord (fun _ => by simp) v

@[simp] theorem Globals.fault?_read (v : Value) : (read v).fault? = none :=
  Value.fault?_readRecord (fun _ => by simp) v

theorem Action.fault?_read {v : Value} (acyclic : v.isCyclic = false) : (read v).fault? = none := by
  rw [Option.eq_none_iff_forall_ne_some]
  exact fun e stops => not_breaks_ofValue acyclic ⟨e, fault?_ofExcept.mp stops⟩

/-- Where the first of the listed parts stops that does. -/
theorem Trigger.fault?_read {v : Value} (acyclic : v.isCyclic = false) :
    (read v).fault? = (v.listed ["if", "conditions"]).findSome? fun c =>
      (Condition.read c).fault? := by
  have actions (names : List String) : (v.listed names).findSome?
      (fun a => (Action.read a).fault?) = none :=
    List.findSome?_eq_none_iff.mpr fun a mem =>
      Action.fault?_read (Value.isCyclic_of_mem_listed acyclic mem)
  cases v with
  | map m es =>
    simp only [Value.listed] at actions
    simp only [read, Value.readRecord, fault?_seq, fault?_map,
      fault?_requiredField Matcher.fault?_read,
      Value.fault?_optionalList, Value.fault?_list, actions, fault?_readExtras, Option.none_or,
        Option.or_none, Value.listed]
  | _ => rfl

theorem Scene.fault?_read (v : Value) :
    (read v).fault? = (v.listed ["triggers"]).findSome? fun t => (Trigger.read t).fault? := by
  cases v with
  | map m es =>
    have nodes : (optionalField (Value.entries m es) ["nodes"] []
        (Value.readList Node.read)).fault? = none := by
      rw [Value.fault?_list, List.findSome?_eq_none_iff]
      exact fun n _ => Node.fault?_read n
    simp only [read, Value.readRecord, fault?_seq, fault?_map,
      fault?_requiredField Value.fault?_readText,
      fault?_optionalField_of_none Value.fault?_readTextMap, nodes, Value.fault?_list,
        fault?_readExtras, Option.none_or,
      Option.or_none, Value.listed]
  | _ => rfl

theorem findSome?_flatMap {α β γ : Type} (f : α → List β) (g : β → Option γ) (as : List α) :
    (as.flatMap f).findSome? g = as.findSome? fun a => (f a).findSome? g := by
  induction as with
  | nil => rfl
  | cons a as ih =>
    rw [List.flatMap_cons, List.findSome?_append, ih, List.findSome?_cons]
    cases (f a).findSome? g <;> rfl

theorem findSome?_congr {α β : Type} {f g : α → Option β} {as : List α}
    (same : ∀ a ∈ as, f a = g a) : as.findSome? f = as.findSome? g := by
  induction as with
  | nil => rfl
  | cons a as ih =>
    rw [List.forall_mem_cons] at same
    rw [List.findSome?_cons, List.findSome?_cons, same.1, ih same.2]

/-- A document is read up to the first condition that cannot be looked at. -/
theorem Course.fault?_read {v : Value} (acyclic : v.isCyclic = false) :
    (read v).fault? = v.conditions.findSome? fun c => (Condition.read c).fault? := by
  have scenes : (read v).fault? = (v.listed ["scenes"]).findSome? fun s =>
    (Scene.read s).fault? := by
    cases v with
    | map m es =>
      simp only [read, Value.readRecord, fault?_seq, fault?_map,
        fault?_requiredField Value.fault?_readText,
        fault?_requiredField Meta.fault?_read, fault?_optionalField_of_none Value.fault?_readText,
        fault?_optionalField_of_none Globals.fault?_read, Value.fault?_list, fault?_readExtras,
          Option.none_or,
        Option.or_none, Value.listed]
    | _ => rfl
  rw [scenes, Value.conditions, findSome?_flatMap]
  refine findSome?_congr fun s mem => ?_
  rw [Scene.fault?_read, findSome?_flatMap]
  refine findSome?_congr fun t mem' => Trigger.fault?_read ?_
  exact Value.isCyclic_of_mem_listed (Value.isCyclic_of_mem_listed acyclic mem) mem'

theorem Value.isCyclic_of_mem_conditions {v c : Value} (acyclic : v.isCyclic = false)
    (mem : c ∈ v.conditions) : c.isCyclic = false := by
  obtain ⟨s, scene, inScene⟩ := List.mem_flatMap.mp mem
  obtain ⟨t, trigger, inTrigger⟩ := List.mem_flatMap.mp inScene
  exact isCyclic_of_mem_listed (isCyclic_of_mem_listed
    (isCyclic_of_mem_listed acyclic scene) trigger) inTrigger

/-! ### The fault of a condition -/

namespace Condition

/-- A condition is looked at by the name of its operator, and a list or a mapping is no name. -/
theorem wrongKind_of_not_refusal {v : Value} {e : Fault} (acyclic : v.isCyclic = false)
    (failed : ofValue v = .error e) (outright : e.isRefusal = false) :
    ∃ kind, e = .wrongKind "looking up an operator" kind := by
  -- by induction on the levels of the condition
  generalize bound : v.levels = n
  induction n using Nat.strongRecOn generalizing v with
  | _ n ih =>
    cases parts : under? v with
    | some w =>
      obtain ⟨m, es, name, op, rfl, named, logic, under⟩ := under?_eq_some parts
      obtain ⟨whole, lower⟩ := readsParts.inner acyclic parts
      rw [ofValue_map_logical acyclic named logic, optionalField_singleton, under] at failed
      have stops : (logical op <$> (Value.readList read w).inside (.field "conditions")).fault? =
          some e :=
        fault?_of_toExcept failed outright
      rw [fault?_map, fault?_inside, fault?_readList] at stops
      obtain ⟨u, mem, stops⟩ := List.exists_of_findSome?_eq_some stops
      cases listed : w.items? with
      | none => simp [listed] at mem
      | some vs =>
        rw [listed, Option.getD_some] at mem
        obtain ⟨acyclic', inner⟩ := Value.item_inner whole listed mem
        obtain ⟨failed', -⟩ := fault?_ofExcept.mp stops
        exact ih u.levels (bound ▸ Nat.lt_of_le_of_lt inner lower) acyclic' failed' rfl
    | none =>
      rcases (breaks_ofValue acyclic).mp ⟨e, failed, outright⟩
        with ⟨named, container⟩ | ⟨named, logical, under, -, -⟩
      · rw [ofValue, ofPart] at failed
        dsimp only at failed
        rw [named, Option.getD_some, Value.partOf_of_isCyclic_eq_false _
          (Value.isCyclic_of_get? acyclic named)] at failed
        rename_i w
        cases w with
        | list _ _ | map _ _ =>
          cases failed
          exact ⟨_, rfl⟩
        | _ => cases container
      · simp [under?, named, logical, under] at parts

theorem exists_fault?_iff {v : Value} (acyclic : v.isCyclic = false) :
    (∃ e, (read v).fault? = some e) ↔ v.Unreadable := by
  rw [← breaks_ofValue acyclic]
  exact exists_congr fun e => fault?_ofExcept

end Condition

/-! ### Loading a document -/

namespace Course

variable {v : Value}

def Announced (r : Except Fault Course) : Prop :=
  (∃ c, r = .ok c) ∨ ∃ cause, r = .error (.load cause)

theorem exists_fault?_iff (acyclic : v.isCyclic = false) :
    (∃ e, (read v).fault? = some e) ↔ v.Garbled := by
  rw [fault?_read acyclic, ← Option.isSome_iff_exists, List.findSome?_isSome_iff]
  refine exists_congr fun c => and_congr_right fun mem => ?_
  rw [Option.isSome_iff_exists, Condition.exists_fault?_iff
    (Value.isCyclic_of_mem_conditions acyclic mem)]

/-- A garbled document is not told as defects are. -/
theorem parse_of_garbled (acyclic : v.isCyclic = false) (garbled : v.Garbled) :
    ∃ kind, parse v = .error (.wrongKind "looking up an operator" kind) := by
  obtain ⟨e, stops⟩ := (exists_fault?_iff acyclic).mpr garbled
  have first := stops
  rw [fault?_read acyclic] at first
  obtain ⟨c, mem, condition⟩ := List.exists_of_findSome?_eq_some first
  obtain ⟨failed, outright⟩ := fault?_ofExcept.mp condition
  obtain ⟨kind, rfl⟩ := Condition.wrongKind_of_not_refusal
    (Value.isCyclic_of_mem_conditions acyclic mem) failed outright
  refine ⟨kind, ?_⟩
  rw [parse, ofValue, fault?_eq_some.mp stops, toExcept]

theorem announced_of_not_garbled (acyclic : v.isCyclic = false) (clear : ¬v.Garbled) :
    Announced (parse v) := by
  cases reading : read v with
  | ok c => exact .inl ⟨c, by rw [parse, ofValue, reading, toExcept]⟩
  | faulty cs => exact .inr ⟨.invalid cs, by rw [parse, ofValue, reading, toExcept]⟩
  | stopped e => exact absurd ((exists_fault?_iff acyclic).mp ⟨e, fault?_eq_some.mpr reading⟩) clear

end Course

end SceneCourse
