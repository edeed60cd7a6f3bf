import SceneCourse.Proofs.ActionReading
import SceneCourse.Proofs.JsonData

/-! Conditions and actions that hold further ones. A reader takes along the containers around the
part that it reads, for the case that one of them comes back. Where no container holds itself it has
no use for them: the conditions or actions inside are a list like that of any other record, each
item read on its own. Proved from that: a condition or an action cannot be read if and only if, at
any depth in it, there is one that cannot be read by itself, or something other than a list in the
place of one. -/

namespace SceneCourse

open Checked

namespace Value

variable {around : List Value} {es : List (Key × Value)} {vs : List Value}

theorem map_partOf_of_anyCyclicEntry_eq_false (around : List Value)
    (acyclic : anyCyclicEntry es = false) : (es.map fun (k, v) => (k, partOf around v)) = es := by
  have same : ∀ e ∈ es, (fun (k, v) => (k, partOf around v)) e = id e := fun e mem =>
    Prod.ext rfl (partOf_of_isCyclic_eq_false around (isCyclic_of_mem acyclic mem))
  rw [List.map_congr_left same, List.map_id]

end Value

theorem readItems_congr {α : Type} {read read' : Value → Checked α} {vs : List Value}
    (same : ∀ v ∈ vs, read v = read' v) (i : Nat) :
    Value.readItems read i vs = Value.readItems read' i vs := by
  induction vs generalizing i with
  | nil => rfl
  | cons v vs ih =>
    rw [List.forall_mem_cons] at same
    rw [Value.readItems, Value.readItems, same.1, ih same.2]

/-- A field with one name, whose absence is as good as an empty list. -/
theorem optionalField_singleton {α : Type} (es : List (Key × Value)) (name : String)
    (read : Value → Checked (List α)) :
    optionalField es [name] [] read =
      match Entries.get? (.str name) es with
      | some v => (read v).inside (.field name)
      | none => .ok [] := by
  unfold optionalField findField
  cases Entries.get? (.str name) es <;> rfl

theorem exists_ofExcept_iff {α : Type} {r : Except Fault α} :
    (∃ a, Checked.ofExcept r = .ok a) ↔ ∃ a, r = .ok a := by
  simp only [ofExcept_eq_ok]

/-- Under a field that is there, a list of parts is read just if each part is. -/
theorem exists_parts_iff {α β : Type} {es : List (Key × Value)} {name : String} {w : Value}
    {ofValue : Value → Except Fault α} (found : Entries.get? (.str name) es = some w)
    (make : List α → β) (record : String) :
    (∃ b, ((optionalField es [name] [] (Value.readList fun v => .ofExcept (ofValue v))).map
      make).toExcept record = .ok b) ↔
      ∃ vs, w.items? = some vs ∧ ∀ u ∈ vs, ∃ a, ofValue u = .ok a := by
  simp only [toExcept_eq_ok, optionalField_singleton, found]
  refine (exists_map_iff (f := make)).trans ?_
  simp only [inside_eq_ok, exists_readList_iff, exists_ofExcept_iff]

/-! ### What is around a part -/

/-- How records are read that hold further ones under a field: one record, the records under the
field of a mapping, those of a list, and the items of one. Each reader takes along what is around
the part that it reads. -/
structure NestedReaders {α : Type} (field : String) (ofPart : List Value → Value → Except Fault α)
    (children : List Value → List (Key × Value) → Checked (List α))
    (nested : List Value → Value → Checked (List α))
    (each : List Value → Nat → List Value → Checked (List α)) : Prop where
  ofPart_map (around : List Value) (m : Nat) {es : List (Key × Value)}
    (acyclic : Value.anyCyclicEntry es = false)
    (same : ∀ around', children around' es = children [] es) : ofPart around (.map m es) =
      ofPart [] (.map m es)
  ofPart_single (around : List Value) {v : Value} (acyclic : v.isCyclic = false)
    (single : ∀ m es, v ≠ .map m es) :
    ofPart around v = ofPart [] v
  children_nil (around : List Value) : children around [] = .ok []
  children_cons (around : List Value) (k : Key) (v : Value) (es : List (Key × Value)) :
    children around ((k, v) :: es) =
    if k.same (.str field) then (nested around v).inside (.field field) else children around es
  nested_list (around : List Value) (m : Nat) (vs : List Value) :
    nested around (.list m vs) = each (Value.inside around (.list m vs)) 0 vs
  nested_set (around : List Value) (ks : List Key) :
    nested around (.set ks) = Value.readItems (fun v => .ofExcept (ofPart [] v)) 0
      (ks.map Key.value)
  nested_single (around : List Value) {v : Value} (acyclic : v.isCyclic = false)
    (single : v.items? = none) :
    nested around v = .complain .notList
  each_nil (around : List Value) (i : Nat) : each around i [] = .ok []
  each_cons (around : List Value) (i : Nat) (v : Value) (vs : List Value) :
    each around i (v :: vs) =
    (· :: ·) <$> (Checked.ofExcept (ofPart around v)).inside (.item i) <*> each around (i + 1) vs

namespace NestedReaders

variable {α : Type} {field : String} {ofPart : List Value → Value → Except Fault α}
  {children : List Value → List (Key × Value) → Checked (List α)}
  {nested : List Value → Value → Checked (List α)}
  {each : List Value → Nat → List Value → Checked (List α)}

mutual

/-- What is around a part makes no difference to it. -/
theorem ofPart_eq (h : NestedReaders field ofPart children nested each) (around : List Value)
    (v : Value) (acyclic : v.isCyclic = false) : ofPart around v = ofPart [] v := by
  cases v with
  | map m es =>
    refine h.ofPart_map around m acyclic fun around' => ?_
    rw [children_eq h around' es acyclic, children_eq h [] es acyclic]
  | _ => exact h.ofPart_single around acyclic nofun
termination_by structural v

theorem children_eq (h : NestedReaders field ofPart children nested each) (around : List Value)
    (es : List (Key × Value)) (acyclic : Value.anyCyclicEntry es = false) :
    children around es = optionalField es [field] []
    (Value.readList fun v => .ofExcept (ofPart [] v)) := by
  rw [optionalField_singleton]
  cases es with
  | nil => exact h.children_nil around
  | cons e es =>
    obtain ⟨k, v⟩ := e
    simp only [Value.anyCyclicEntry, Bool.or_eq_false_iff] at acyclic
    rw [h.children_cons, Entries.get?]
    by_cases here : k.same (.str field) = true
    · rw [if_pos here, if_pos here, nested_eq h around v acyclic.1]
    · rw [if_neg here, if_neg here, children_eq h around es acyclic.2, optionalField_singleton]
termination_by structural es

theorem nested_eq (h : NestedReaders field ofPart children nested each) (around : List Value)
    (v : Value) (acyclic : v.isCyclic = false) :
    nested around v = Value.readList (fun v => .ofExcept (ofPart [] v)) v := by
  cases v with
  | list m vs =>
    rw [h.nested_list, each_eq h _ 0 vs acyclic]
    show _ = Value.readItems _ 0 (Value.items m vs)
    rw [Value.items_of_anyCyclic_eq_false m acyclic]
  | set ks => exact h.nested_set around ks
  | _ => exact h.nested_single around acyclic rfl
termination_by structural v

theorem each_eq (h : NestedReaders field ofPart children nested each) (around : List Value)
    (i : Nat) (vs : List Value) (acyclic : Value.anyCyclic vs = false) :
    each around i vs = Value.readItems (fun v => .ofExcept (ofPart [] v)) i vs := by
  cases vs with
  | nil => exact h.each_nil around i
  | cons v vs =>
    simp only [Value.anyCyclic, Bool.or_eq_false_iff] at acyclic
    rw [h.each_cons, Value.readItems, ofPart_eq h around v acyclic.1,
      each_eq h around (i + 1) vs acyclic.2]
termination_by structural vs

end

end NestedReaders

namespace Value

/-! ### Faults inside -/

/-- A value that cannot be read, by itself or for what is inside it: `under?` gives what should be a
list of its parts. -/
inductive Faulty {α : Type} (ofValue : Value → Except Fault α) (under? : Value → Option Value) :
    Value → Prop where
  | alone {v : Value} (single : under? v = none) (bad : ∀ a, ofValue v ≠ .ok a) :
    Faulty ofValue under? v
  | noList {v w : Value} (parts : under? v = some w) (other : w.items? = none) :
    Faulty ofValue under? v
  | inside {v w u : Value} {vs : List Value} (parts : under? v = some w)
    (listed : w.items? = some vs) (mem : u ∈ vs)
    (bad : Faulty ofValue under? u) : Faulty ofValue under? v

/-- A value that has parts is read just if these are a list and each of them is read. -/
structure ReadsParts {α : Type} (ofValue : Value → Except Fault α)
    (under? : Value → Option Value) : Prop where
  inner {v w : Value} (acyclic : v.isCyclic = false) (parts : under? v = some w) : w.isCyclic =
    false ∧ w.levels < v.levels
  exact {v w : Value} (acyclic : v.isCyclic = false) (parts : under? v = some w) :
    (∃ a, ofValue v = .ok a) ↔ ∃ vs, w.items? = some vs ∧ ∀ u ∈ vs, ∃ a, ofValue u = .ok a

/-- The items of a list lie inside it. -/
theorem item_inner {w u : Value} {vs : List Value} (acyclic : w.isCyclic = false)
    (listed : w.items? = some vs) (mem : u ∈ vs) : u.isCyclic = false ∧ u.levels ≤ w.levels := by
  cases w with
  | list m xs =>
    obtain rfl : xs = vs := by
      rw [← items_of_anyCyclic_eq_false m acyclic]
      exact Option.some.inj listed
    exact ⟨isCyclic_of_mem_items acyclic mem,
      Nat.le_succ_of_le (itemsLevels_le_iff.mp (Nat.le_refl _) u mem)⟩
  | set ks =>
    cases listed
    obtain ⟨k, -, rfl⟩ := List.mem_map.mp mem
    cases k <;> exact ⟨rfl, Nat.le_refl _⟩
  | _ => cases listed

/-- The entries of a mapping lie inside it. -/
theorem entry_inner {m : Nat} {es : List (Key × Value)} {k : Key} {w : Value}
    (acyclic : anyCyclicEntry es = false) (found : Entries.get? k es = some w) :
    w.isCyclic = false ∧ w.levels < (Value.map m es).levels := by
  refine ⟨isCyclic_of_get? acyclic found, ?_⟩
  rw [levels, Nat.lt_succ_iff]
  clear acyclic
  induction es with
  | nil => cases found
  | cons e es ih =>
    rw [Entries.get?] at found
    rw [entriesLevels]
    split at found
    next =>
      cases found
      exact Nat.le_max_left _ _
    next => exact Nat.le_trans (ih found) (Nat.le_max_right _ _)

theorem findField_inner {es : List (Key × Value)} {names : List String} {name : String} {v : Value}
    (acyclic : anyCyclicEntry es = false) (found : findField es names = some (name, v)) :
    v.isCyclic = false := by
  induction names with
  | nil => cases found
  | cons first names ih =>
    rw [findField] at found
    split at found
    next w here =>
      cases found
      exact isCyclic_of_get? acyclic here
    next => exact ih found

theorem ReadsParts.faulty_iff {α : Type} {ofValue : Value → Except Fault α}
    {under? : Value → Option Value} (reads : ReadsParts ofValue under?) {v : Value}
    (acyclic : v.isCyclic = false) : v.Faulty ofValue under? ↔ ∀ a, ofValue v ≠ .ok a := by
  -- by induction on the levels of the value
  generalize bound : v.levels = n
  induction n using Nat.strongRecOn generalizing v with
  | _ n ih =>
    cases parts : under? v with
    | none =>
      refine ⟨?_, .alone parts⟩
      rintro (⟨-, bad⟩ | ⟨parts', -⟩ | ⟨parts', -, -, -⟩)
      · exact bad
      all_goals cases parts.symm.trans parts'
    | some w =>
      obtain ⟨whole, lower⟩ := reads.inner acyclic parts
      have part {vs : List Value} (listed : w.items? = some vs) {u : Value} (mem : u ∈ vs) :
          u.Faulty ofValue under? ↔ ∀ a, ofValue u ≠ .ok a := by
        obtain ⟨acyclic', inner⟩ := item_inner whole listed mem
        exact ih _ (bound ▸ Nat.lt_of_le_of_lt inner lower) acyclic' rfl
      rw [← not_exists, reads.exact acyclic parts]
      constructor
      · rintro (⟨single, -⟩ | ⟨parts', other⟩ | ⟨parts', listed, mem, bad⟩)
        · cases single.symm.trans parts
        · cases parts.symm.trans parts'
          simp [other]
        · cases parts.symm.trans parts'
          rintro ⟨vs', listed', each⟩
          cases listed.symm.trans listed'
          obtain ⟨a, read⟩ := each _ mem
          exact (part listed mem).mp bad a read
      · intro bad
        cases listed : w.items? with
        | none => exact .noList parts listed
        | some vs =>
          by_contra fine
          refine bad ⟨vs, listed, fun u mem => ?_⟩
          by_contra unread
          exact fine (.inside parts listed mem ((part listed mem).mpr (not_exists.mp unread)))

end Value

/-! ### Conditions -/

namespace Condition

theorem nestedReaders : NestedReaders "conditions" ofPart readChildren readNested readEach where
  ofPart_map around m es acyclic same := by
    have entry (name : String) : ((Entries.get? (.str name) es).getD .null).isCyclic = false := by
      cases found : Entries.get? (.str name) es with
      | none => rfl
      | some w => exact Value.isCyclic_of_get? acyclic found
    rw [ofPart, ofPart]
    simp only [Value.partOf_of_isCyclic_eq_false _ (entry _),
      Value.map_partOf_of_anyCyclicEntry_eq_false _ acyclic,
      same (Value.inside _ _)]
  ofPart_single around v acyclic single := by
    cases v with
    | map m es => exact absurd rfl (single m es)
    | again m mapping => cases acyclic
    | _ => simp only [ofPart]
  children_nil around := by rw [readChildren]
  children_cons around k v es := by rw [readChildren]
  nested_list around m vs := by rw [readNested]
  nested_set around ks := by
    rw [readNested, refuseKeys]
    refine readItems_congr (fun v mem => ?_) 0
    obtain ⟨k, -, rfl⟩ := List.mem_map.mp mem
    cases k <;> simp only [Key.value, ofPart]
  nested_single around v acyclic single := by
    cases v with
    | list m vs => cases single
    | set ks => cases single
    | again m mapping => cases acyclic
    | _ => simp only [readNested]
  each_nil around i := by rw [readEach]
  each_cons around i v vs := by rw [readEach]

/-- A logical condition reads the conditions under it like any list of a record. -/
theorem ofValue_map_logical {m : Nat} {es : List (Key × Value)} {name : String} {op : LogicOp}
    (acyclic : Value.anyCyclicEntry es = false)
    (named : Entries.get? (.str "op") es = some (.str name))
    (logic : LogicOp.ofName? name = some op) : ofValue (.map m es) =
      ((optionalField es ["conditions"] [] (Value.readList read)).map (logical op)).toExcept
        "Logical" := by
  have comparison : CompareOp.ofName? name = none := by
    unfold LogicOp.ofName? at logic
    split at logic <;> first | rfl | cases logic
  have field : Value.partOf (Value.inside [] (.map m es)) (.str name) = .str name :=
    Value.partOf_of_isCyclic_eq_false _ rfl
  rw [ofValue, ofPart]
  dsimp only
  rw [named, Option.getD_some, field]
  dsimp only
  rw [comparison, logic, nestedReaders.children_eq _ es acyclic]
  rfl

/-- What should be the list of the conditions under a logical one. -/
def under? : Value → Option Value
  | .map _ es =>
    match Entries.get? (.str "op") es with
    | some (.str name) =>
      if (LogicOp.ofName? name).isSome then Entries.get? (.str "conditions") es else none
    | _ => none
  | _ => none

theorem under?_eq_some {v w : Value} (parts : under? v = some w) : ∃ m es name op, v = .map m es ∧
    Entries.get? (.str "op") es = some (.str name) ∧ LogicOp.ofName? name = some op ∧
    Entries.get? (.str "conditions") es = some w := by
  unfold under? at parts
  split at parts
  next m es =>
    split at parts
    next name named =>
      split at parts
      next logic =>
        obtain ⟨op, logic⟩ := Option.isSome_iff_exists.mp logic
        exact ⟨m, es, name, op, rfl, named, logic, parts⟩
      next => cases parts
    next => cases parts
  next => cases parts

theorem readsParts : Value.ReadsParts ofValue under? where
  inner acyclic parts := by
    obtain ⟨m, es, -, -, rfl, -, -, under⟩ := under?_eq_some parts
    exact Value.entry_inner acyclic under
  exact acyclic parts := by
    obtain ⟨m, es, name, op, rfl, named, logic, under⟩ := under?_eq_some parts
    rw [ofValue_map_logical acyclic named logic]
    exact exists_parts_iff under (logical op) "Logical"

/-- A condition with a fault by itself, or with one at any depth inside it. -/
abbrev Faulty : Value → Prop := Value.Faulty ofValue under?

theorem faulty_iff {v : Value} (acyclic : v.isCyclic = false) : Faulty v ↔ ∀ c, ofValue v ≠ .ok c :=
  readsParts.faulty_iff acyclic

end Condition

/-! ### Actions -/

namespace Action

theorem nestedReaders : NestedReaders "actions" ofPart readChildren readNested readEach where
  ofPart_map around m es acyclic same := by
    rw [ofPart, ofPart]
    simp only [Value.map_partOf_of_anyCyclicEntry_eq_false _ acyclic, same (Value.inside _ _)]
  ofPart_single around v acyclic single := by
    cases v with
    | map m es => exact absurd rfl (single m es)
    | again m mapping => cases acyclic
    | _ => simp only [ofPart]
  children_nil around := by rw [readChildren]
  children_cons around k v es := by rw [readChildren]
  nested_list around m vs := by rw [readNested]
  nested_set around ks := by
    rw [readNested, refuseKeys]
    refine readItems_congr (fun v mem => ?_) 0
    obtain ⟨k, -, rfl⟩ := List.mem_map.mp mem
    cases k <;> simp only [Key.value, ofPart]
  nested_single around v acyclic single := by
    cases v with
    | list m vs => cases single
    | set ks => cases single
    | again m mapping => cases acyclic
    | _ => simp only [readNested]
  each_nil around i := by rw [readEach]
  each_cons around i v vs := by rw [readEach]

/-- An action reads the actions under it like any list of a record. -/
theorem ofValue_map {es : List (Key × Value)} (m : Nat)
    (acyclic : Value.anyCyclicEntry es = false) :
    ofValue (.map m es) = ofEntries es (optionalField es ["actions"] [] (Value.readList read)) := by
  rw [ofValue, ofPart]
  dsimp only
  rw [Value.map_partOf_of_anyCyclicEntry_eq_false _ acyclic, nestedReaders.children_eq _ es acyclic]
  rfl

/-- What should be the list of the actions under a composite one. -/
def under? : Value → Option Value
  | .map _ es =>
    match Entries.get? (.str "action") es with
    | some (.str "sequence") | some (.str "parallel") => Entries.get? (.str "actions") es
    | _ => none
  | _ => none

theorem under?_eq_some {v w : Value} (parts : under? v = some w) : ∃ m es tag, v = .map m es ∧
    Entries.get? (.str "action") es = some (.str tag) ∧ (tag = "sequence" ∨ tag = "parallel") ∧
    Entries.get? (.str "actions") es = some w := by
  unfold under? at parts
  split at parts
  next m es =>
    split at parts
    next named => exact ⟨m, es, _, rfl, named, .inl rfl, parts⟩
    next named => exact ⟨m, es, _, rfl, named, .inr rfl, parts⟩
    next => cases parts
  next => cases parts

theorem readsParts : Value.ReadsParts ofValue under? where
  inner acyclic parts := by
    obtain ⟨m, es, -, rfl, -, -, under⟩ := under?_eq_some parts
    exact Value.entry_inner acyclic under
  exact acyclic parts := by
    obtain ⟨m, es, tag, rfl, named, rfl | rfl, under⟩ := under?_eq_some parts
    · rw [ofValue_map m acyclic, ofEntries, named]
      exact exists_parts_iff under sequence "SequenceAction"
    · rw [ofValue_map m acyclic, ofEntries, named]
      exact exists_parts_iff under parallel "ParallelAction"

/-- An action with a fault by itself, or with one at any depth inside it. -/
abbrev Faulty : Value → Prop := Value.Faulty ofValue under?

theorem faulty_iff {v : Value} (acyclic : v.isCyclic = false) : Faulty v ↔ ∀ a, ofValue v ≠ .ok a :=
  readsParts.faulty_iff acyclic

end Action

end SceneCourse
