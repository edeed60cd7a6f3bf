import Mathlib.Data.List.Nodup
import SceneCourse.Proofs.JsonDocument

/-! Records that are read, written and read again. A record is written with its fields under their
first names and its kept entries behind them. Proved: a field is found again under its first name,
whichever name it was read from, and the kept entries are the same again, because none of them bears
the first name of a field. -/

namespace SceneCourse

variable {α β : Type}

/-! ### Plain fields -/

def Ensures (read : Value → Checked α) (P : α → Prop) : Prop := ∀ v a, read v = .ok a → P a

/-- What a value is read as is read again from what is written for it. -/
def Rereads (read : Value → Checked α) (write : α → Value) : Prop :=
  ∀ v a, read v = .ok a → read (write a) = .ok a

namespace Value

theorem rereads_text : Rereads readText .str := fun _ _ _ => rfl

theorem rereads_optionalText : Rereads readOptionalText Event.optionalText := by
  intro v a _
  cases a <;> rfl

end Value

/-! ### Entries under texts -/

def keyed (fields : List (String × Value)) : List (Key × Value) :=
  fields.map fun (s, v) => (.str s, v)

theorem get?_keyed (name : String) (fields : List (String × Value)) :
    Entries.get? (.str name) (keyed fields) = fields.lookup name := by
  induction fields with
  | nil => rfl
  | cons f fields ih =>
    obtain ⟨s, v⟩ := f
    show (if Key.same (.str s) (.str name) then some v
      else Entries.get? (.str name) (keyed fields)) = _
    rw [Key.same_str, ih, List.lookup_cons, BEq.comm]
    cases name == s <;> rfl

theorem texts_keyed (fields : List (String × Value)) : Entries.texts (keyed fields) = fields := by
  induction fields with
  | nil => rfl
  | cons f fields ih => exact congrArg (f :: ·) ih

theorem mem_keyed {k : Key} {v : Value} {fields : List (String × Value)} :
    (k, v) ∈ keyed fields ↔ ∃ s, k = .str s ∧ (s, v) ∈ fields := by
  rw [keyed, List.mem_map]
  constructor
  · rintro ⟨⟨s, w⟩, mem, same⟩
    cases same
    exact ⟨s, rfl, mem⟩
  · rintro ⟨s, rfl, mem⟩
    exact ⟨(s, v), mem, rfl⟩

theorem keyComplaints_keyed {complaint? : Key → Option Complaint}
    (none_ : ∀ s, complaint? (.str s) = none) (fields : List (String × Value)) :
    Value.keyComplaints complaint? (keyed fields) = [] := by
  induction fields with
  | nil => rfl
  | cons f fields ih =>
    show Value.keyComplaints complaint? ((.str f.1, f.2) :: keyed fields) = []
    rw [Value.keyComplaints, none_, ih]

theorem textEntries_keyed (fields : List (String × Value)) :
    Value.textEntries (keyed fields) = fields := by
  rw [Value.textEntries]
  split
  next bytes =>
    obtain ⟨⟨k, v⟩, mem, isBytes⟩ := List.any_eq_true.mp bytes
    obtain ⟨s, rfl, -⟩ := mem_keyed.mp mem
    simp at isBytes
  next => exact texts_keyed fields

theorem Value.readTextMap_object (fields : List (String × Value)) :
    (object fields).readTextMap = .ok fields := by
  show readTextMap (.map 0 (keyed fields)) = _
  rw [readTextMap, keyComplaints_keyed fun _ => rfl]
  show Checked.ok (textEntries (Value.entries 0 (keyed fields))) = _
  rw [entries_zero, textEntries_keyed]

theorem Value.rereads_textMap : Rereads readTextMap Value.object :=
  fun _ fields _ => readTextMap_object fields

/-! ### Lists -/

namespace Checked

theorem inside_eq_ok {x : Checked α} {p : Place} {a : α} : x.inside p = .ok a ↔ x = .ok a := by
  cases x <;> simp [inside]

theorem toExcept_eq_ok {x : Checked α} {record : String} {a : α} :
    x.toExcept record = .ok a ↔ x = .ok a := by
  cases x <;> simp [toExcept]

theorem ofExcept_eq_ok {r : Except Fault α} {a : α} : Checked.ofExcept r = .ok a ↔ r = .ok a := by
  cases r with
  | ok b => simp [Checked.ofExcept]
  | error e => cases e <;> simp [Checked.ofExcept, complain]

theorem map_ok (f : α → β) {x : Checked α} {a : α} (hx : x = ok a) : f <$> x = ok (f a) := by
  rw [hx]
  rfl

theorem seq_ok {f : Checked (α → β)} {g : α → β} {x : Checked α} {a : α} (hf : f = ok g)
    (hx : x = ok a) : f <*> x = ok (g a) := by
  rw [hf, hx]
  rfl

theorem exists_map_iff {f : α → β} {x : Checked α} : (∃ b, f <$> x = ok b) ↔ ∃ a, x = ok a := by
  constructor
  · rintro ⟨b, found⟩
    obtain ⟨a, here, -⟩ := map_eq_ok found
    exact ⟨a, here⟩
  · rintro ⟨a, here⟩
    exact ⟨f a, map_ok f here⟩

/-- Two readings end well together just if each of them does. -/
theorem exists_seq_iff {f : Checked (α → β)} {x : Checked α} :
    (∃ b, f <*> x = ok b) ↔ (∃ g, f = ok g) ∧ ∃ a, x = ok a := by
  constructor
  · rintro ⟨b, found⟩
    obtain ⟨g, a, first, second, -⟩ := seq_eq_ok found
    exact ⟨⟨g, first⟩, a, second⟩
  · rintro ⟨⟨g, first⟩, a, second⟩
    exact ⟨g a, seq_ok first second⟩

end Checked

section

open Checked

variable {read : Value → Checked α} {write : α → Value}

theorem exists_of_mem_readItems {i : Nat} {vs : List Value} {as : List α}
    (h : Value.readItems read i vs = .ok as) : ∀ a ∈ as, ∃ v ∈ vs, read v = .ok a := by
  induction vs generalizing i as with
  | nil =>
    cases h
    simp
  | cons v vs ih =>
    obtain ⟨g, bs, first, rest, rfl⟩ := seq_eq_ok (show _ <*> _ = _ from h)
    obtain ⟨a, here, rfl⟩ := map_eq_ok first
    intro b mem
    rcases List.mem_cons.mp mem with rfl | later
    · exact ⟨v, List.mem_cons_self, inside_eq_ok.mp here⟩
    · obtain ⟨w, part, found⟩ := ih rest b later
      exact ⟨w, List.mem_cons_of_mem v part, found⟩

theorem readItems_map {as : List α} (h : ∀ a ∈ as, read (write a) = .ok a) (i : Nat) :
    Value.readItems read i (as.map write) = .ok as := by
  induction as generalizing i with
  | nil => rfl
  | cons a as ih =>
    have here : (read (write a)).inside (.item i) = .ok a :=
      inside_eq_ok.mpr (h a List.mem_cons_self)
    rw [List.map_cons, Value.readItems, here, ih fun b mem => h b (List.mem_cons_of_mem _ mem)]
    rfl

theorem readList_ofList {as : List α} (h : ∀ a ∈ as, read (write a) = .ok a) :
    Value.readList read (.ofList (as.map write)) = .ok as := by
  show Value.readItems read 0 (Value.items 0 (as.map write)) = _
  rw [Value.items_zero, readItems_map h]

theorem readItems_eq_ok_iff {i : Nat} {vs : List Value} {as : List α} :
    Value.readItems read i vs = .ok as ↔ List.Forall₂ (fun v a => read v = .ok a) vs as := by
  induction vs generalizing i as with
  | nil => exact ⟨fun h => by cases h; exact .nil, fun h => by cases h; rfl⟩
  | cons v vs ih =>
    constructor
    · intro found
      obtain ⟨g, rest, first, later, rfl⟩ := seq_eq_ok (show _ <*> _ = _ from found)
      obtain ⟨a, here, rfl⟩ := map_eq_ok first
      exact .cons (inside_eq_ok.mp here) (ih.mp later)
    · intro each
      cases each with
      | cons here later => exact seq_ok (map_ok _ (inside_eq_ok.mpr here)) (ih.mpr later)

theorem readList_eq_ok_iff {v : Value} {as : List α} :
    Value.readList read v = .ok as ↔ ∃ vs, v.items? = some vs ∧ List.Forall₂
      (fun v a => read v = .ok a) vs as := by
  unfold Value.readList
  split
  next vs listed => simp [listed, readItems_eq_ok_iff]
  next none => simp [none, complain]

theorem exists_forall₂_iff {r : α → β → Prop} {as : List α} :
    (∃ bs, List.Forall₂ r as bs) ↔ ∀ a ∈ as, ∃ b, r a b := by
  induction as with
  | nil => exact iff_of_true ⟨[], .nil⟩ (by simp)
  | cons a as ih =>
    rw [List.forall_mem_cons, ← ih]
    constructor
    · rintro ⟨_, _ | ⟨here, later⟩⟩
      exact ⟨⟨_, here⟩, _, later⟩
    · rintro ⟨⟨b, here⟩, bs, later⟩
      exact ⟨b :: bs, .cons here later⟩

/-- A list is read just if each of its items is. -/
theorem exists_readList_iff {v : Value} :
    (∃ as, Value.readList read v = .ok as) ↔ ∃ vs, v.items? = some vs ∧
      ∀ w ∈ vs, ∃ a, read w = .ok a := by
  simp only [readList_eq_ok_iff, exists_comm (α := List α), exists_and_left, exists_forall₂_iff]

theorem exists_readOptionalList_iff {v : Value} : (∃ o, Value.readOptionalList read v = .ok o) ↔
    v = .null ∨ ∃ vs, v.items? = some vs ∧ ∀ w ∈ vs, ∃ a, read w = .ok a := by
  unfold Value.readOptionalList
  split
  next => exact iff_of_true ⟨none, rfl⟩ (.inl rfl)
  next v given =>
    exact (exists_map_iff (f := some)).trans (exists_readList_iff.trans (or_iff_right given).symm)

theorem Ensures.list {P : α → Prop} (h : Ensures read P) :
    Ensures (Value.readList read) fun as => ∀ a ∈ as, P a := by
  intro v as found a mem
  rw [Value.readList] at found
  split at found
  next vs _ =>
    obtain ⟨w, -, here⟩ := exists_of_mem_readItems found a mem
    exact h w a here
  next => cases found

theorem Ensures.optionalList {P : α → Prop} (h : Ensures read P) :
    Ensures (Value.readOptionalList read) fun o => ∀ a ∈ o.getD [], P a := by
  intro v o found
  unfold Value.readOptionalList at found
  split at found
  next =>
    cases found
    exact fun _ mem => absurd mem List.not_mem_nil
  next v _ =>
    obtain ⟨as, here, rfl⟩ := map_eq_ok found
    exact h.list _ as here

theorem Rereads.list (h : Rereads read write) :
    Rereads (Value.readList read) fun as => .ofList (as.map write) :=
  fun v as found => readList_ofList (Ensures.list h v as found)

theorem Rereads.optionalList (h : Rereads read write) :
    Rereads (Value.readOptionalList read) fun o => o.elim .null fun as => .ofList
      (as.map write) := by
  intro v o found
  unfold Value.readOptionalList at found
  split at found
  next =>
    cases found
    rfl
  next v _ =>
    obtain ⟨as, here, rfl⟩ := map_eq_ok found
    exact congrArg (Checked.map some) (h.list _ as here)

end

/-! ### Fields -/

section

variable {es : List (Key × Value)} {fields : List (String × Value)} {name : String}
  {names others : List String} {read : Value → Checked α} {write : α → Value} {a absent : α}

/-- A field that must be there is read just if it is there and holds what can be read. -/
theorem exists_requiredField_iff : (∃ a, requiredField es names read = .ok a) ↔
    ∃ name v, findField es names = some (name, v) ∧ ∃ a, read v = .ok a := by
  unfold requiredField
  split
  next name v found =>
    simp only [Checked.inside_eq_ok, found, Option.some.injEq, Prod.mk.injEq,
      ↓existsAndEq, true_and]
  next none => simp [Checked.complain, Checked.inside, none]

/-- A field that may be left out is read just if it holds nothing that cannot be read. -/
theorem exists_optionalField_iff : (∃ a, optionalField es names absent read = .ok a) ↔
    ∀ name v, findField es names = some (name, v) → ∃ a, read v = .ok a := by
  unfold optionalField
  split
  next name v found =>
    rw [found]
    simp only [Checked.inside_eq_ok]
    exact ⟨fun here _ _ same => by cases same; exact here, fun each => each name v rfl⟩
  next none => exact iff_of_true ⟨absent, rfl⟩ (by simp [none])

/-- A field that may be left out has a property if its default does. -/
theorem Ensures.optional {P : α → Prop} (h : Ensures read P) (default : P absent)
    (found : optionalField es names absent read = .ok a) : P a := by
  rw [optionalField] at found
  split at found
  next v _ => exact h v a (Checked.inside_eq_ok.mp found)
  next =>
    cases found
    exact default

theorem findField_keyed {v : Value} (there : fields.lookup name = some v) (names : List String) :
    findField (keyed fields) (name :: names) = some (name, v) := by
  rw [findField, get?_keyed, there]

/-- A field that must be there is found again under its first name. -/
theorem Rereads.required (h : Rereads read write) (found : requiredField es names read = .ok a)
    (there : fields.lookup name = some (write a)) :
    requiredField (keyed fields) (name :: others) read = .ok a := by
  have again : read (write a) = .ok a := by
    rw [requiredField] at found
    split at found
    next v _ => exact h v a (Checked.inside_eq_ok.mp found)
    next => cases found
  rw [requiredField, findField_keyed there]
  exact Checked.inside_eq_ok.mpr again

/-- A field that was left out is written with its default, and found again too. -/
theorem Rereads.optional (h : Rereads read write) (left : read (write absent) = .ok absent)
    (found : optionalField es names absent read = .ok a)
    (there : fields.lookup name = some (write a)) :
    optionalField (keyed fields) (name :: others) absent read = .ok a := by
  have again : read (write a) = .ok a :=
    Ensures.optional (P := fun a => read (write a) = .ok a) h left found
  rw [optionalField, findField_keyed there]
  exact Checked.inside_eq_ok.mpr again

end

/-! ### Kept entries -/

/-- No kept entry bears the first name of a field. -/
def Unclaimed (specs : List (List String)) (extras : List (String × Value)) : Prop :=
  ∀ e ∈ extras, ∀ names ∈ specs, names.head? ≠ some e.1

theorem mem_of_mem_texts {es : List (Key × Value)} {e : String × Value}
    (mem : e ∈ Entries.texts es) : (.str e.1, e.2) ∈ es := by
  induction es with
  | nil => simp [Entries.texts] at mem
  | cons f es ih =>
    obtain ⟨k, v⟩ := f
    cases k with
    | str s =>
      rw [Entries.texts] at mem
      rcases List.mem_cons.mp mem with rfl | later
      · exact List.mem_cons_self
      · exact List.mem_cons_of_mem _ (ih later)
    | _ => exact List.mem_cons_of_mem _ (ih mem)

theorem exists_get?_of_mem {es : List (Key × Value)} {s : String} {v : Value}
    (mem : (.str s, v) ∈ es) : ∃ w, Entries.get? (.str s) es = some w := by
  induction es with
  | nil => simp at mem
  | cons f es ih =>
    obtain ⟨k, w⟩ := f
    rw [Entries.get?]
    by_cases here : k.same (.str s) = true
    · exact ⟨w, if_pos here⟩
    · rw [if_neg here]
      rcases List.mem_cons.mp mem with same | later
      · cases same
        simp at here
      · exact ih later

theorem unclaimed_of_readExtras {es : List (Key × Value)} {specs : List (List String)}
    {extras : List (String × Value)} (h : readExtras es specs = .ok extras) :
    Unclaimed specs extras := by
  rw [readExtras] at h
  split at h
  next =>
    cases h
    intro e mem names spec first
    have kept := mem_of_mem_texts mem
    rw [extraEntries, List.mem_filter] at kept
    obtain ⟨w, there⟩ := exists_get?_of_mem kept.1
    have found : findField es names = some (e.1, w) := by
      obtain ⟨rest, rfl⟩ : ∃ rest, names = e.1 :: rest := by
        cases names with
        | nil => simp at first
        | cons name rest =>
          cases first
          exact ⟨rest, rfl⟩
      rw [findField, there]
    have taken : e.1 ∈ specs.filterMap fun names => (findField es names).map (·.1) :=
      List.mem_filterMap.mpr ⟨names, spec, by rw [found]; rfl⟩
    simp [taken] at kept
  next => cases h

/-- The names that the fields take are their first names, where all of these are there. -/
theorem taken_eq {fields declared : List (String × Value)} {specs : List (List String)}
    (declares : specs.map List.head? = declared.map (some ·.1))
    (there : ∀ d ∈ declared, ∃ v, fields.lookup d.1 = some v) :
    (specs.filterMap fun names => (findField (keyed fields) names).map (·.1)) =
      declared.map (·.1) := by
  induction specs generalizing declared with
  | nil =>
    cases declared with
    | nil => rfl
    | cons d declared => cases declares
  | cons names specs ih =>
    cases declared with
    | nil => cases declares
    | cons d declared =>
      rw [List.map_cons, List.map_cons, List.cons.injEq] at declares
      obtain ⟨rest, rfl⟩ : ∃ rest, names = d.1 :: rest := List.head?_eq_some_iff.mp declares.1
      obtain ⟨v, found⟩ := there d List.mem_cons_self
      rw [List.filterMap_cons, findField_keyed found,
        ih declares.2 fun d mem => there d (List.mem_cons_of_mem _ mem)]
      rfl

theorem exists_lookup_of_mem {fields : List (String × Value)} {e : String × Value}
    (mem : e ∈ fields) : ∃ v, fields.lookup e.1 = some v := by
  have inside : (.str e.1, e.2) ∈ keyed fields := mem_keyed.mpr ⟨e.1, rfl, mem⟩
  obtain ⟨v, found⟩ := exists_get?_of_mem inside
  exact ⟨v, (get?_keyed e.1 fields).symm.trans found⟩

/-- Under a name stands what the field of that name holds. -/
theorem mem_of_get?_keyed {fields : List (String × Value)} {name : String} {v : Value}
    (found : Entries.get? (.str name) (keyed fields) = some v) : (name, v) ∈ fields := by
  rw [get?_keyed] at found
  obtain ⟨before, after, rfl, -⟩ := List.lookup_eq_some_iff.1 found
  simp

theorem get?_keyed_of_mem {fields : List (String × Value)} (names : (fields.map (·.1)).Nodup)
    {f : String × Value} (member : f ∈ fields) :
    Entries.get? (.str f.1) (keyed fields) = some f.2 := by
  obtain ⟨w, found⟩ := exists_lookup_of_mem member
  rw [← get?_keyed] at found
  rw [found, List.inj_on_of_nodup_map names member (mem_of_get?_keyed found) rfl]

/-- The kept entries are the same again. -/
theorem readExtras_keyed {declared extras : List (String × Value)} {specs : List (List String)}
    (declares : specs.map List.head? = declared.map (some ·.1))
    (unclaimed : Unclaimed specs extras) :
    readExtras (keyed (declared ++ extras)) specs = .ok extras := by
  have taken := taken_eq declares fun d mem =>
    exists_lookup_of_mem (List.mem_append_left extras mem)
  have others : ∀ e ∈ extras, e.1 ∉ declared.map (·.1) := by
    intro e mem bears
    obtain ⟨d, declaredMem, same⟩ := List.mem_map.mp bears
    have first : some e.1 ∈ specs.map List.head? := by
      rw [declares, ← same]
      exact List.mem_map_of_mem declaredMem
    obtain ⟨names, spec, named⟩ := List.mem_map.mp first
    exact unclaimed e mem names spec named
  have kept : extraEntries (keyed (declared ++ extras)) specs = keyed extras := by
    have split : keyed (declared ++ extras) = keyed declared ++ keyed extras := List.map_append
    simp only [extraEntries]
    rw [taken, split, List.filter_append, List.filter_eq_nil_iff.mpr, List.filter_eq_self.mpr,
      List.nil_append]
    · rintro ⟨k, v⟩ mem
      obtain ⟨s, rfl, inner⟩ := mem_keyed.mp mem
      simpa using others _ inner
    · rintro ⟨k, v⟩ mem
      obtain ⟨s, rfl, inner⟩ := mem_keyed.mp mem
      simpa using ⟨v, inner⟩
  rw [readExtras]
  simp only [kept]
  rw [keyComplaints_keyed fun _ => rfl, texts_keyed]

/-! ### Records -/

section

variable {read : List (Key × Value) → Checked α}

theorem exists_of_readRecord {v : Value} {a : α} (h : v.readRecord read = .ok a) :
    ∃ es, read es = .ok a := by
  cases v with
  | map m es => exact ⟨_, h⟩
  | _ => cases h

theorem readRecord_object (fields : List (String × Value)) :
    (Value.object fields).readRecord read = read (keyed fields) :=
  congrArg read (Value.entries_zero _)

end

end SceneCourse
