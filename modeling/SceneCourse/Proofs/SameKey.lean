import SceneCourse.Value.Basic

/-! Keys that name the same entry. Two keys are the same when they name one thing; what is not a
number names nothing unless it is marked, and such a key is not even the same as itself. Proved, for
keys of every sort: what stands under a key after an entry was written or the entries of a key were
dropped, and that neither leads to two entries of one name. -/

namespace SceneCourse

namespace Key

/-- What a key can name. -/
inductive Named where
  | null
  | number (x : Binary64.Extended)
  | text (s : String)
  | day (d : Day)
  /-- A time on an unknown clock. -/
  | clock (d : Day) (t : DayTime)
  /-- A time on the common clock. -/
  | instant (ticks : Int)
  | bytes (bs : List UInt8)
  /-- What is not a number, by its mark. -/
  | notNumber (mark : Nat)

def named? : Key → Option Named
  | .null => some .null
  | .bool b => some (.number (.at (if b then 1 else 0)))
  | .int n => some (.number (.at n))
  | .float (.nan n) => if n = 0 then none else some (.notNumber n)
  | .float x => x.extended?.map .number
  | .str s => some (.text s)
  | .moment (.day d) => some (.day d)
  | .moment (.time d t none) => some (.clock d t)
  | .moment (.time d t (some offset)) => some (.instant (Moment.ticks d t - offset * 60000000))
  | .bytes bs => some (.bytes bs)

variable {k l m : Key}

theorem same_iff : k.same l = true ↔ k.named? ≠ none ∧ k.named? = l.named? := by
  rcases k with _ | _ | _ | (_ | (_ | _) | _) | _ | (_ | ⟨_, _, _ | _⟩) | _ <;>
    rcases l with _ | _ | _ | (_ | (_ | _) | _) | _ | (_ | ⟨_, _, _ | _⟩) | _ <;>
    simp [same, named?, number?, Binary64.extended?, Moment.same]
  rename_i a b
  by_cases unmarked : a = 0 <;> by_cases unmarked' : b = 0 <;> simp_all

theorem same_comm : k.same l = l.same k := by
  rw [Bool.eq_iff_iff, same_iff, same_iff]
  constructor
  · rintro ⟨names, same⟩
    exact ⟨same ▸ names, same.symm⟩
  · rintro ⟨names, same⟩
    exact ⟨same ▸ names, same.symm⟩

theorem same_left (h : k.same l = true) : k.same m = l.same m := by
  obtain ⟨-, same⟩ := same_iff.1 h
  rw [Bool.eq_iff_iff, same_iff, same_iff, same]

theorem same_right (h : k.same l = true) : m.same k = m.same l := by
  rw [same_comm, same_left h, same_comm]

end Key

namespace Entries

variable {α : Type} {k l : Key} {v : α} {es : Entries α}

theorem get?_of_same (h : k.same l = true) : es.get? k = es.get? l := by
  induction es with
  | nil => rfl
  | cons e es ih => rw [get?, get?, Key.same_right h, ih]

theorem get?_eq_none (h : ∀ e ∈ es, e.1.same k = false) : es.get? k = none := by
  induction es with
  | nil => rfl
  | cons e es ih =>
    rw [get?, if_neg (by simp [h e List.mem_cons_self]),
      ih fun f hf => h f (List.mem_cons_of_mem e hf)]

/-- What stands under a key after an entry was written. -/
theorem get?_set : (es.set k v).get? l = if k.same l then some v else es.get? l := by
  induction es with
  | nil => simp [set, get?]
  | cons e es ih =>
    obtain ⟨m, w⟩ := e
    by_cases here : m.same k = true
    · have alike : m.same l = k.same l := Key.same_left here
      by_cases asked : k.same l = true <;> simp [set, get?, here, alike, asked]
    · by_cases asked : k.same l = true
      · have other : m.same l = false := by
          rw [← Key.same_right asked]
          exact Bool.eq_false_iff.2 here
        simp [set, get?, here, ih, asked, other]
      · simp [set, get?, here, ih, asked]

/-- What stands under a key after the entries of a key were dropped. -/
theorem get?_drop :
    get? l (es.filter fun (m, _) => !m.same k) = if k.same l then none else es.get? l := by
  induction es with
  | nil => simp [get?]
  | cons e es ih =>
    obtain ⟨m, w⟩ := e
    by_cases here : m.same k = true
    · have alike : m.same l = k.same l := Key.same_left here
      by_cases asked : k.same l = true <;> simp [get?, here, alike, ih, asked]
    · by_cases asked : k.same l = true
      · have other : m.same l = false := by
          rw [← Key.same_right asked]
          exact Bool.eq_false_iff.2 here
        simp [get?, here, ih, asked, other]
      · simp [get?, here, ih, asked]

/-! ### No name twice -/

/-- No two entries are named the same. -/
def Separate (es : Entries α) : Prop := es.Pairwise fun e f => e.1.same f.1 = false

/-- An entry that stands there after a writing has the new value, or has been there. -/
theorem mem_set {e : Key × α} (h : e ∈ es.set k v) : e.2 = v ∨ e ∈ es := by
  induction es with
  | nil => exact Or.inl (congrArg Prod.snd (List.mem_singleton.1 h))
  | cons f es ih =>
    rw [set] at h
    split at h
    next =>
      rcases List.mem_cons.1 h with rfl | later
      · exact Or.inl rfl
      · exact Or.inr (List.mem_cons_of_mem f later)
    next =>
      rcases List.mem_cons.1 h with rfl | later
      · exact Or.inr List.mem_cons_self
      · exact (ih later).imp_right (List.mem_cons_of_mem f)

/-- A written entry is one that was there, with a new value, or a new one under its key. -/
theorem key_of_mem_set {e : Key × α} (h : e ∈ es.set k v) : e.1 = k ∨ ∃ f ∈ es, f.1 = e.1 := by
  induction es with
  | nil =>
    obtain rfl := List.mem_singleton.1 h
    exact Or.inl rfl
  | cons f es ih =>
    rw [set] at h
    split at h
    next =>
      rcases List.mem_cons.1 h with rfl | later
      · exact Or.inr ⟨f, List.mem_cons_self, rfl⟩
      · exact Or.inr ⟨e, List.mem_cons_of_mem f later, rfl⟩
    next =>
      rcases List.mem_cons.1 h with rfl | later
      · exact Or.inr ⟨_, List.mem_cons_self, rfl⟩
      · refine (ih later).imp_right ?_
        rintro ⟨g, member, same⟩
        exact ⟨g, List.mem_cons_of_mem f member, same⟩

theorem Separate.set (h : es.Separate) : (es.set k v).Separate := by
  induction es with
  | nil => exact List.pairwise_singleton _ _
  | cons f es ih =>
    obtain ⟨apart, later⟩ := List.pairwise_cons.1 h
    rw [Entries.set]
    split
    next => exact List.pairwise_cons.2 ⟨apart, later⟩
    next other =>
      refine List.pairwise_cons.2 ⟨fun e member => ?_, ih later⟩
      rcases key_of_mem_set member with new | ⟨g, old, same⟩
      · rw [new]
        exact Bool.eq_false_iff.2 other
      · rw [← same]
        exact apart g old

theorem Separate.drop (h : es.Separate) : Separate (es.filter fun (m, _) => !m.same k) := h.filter _

end Entries

end SceneCourse
