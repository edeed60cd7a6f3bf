import SceneCourse.State.Store

/-! The marks of containers. Copies draw all their marks from the counter. What holds no container
with the mark of an edit is left alone by it, and an edit brings in nothing but what it puts in
place. -/

namespace SceneCourse

open Value (Edit)

theorem Key.next_le_copy (next : Nat) (k : Key) : next ≤ (k.copy next).2 := by
  unfold copy
  split <;> simp

namespace Value

mutual

/-- The marks of all containers in a value. -/
def marks : Value → List Nat
  | pair a b => marks a ++ marks b
  | list m xs => m :: marksItems xs
  | map m es => m :: marksEntries es
  | _ => []

def marksItems : List Value → List Nat
  | [] => []
  | x :: xs => marks x ++ marksItems xs

def marksEntries : List (Key × Value) → List Nat
  | [] => []
  | (_, v) :: es => marks v ++ marksEntries es

end

def isMapping : Value → Bool
  | map _ _ => true
  | _ => false

theorem marks_subset_marksEntries {e : Key × Value} {es : List (Key × Value)} (h : e ∈ es) :
    marks e.2 ⊆ marksEntries es := by
  induction es with
  | nil => cases h
  | cons f es ih =>
    intro m hm
    rcases List.mem_cons.1 h with rfl | later
    · exact List.mem_append_left _ hm
    · exact List.mem_append_right _ (ih later hm)

theorem mem_marksEntries_set {k : Key} {v : Value} {es : List (Key × Value)} {m : Nat}
    (h : m ∈ marksEntries (Entries.set k v es)) : m ∈ marks v ∨ m ∈ marksEntries es := by
  induction es with
  | nil => simpa [Entries.set, marksEntries] using h
  | cons e es ih =>
    obtain ⟨l, w⟩ := e
    rw [Entries.set] at h
    split at h
    next same =>
      rcases List.mem_append.1 h with here | there
      · exact Or.inl here
      · exact Or.inr (List.mem_append_right _ there)
    next other =>
      rcases List.mem_append.1 h with here | there
      · exact Or.inr (List.mem_append_left _ here)
      · exact (ih there).imp_right (List.mem_append_right _)

theorem exists_of_get? {k : Key} {v : Value} {es : List (Key × Value)}
    (h : Entries.get? k es = some v) : ∃ l, (l, v) ∈ es := by
  induction es with
  | nil => cases h
  | cons e es ih =>
    obtain ⟨l, w⟩ := e
    rw [Entries.get?] at h
    split at h
    next =>
      obtain rfl := Option.some.inj h
      exact ⟨l, List.mem_cons_self⟩
    next =>
      obtain ⟨l', member⟩ := ih h
      exact ⟨l', List.mem_cons_of_mem _ member⟩

theorem marks_subset_of_get? {k : Key} {v : Value} {es : List (Key × Value)}
    (h : Entries.get? k es = some v) : marks v ⊆ marksEntries es := by
  obtain ⟨l, member⟩ := exists_of_get? h
  exact marks_subset_marksEntries member

/-! ### Edits -/

mutual

/-- An edit changes nothing in a value that does not hold the edited container. -/
theorem follow_eq_self (e : Edit) (v : Value) (h : e.mark ∈ marks v → e.mark = 0) :
    follow e v = v := by
  cases v with
  | pair a b =>
    rw [follow, follow_eq_self e a fun ha => h (List.mem_append_left _ ha),
      follow_eq_self e b fun hb => h (List.mem_append_right _ hb)]
  | list m xs =>
    have other : ¬(m = e.mark ∧ m ≠ 0) := by
      rintro ⟨rfl, marked⟩
      exact marked (h List.mem_cons_self)
    rw [follow, if_neg other, followItems_eq_self e xs fun hx => h (List.mem_cons_of_mem _ hx)]
  | map m es =>
    have other : ¬(m = e.mark ∧ m ≠ 0) := by
      rintro ⟨rfl, marked⟩
      exact marked (h List.mem_cons_self)
    rw [follow, if_neg other, followEntries_eq_self e es fun hx => h (List.mem_cons_of_mem _ hx)]
  | _ => rfl

theorem followItems_eq_self (e : Edit) (xs : List Value) (h : e.mark ∈ marksItems xs → e.mark = 0) :
    followItems e xs = xs := by
  cases xs with
  | nil => rfl
  | cons x xs =>
    rw [followItems, follow_eq_self e x fun hx => h (List.mem_append_left _ hx),
      followItems_eq_self e xs fun hx => h (List.mem_append_right _ hx)]

theorem followEntries_eq_self (e : Edit) (es : List (Key × Value))
    (h : e.mark ∈ marksEntries es → e.mark = 0) : followEntries e es = es := by
  cases es with
  | nil => rfl
  | cons f es =>
    rw [followEntries, follow_eq_self e f.2 fun hx => h (List.mem_append_left _ hx),
      followEntries_eq_self e es fun hx => h (List.mem_append_right _ hx)]

end

theorem followAll_eq_self {edits : List Edit} {v : Value}
    (h : ∀ e ∈ edits, e.mark ∈ marks v → e.mark = 0) : followAll edits v = v := by
  induction edits with
  | nil => rfl
  | cons e edits ih =>
    rw [followAll, List.foldl_cons, follow_eq_self e v (h e List.mem_cons_self)]
    exact ih fun e' he' => h e' (List.mem_cons_of_mem e he')

/-- An edit that puts a mapping in the place of a mapping leaves every mapping a mapping with its
mark. -/
theorem follow_map {e : Edit} (now : ∃ gs, e.now = .map e.mark gs) (m : Nat)
    (es : List (Key × Value)) : ∃ fs, follow e (.map m es) = .map m fs := by
  obtain ⟨gs, now⟩ := now
  by_cases edited : m = e.mark ∧ m ≠ 0
  · exact ⟨gs, by rw [follow, if_pos edited, now, edited.1]⟩
  · exact ⟨_, by rw [follow, if_neg edited]⟩

mutual

/-- An edit brings in no containers but those of what it puts in place. -/
theorem marks_follow (e : Edit) (v : Value) {m : Nat} (h : m ∈ marks (follow e v)) :
    m ∈ marks v ∨ e.mark ∈ marks v ∧ m ∈ marks e.now := by
  cases v with
  | pair a b =>
    rw [follow] at h
    simp only [marks, List.mem_append] at h ⊢
    rcases h with here | there
    · exact (marks_follow e a here).imp Or.inl (And.imp_left Or.inl)
    · exact (marks_follow e b there).imp Or.inr (And.imp_left Or.inr)
  | list n xs =>
    rw [follow] at h
    split at h
    next edited => exact Or.inr ⟨edited.1 ▸ List.mem_cons_self, h⟩
    next =>
      simp only [marks, List.mem_cons] at h ⊢
      rcases h with rfl | inner
      · exact Or.inl (Or.inl rfl)
      · exact (marks_followItems e xs inner).imp Or.inr (And.imp_left Or.inr)
  | map n es =>
    rw [follow] at h
    split at h
    next edited => exact Or.inr ⟨edited.1 ▸ List.mem_cons_self, h⟩
    next =>
      simp only [marks, List.mem_cons] at h ⊢
      rcases h with rfl | inner
      · exact Or.inl (Or.inl rfl)
      · exact (marks_followEntries e es inner).imp Or.inr (And.imp_left Or.inr)
  | _ => exact Or.inl h

theorem marks_followItems (e : Edit) (xs : List Value) {m : Nat}
    (h : m ∈ marksItems (followItems e xs)) :
    m ∈ marksItems xs ∨ e.mark ∈ marksItems xs ∧ m ∈ marks e.now := by
  cases xs with
  | nil => exact Or.inl h
  | cons x xs =>
    simp only [followItems, marksItems, List.mem_append] at h ⊢
    rcases h with here | there
    · exact (marks_follow e x here).imp Or.inl (And.imp_left Or.inl)
    · exact (marks_followItems e xs there).imp Or.inr (And.imp_left Or.inr)

theorem marks_followEntries (e : Edit) (es : List (Key × Value)) {m : Nat}
    (h : m ∈ marksEntries (followEntries e es)) :
    m ∈ marksEntries es ∨ e.mark ∈ marksEntries es ∧ m ∈ marks e.now := by
  cases es with
  | nil => exact Or.inl h
  | cons f es =>
    simp only [followEntries, marksEntries, List.mem_append] at h ⊢
    rcases h with here | there
    · exact (marks_follow e f.2 here).imp Or.inl (And.imp_left Or.inl)
    · exact (marks_followEntries e es there).imp Or.inr (And.imp_left Or.inr)

end

/-! ### Copies -/

mutual

/-- The marks of a copy are new. -/
theorem marks_copy (next : Nat) (v : Value) :
    next ≤ (copy next v).2 ∧ ∀ m ∈ marks (copy next v).1, next ≤ m ∧ m < (copy next v).2 := by
  cases v with
  | float x =>
    unfold copy
    split <;> simp_all [marks]
  | pair a b =>
    have left := marks_copy next a
    have right := marks_copy (copy next a).2 b
    simp only [copy, marks, List.mem_append]
    refine ⟨by omega, ?_⟩
    rintro m (hm | hm)
    · have := left.2 m hm
      omega
    · have := right.2 m hm
      omega
  | list m xs =>
    have inner := marks_copyItems (next + 1) xs
    simp only [copy, marks, List.mem_cons]
    refine ⟨by omega, ?_⟩
    rintro n (rfl | hn)
    · omega
    · have := inner.2 n hn
      omega
  | map m es =>
    have inner := marks_copyEntries (next + 1) es
    simp only [copy, marks, List.mem_cons]
    refine ⟨by omega, ?_⟩
    rintro n (rfl | hn)
    · omega
    · have := inner.2 n hn
      omega
  | _ => exact ⟨Nat.le_refl _, by simp [copy, marks]⟩

theorem marks_copyItems (next : Nat) (xs : List Value) :
    next ≤ (copyItems next xs).2 ∧ ∀ m ∈ marksItems (copyItems next xs).1, next ≤ m ∧
      m < (copyItems next xs).2 := by
  cases xs with
  | nil => exact ⟨Nat.le_refl _, by simp [copyItems, marksItems]⟩
  | cons x xs =>
    have first := marks_copy next x
    have others := marks_copyItems (copy next x).2 xs
    simp only [copyItems, marksItems, List.mem_append]
    refine ⟨by omega, ?_⟩
    rintro m (hm | hm)
    · have := first.2 m hm
      omega
    · have := others.2 m hm
      omega

theorem marks_copyEntries (next : Nat) (es : List (Key × Value)) :
    next ≤ (copyEntries next es).2 ∧
      ∀ m ∈ marksEntries (copyEntries next es).1, next ≤ m ∧ m < (copyEntries next es).2 := by
  cases es with
  | nil => exact ⟨Nat.le_refl _, by simp [copyEntries, marksEntries]⟩
  | cons e es =>
    obtain ⟨k, v⟩ := e
    have key := Key.next_le_copy next k
    have first := marks_copy (k.copy next).2 v
    have others := marks_copyEntries (copy (k.copy next).2 v).2 es
    simp only [copyEntries, marksEntries, List.mem_append]
    refine ⟨by omega, ?_⟩
    rintro m (hm | hm)
    · have := first.2 m hm
      omega
    · have := others.2 m hm
      omega

end

theorem copyTied_float (c : Copying) (x : Binary64) : copyTied c (float x) =
    (((Key.float x).copy c.next).1.value, ⟨((Key.float x).copy c.next).2, c.given⟩) := by
  cases x with
  | nan n => cases n <;> rfl
  | _ => rfl

theorem le_markFor (c : Copying) (m : Nat) : c.next ≤ (c.markFor m).2.next := by
  rw [Copying.markFor]
  split
  next => exact Nat.le_refl _
  next => exact Nat.le_succ _

mutual

theorem le_copyTied (c : Copying) (v : Value) : c.next ≤ (copyTied c v).2.next := by
  cases v with
  | float x =>
    rw [copyTied_float]
    exact Key.next_le_copy c.next (.float x)
  | pair a b => exact Nat.le_trans (le_copyTied c a) (le_copyTied _ b)
  | list m xs => exact Nat.le_trans (le_markFor c m) (le_copyTiedItems _ xs)
  | map m es => exact Nat.le_trans (le_markFor c m) (le_copyTiedEntries _ es)
  | again m b => exact le_markFor c m
  | _ => exact Nat.le_refl _

theorem le_copyTiedItems (c : Copying) (xs : List Value) :
    c.next ≤ (copyTiedItems c xs).2.next := by
  cases xs with
  | nil => exact Nat.le_refl _
  | cons x xs => exact Nat.le_trans (le_copyTied c x) (le_copyTiedItems _ xs)

theorem le_copyTiedEntries (c : Copying) (es : List (Key × Value)) :
    c.next ≤ (copyTiedEntries c es).2.next := by
  cases es with
  | nil => exact Nat.le_refl _
  | cons e es =>
    have named := Key.next_le_copy c.next e.1
    exact Nat.le_trans named (Nat.le_trans (le_copyTied ⟨(e.1.copy c.next).2, c.given⟩ e.2)
      (le_copyTiedEntries _ es))

end

end Value

end SceneCourse
