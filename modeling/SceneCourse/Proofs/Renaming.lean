import SceneCourse.Proofs.Marks
import SceneCourse.State.Truth

/-! Other marks. The marks of containers, and the names of what is not a number, only say which of
them are the same. Here they are all moved up, except the mark 0, no name, and the two names under
which readers hand out what is not a number. Proved: whatever is asked of values comes out as
before, with marks moved up where there are any; and a store that draws its marks from a counter
that is as much ahead stays ahead by so much, whatever is done to it. -/

namespace SceneCourse

variable {k : Nat}

def markUp (k m : Nat) : Nat := if m = 0 then 0 else m + k

/-- A name moved up, unless it is none or one that readers share. -/
def nameUp (k n : Nat) : Nat := if n ≤ 2 then n else n + k

@[simp] theorem markUp_zero (k : Nat) : markUp k 0 = 0 := rfl

@[simp] theorem markUp_eq_zero {m : Nat} : markUp k m = 0 ↔ m = 0 := by
  unfold markUp
  split <;> omega

@[simp] theorem markUp_inj {m n : Nat} : markUp k m = markUp k n ↔ m = n := by
  unfold markUp
  split <;> split <;> omega

@[simp] theorem markUp_beq {m n : Nat} : (markUp k m == markUp k n) = (m == n) := by
  rw [Bool.eq_iff_iff, beq_iff_eq, beq_iff_eq, markUp_inj]

@[simp] theorem contains_map_markUp {m : Nat} {ms : List Nat} :
    (ms.map (markUp k)).contains (markUp k m) = ms.contains m := by
  rw [Bool.eq_iff_iff]
  simp

theorem markUp_markUp (j m : Nat) : markUp k (markUp j m) = markUp (j + k) m := by
  by_cases none : m = 0
  · rw [none, markUp_zero, markUp_zero, markUp_zero]
  · rw [markUp, markUp, markUp, if_neg none, if_neg none, if_neg (by omega), Nat.add_assoc]

theorem markUp_of_pos {m : Nat} (positive : 0 < m) : markUp k m = m + k :=
  if_neg (Nat.ne_of_gt positive)

theorem markUp_add {m : Nat} (positive : 0 < m) (i : Nat) : markUp k (m + i) = m + k + i := by
  rw [markUp_of_pos (Nat.add_pos_left positive i), Nat.add_right_comm]

@[simp] theorem nameUp_zero (k : Nat) : nameUp k 0 = 0 := rfl

@[simp] theorem nameUp_eq_zero {n : Nat} : nameUp k n = 0 ↔ n = 0 := by
  unfold nameUp
  split <;> omega

@[simp] theorem nameUp_inj {m n : Nat} : nameUp k m = nameUp k n ↔ m = n := by
  unfold nameUp
  split <;> split <;> omega

@[simp] theorem nameUp_beq {m n : Nat} : (nameUp k m == nameUp k n) = (m == n) := by
  rw [Bool.eq_iff_iff, beq_iff_eq, beq_iff_eq, nameUp_inj]

@[simp] theorem nameUp_bne_zero {n : Nat} : (nameUp k n != 0) = (n != 0) := by
  rw [Bool.eq_iff_iff, bne_iff_ne, bne_iff_ne, Ne, nameUp_eq_zero]

theorem nameUp_nameUp (j n : Nat) : nameUp k (nameUp j n) = nameUp (j + k) n := by
  by_cases shared : n ≤ 2
  · simp only [nameUp, if_pos shared]
  · rw [nameUp, nameUp, nameUp, if_neg shared, if_neg shared, if_neg (by omega), Nat.add_assoc]

theorem nameUp_of_two_lt {n : Nat} (later : 2 < n) : nameUp k n = n + k :=
  if_neg (Nat.not_le_of_gt later)

/-! ### Numbers and keys -/

namespace Binary64

def renamed (k : Nat) : Binary64 → Binary64
  | nan n => nan (nameUp k n)
  | x => x

variable (x y : Binary64)

@[simp] theorem nameless_renamed : (x.renamed k).nameless = x.nameless := by cases x <;> rfl
@[simp] theorem isZero_renamed : (x.renamed k).isZero = x.isZero := by cases x <;> rfl
@[simp] theorem toRat?_renamed : (x.renamed k).toRat? = x.toRat? := by cases x <;> rfl
@[simp] theorem toInt?_renamed : (x.renamed k).toInt? = x.toInt? := by cases x <;> rfl
@[simp] theorem extended?_renamed : (x.renamed k).extended? = x.extended? := by cases x <;> rfl
@[simp] theorem text_renamed : (x.renamed k).text = x.text := by cases x <;> rfl
@[simp] theorem add_renamed_left : (x.renamed k).add y = x.add y := by cases x <;> cases y <;> rfl

theorem renamed_renamed (j : Nat) : (x.renamed j).renamed k = x.renamed (j + k) := by
  cases x <;> simp [renamed, nameUp_nameUp]

theorem renamed_ofRat (q : Rat) : (ofRat q).renamed k = ofRat q := by
  simp only [ofRat, ofQuotient]
  split
  next => rfl
  next => split <;> split <;> rfl

/-- What sums give that is not a number has no name. -/
theorem renamed_add : (x.add y).renamed k = x.add y := by
  unfold add
  split
  all_goals first | rfl | exact renamed_ofRat _ | (split <;> rfl)

@[simp] theorem isSameNaN_renamed : (x.renamed k).isSameNaN (y.renamed k) = x.isSameNaN y := by
  cases x <;> cases y <;> simp [renamed, isSameNaN]

@[simp] theorem chars_renamed (style : FloatStyle) : style.chars (x.renamed k) = style.chars x :=
  by cases x <;> rfl

@[simp] theorem FloatStyle.text_renamed (style : FloatStyle) :
    style.text (x.renamed k) = style.text x := by
  cases x <;> rfl

end Binary64

namespace Key

def renamed (k : Nat) : Key → Key
  | float x => float (x.renamed k)
  | l => l

@[simp] theorem plain_renamed (l : Key) : (l.renamed k).plain = l.plain := by
  cases l <;> simp [renamed, plain]

theorem renamed_renamed (j : Nat) (l : Key) : (l.renamed j).renamed k = l.renamed (j + k) := by
  cases l <;> simp [renamed, Binary64.renamed_renamed]

@[simp] theorem same_renamed (l m : Key) : (l.renamed k).same (m.renamed k) = l.same m := by
  cases l with
  | float x =>
    cases m with
    | float y =>
      cases x <;> cases y <;> simp [renamed, Binary64.renamed, same, number?, Binary64.extended?]
    | _ => cases x <;> rfl
  | _ =>
    cases m with
    | float y => cases y <;> rfl
    | _ => rfl

@[simp] theorem same_str_renamed (l : Key) (s : String) :
    (l.renamed k).same (.str s) = l.same (.str s) :=
  same_renamed l (.str s)

@[simp] theorem literal_renamed (l : Key) : (l.renamed k).literal = l.literal :=
  by cases l <;> simp [renamed, literal]
@[simp] theorem isLong_renamed (l : Key) : (l.renamed k).isLong = l.isLong := by cases l <;> rfl
@[simp] theorem recordText_renamed (l : Key) : (l.renamed k).recordText = l.recordText := by
  cases l <;> simp [renamed, recordText]

theorem copy_renamed {next : Nat} (later : 2 < next) (l : Key) :
    (l.renamed k).copy (next + k) = ((l.copy next).1.renamed k, (l.copy next).2 + k) := by
  cases l with
  | float x =>
    cases x with
    | nan n =>
      cases n with
      | zero => simp [renamed, Binary64.renamed, copy, nameUp_of_two_lt later, Nat.add_right_comm]
      | succ n =>
        have named : nameUp k (n + 1) ≠ 0 := by simp
        generalize moved : nameUp k (n + 1) = m at named
        obtain ⟨m, rfl⟩ := Nat.exists_eq_succ_of_ne_zero named
        simp [renamed, Binary64.renamed, copy, moved]
    | _ => rfl
  | _ => rfl

end Key

/-! ### Entries -/

def Entries.renamed {α : Type} (k : Nat) (f : α → α) (es : Entries α) : Entries α :=
  es.map fun e => (e.1.renamed k, f e.2)

namespace Entries

variable {α : Type} {f : α → α}

@[simp] theorem get?_renamed (l : Key) (es : Entries α) :
    Entries.get? (l.renamed k) (es.renamed k f) = (es.get? l).map f := by
  induction es with
  | nil => rfl
  | cons e es ih =>
    rw [renamed, List.map_cons, get?, get?, Key.same_renamed]
    split
    next => rfl
    next => exact ih

@[simp] theorem set_renamed (l : Key) (v : α) (es : Entries α) :
    Entries.set (l.renamed k) (f v) (es.renamed k f) = (es.set l v).renamed k f := by
  induction es with
  | nil => rfl
  | cons e es ih =>
    rw [renamed, List.map_cons, set, set, Key.same_renamed]
    split
    next => rfl
    next => exact congrArg _ ih

@[simp] theorem setAll_renamed (news es : Entries α) :
    Entries.setAll (news.renamed k f) (es.renamed k f) = (setAll news es).renamed k f := by
  induction news generalizing es with
  | nil => rfl
  | cons e news ih =>
    show setAll (renamed k f news) (Entries.set (e.1.renamed k) (f e.2) (es.renamed k f)) = _
    rw [set_renamed, ih]
    rfl

end Entries

/-! ### Values -/

namespace Value

mutual

def renamed (k : Nat) : Value → Value
  | float x => float (x.renamed k)
  | set ks => set (ks.map (Key.renamed k))
  | pair a b => pair (renamed k a) (renamed k b)
  | list m xs => list (markUp k m) (renamedItems k xs)
  | map m es => map (markUp k m) (renamedEntries k es)
  | again m b => again (markUp k m) b
  | v => v

def renamedItems (k : Nat) : List Value → List Value
  | [] => []
  | x :: xs => renamed k x :: renamedItems k xs

def renamedEntries (k : Nat) : List (Key × Value) → List (Key × Value)
  | [] => []
  | (l, v) :: es => (l.renamed k, renamed k v) :: renamedEntries k es

end

theorem renamedItems_eq_map (k : Nat) (xs : List Value) :
    renamedItems k xs = xs.map (renamed k) := by
  induction xs with
  | nil => rfl
  | cons x xs ih => rw [renamedItems, ih, List.map_cons]

theorem renamedEntries_eq (k : Nat) (es : List (Key × Value)) :
    renamedEntries k es = Entries.renamed k (renamed k) es := by
  induction es with
  | nil => rfl
  | cons e es ih =>
    rw [renamedEntries, ih]
    rfl

@[simp] theorem get?_renamedEntries (l : Key) (es : List (Key × Value)) :
    Entries.get? (l.renamed k) (renamedEntries k es) = (Entries.get? l es).map (renamed k) := by
  rw [renamedEntries_eq, Entries.get?_renamed]

@[simp] theorem get?_str_renamedEntries (s : String) (es : List (Key × Value)) :
    Entries.get? (.str s) (renamedEntries k es) = (Entries.get? (.str s) es).map (renamed k) :=
  get?_renamedEntries (.str s) es

theorem set_renamedEntries (l : Key) (v : Value) (es : List (Key × Value)) :
    Entries.set (l.renamed k) (renamed k v) (renamedEntries k es) = renamedEntries k
      (Entries.set l v es) := by
  rw [renamedEntries_eq, renamedEntries_eq, Entries.set_renamed]

theorem set_str_renamedEntries (s : String) (v : Value) (es : List (Key × Value)) :
    Entries.set (.str s) (renamed k v) (renamedEntries k es) = renamedEntries k
      (Entries.set (.str s) v es) :=
  set_renamedEntries (.str s) v es

theorem setAll_renamedEntries (news es : List (Key × Value)) :
    Entries.setAll (renamedEntries k news) (renamedEntries k es) = renamedEntries k
      (Entries.setAll news es) := by
  rw [renamedEntries_eq, renamedEntries_eq, renamedEntries_eq, Entries.setAll_renamed]

@[simp] theorem mark_renamed (v : Value) : (v.renamed k).mark = markUp k v.mark :=
  by cases v <;> rfl

mutual

/-- To move up twice is to move up by both. -/
theorem renamed_renamed (j : Nat) (v : Value) : (v.renamed j).renamed k = v.renamed (j + k) := by
  cases v with
  | float x => rw [renamed, renamed, renamed, Binary64.renamed_renamed]
  | set ks => simp only [renamed, List.map_map, Function.comp_def, Key.renamed_renamed]
  | pair a b => rw [renamed, renamed, renamed, renamed_renamed j a, renamed_renamed j b]
  | list m xs => rw [renamed, renamed, renamed, markUp_markUp, renamedItems_renamedItems j xs]
  | map m es => rw [renamed, renamed, renamed, markUp_markUp, renamedEntries_renamedEntries j es]
  | again m b => rw [renamed, renamed, renamed, markUp_markUp]
  | _ => rfl

theorem renamedItems_renamedItems (j : Nat) (xs : List Value) :
    renamedItems k (renamedItems j xs) = renamedItems (j + k) xs := by
  cases xs with
  | nil => rfl
  | cons x xs =>
    rw [renamedItems, renamedItems, renamedItems, renamed_renamed j x,
      renamedItems_renamedItems j xs]

theorem renamedEntries_renamedEntries (j : Nat) (es : List (Key × Value)) :
    renamedEntries k (renamedEntries j es) = renamedEntries (j + k) es := by
  cases es with
  | nil => rfl
  | cons e es =>
    rw [renamedEntries, renamedEntries, renamedEntries, Key.renamed_renamed, renamed_renamed j e.2,
      renamedEntries_renamedEntries j es]

end

mutual

@[simp] theorem plain_renamed (v : Value) : (v.renamed k).plain = v.plain := by
  cases v with
  | pair a b => simp [renamed, plain, plain_renamed a, plain_renamed b]
  | list m xs => simp [renamed, plain, plainItems_renamed xs]
  | map m es => simp [renamed, plain, plainEntries_renamed es]
  | _ => simp [renamed, plain]

theorem plainItems_renamed (xs : List Value) : plainItems (renamedItems k xs) = plainItems xs := by
  cases xs with
  | nil => rfl
  | cons x xs => simp [renamedItems, plainItems, plain_renamed x, plainItems_renamed xs]

theorem plainEntries_renamed (es : List (Key × Value)) :
    plainEntries (renamedEntries k es) = plainEntries es := by
  cases es with
  | nil => rfl
  | cons e es => simp [renamedEntries, plainEntries, plain_renamed e.2, plainEntries_renamed es]

end

/-! ### Copies -/

theorem value_renamed (l : Key) : (l.renamed k).value = l.value.renamed k := by cases l <;> rfl

theorem copy_float (next : Nat) (x : Binary64) :
    copy next (float x) = (((Key.float x).copy next).1.value, ((Key.float x).copy next).2) := by
  cases x with
  | nan n => cases n <;> rfl
  | _ => rfl

mutual

theorem copy_renamed {next : Nat} (later : 2 < next) (v : Value) :
    copy (next + k) (v.renamed k) = ((copy next v).1.renamed k, (copy next v).2 + k) := by
  cases v with
  | float x =>
    have same := Key.copy_renamed (k := k) later (.float x)
    rw [renamed, copy_float, copy_float, ← value_renamed]
    exact congrArg (fun p => (p.1.value, p.2)) same
  | pair a b =>
    have later' : 2 < (copy next a).2 := Nat.lt_of_lt_of_le later (marks_copy next a).1
    simp only [renamed, copy, copy_renamed later a, copy_renamed later' b]
  | list m xs =>
    simp only [renamed, copy, Nat.add_right_comm next k 1,
      copyItems_renamed (Nat.lt_succ_of_lt later) xs,
      markUp_of_pos (Nat.zero_lt_of_lt later)]
  | map m es =>
    simp only [renamed, copy, Nat.add_right_comm next k 1,
      copyEntries_renamed (Nat.lt_succ_of_lt later) es,
      markUp_of_pos (Nat.zero_lt_of_lt later)]
  | _ => rfl

theorem copyItems_renamed {next : Nat} (later : 2 < next) (xs : List Value) :
    copyItems (next + k) (renamedItems k xs) =
      (renamedItems k (copyItems next xs).1, (copyItems next xs).2 + k) := by
  cases xs with
  | nil => rfl
  | cons x xs =>
    have later' : 2 < (copy next x).2 := Nat.lt_of_lt_of_le later (marks_copy next x).1
    simp only [renamedItems, copyItems, copy_renamed later x, copyItems_renamed later' xs]

theorem copyEntries_renamed {next : Nat} (later : 2 < next) (es : List (Key × Value)) :
    copyEntries (next + k) (renamedEntries k es) =
      (renamedEntries k (copyEntries next es).1, (copyEntries next es).2 + k) := by
  cases es with
  | nil => rfl
  | cons e es =>
    obtain ⟨l, v⟩ := e
    have later' : 2 < (l.copy next).2 := Nat.lt_of_lt_of_le later (Key.next_le_copy next l)
    have later'' : 2 < (copy (l.copy next).2 v).2 := Nat.lt_of_lt_of_le later' (marks_copy _ v).1
    simp only [renamedEntries, copyEntries, Key.copy_renamed later l, copy_renamed later' v,
      copyEntries_renamed later'' es]

end

def Copying.renamed (k : Nat) (c : Copying) : Copying :=
  ⟨c.next + k, c.given.map fun p => (markUp k p.1, markUp k p.2)⟩

theorem markFor_renamed {c : Copying} (positive : 0 < c.next) (m : Nat) :
    (c.renamed k).markFor (markUp k m) = (markUp k (c.markFor m).1, (c.markFor m).2.renamed k) := by
  have lookup : (c.renamed k).given.lookup (markUp k m) = (c.given.lookup m).map (markUp k) := by
    show List.lookup _ (c.given.map _) = _
    induction c.given with
    | nil => rfl
    | cons p given ih =>
      obtain ⟨a, b⟩ := p
      by_cases here : m = a
      · subst here
        simp
      · simp [List.lookup_cons, ih, beq_eq_false_iff_ne.2 (mt markUp_inj.1 here),
          beq_eq_false_iff_ne.2 here]
  rw [Copying.markFor, Copying.markFor, lookup]
  cases c.given.lookup m with
  | some new => rfl
  | none =>
    by_cases unmarked : m = 0
    · subst unmarked
      simp [Copying.renamed, markUp_of_pos positive, Nat.add_right_comm]
    · simp [Copying.renamed, unmarked, markUp_of_pos positive, Nat.add_right_comm]

mutual

theorem copyTied_renamed {c : Copying} (later : 2 < c.next) (v : Value) :
    copyTied (c.renamed k) (v.renamed k) =
      ((copyTied c v).1.renamed k, (copyTied c v).2.renamed k) := by
  have positive : 0 < c.next := Nat.zero_lt_of_lt later
  cases v with
  | float x =>
    have same := Key.copy_renamed (k := k) later (.float x)
    rw [renamed, copyTied_float, copyTied_float, ← value_renamed]
    exact congrArg (fun p => (p.1.value, Copying.mk p.2 (c.renamed k).given)) same
  | pair a b =>
    have later' := Nat.lt_of_lt_of_le later (le_copyTied c a)
    simp only [renamed, copyTied, copyTied_renamed later a, copyTied_renamed later' b]
  | list m xs =>
    have later' := Nat.lt_of_lt_of_le later (le_markFor c m)
    simp only [renamed, copyTied, markFor_renamed positive, copyTiedItems_renamed later' xs]
  | map m es =>
    have later' := Nat.lt_of_lt_of_le later (le_markFor c m)
    simp only [renamed, copyTied, markFor_renamed positive, copyTiedEntries_renamed later' es]
  | again m b => simp only [renamed, copyTied, markFor_renamed positive]
  | _ => rfl

theorem copyTiedItems_renamed {c : Copying} (later : 2 < c.next) (xs : List Value) :
    copyTiedItems (c.renamed k) (renamedItems k xs) =
      (renamedItems k (copyTiedItems c xs).1, (copyTiedItems c xs).2.renamed k) := by
  cases xs with
  | nil => rfl
  | cons x xs =>
    have later' := Nat.lt_of_lt_of_le later (le_copyTied c x)
    simp only [renamedItems, copyTiedItems, copyTied_renamed later x,
      copyTiedItems_renamed later' xs]

theorem copyTiedEntries_renamed {c : Copying} (later : 2 < c.next) (es : List (Key × Value)) :
    copyTiedEntries (c.renamed k) (renamedEntries k es) =
      (renamedEntries k (copyTiedEntries c es).1, (copyTiedEntries c es).2.renamed k) := by
  cases es with
  | nil => rfl
  | cons e es =>
    obtain ⟨l, v⟩ := e
    have named : 2 < (l.copy c.next).2 := Nat.lt_of_lt_of_le later (Key.next_le_copy c.next l)
    have value := copyTied_renamed (c := ⟨(l.copy c.next).2, c.given⟩) named v
    have later' := Nat.lt_of_lt_of_le named (le_copyTied ⟨(l.copy c.next).2, c.given⟩ v)
    have key : (l.renamed k).copy (c.renamed k).next = _ := Key.copy_renamed (k := k) later l
    have moved : ({ c.renamed k with next := (l.copy c.next).2 + k } : Copying) =
        Copying.renamed k ⟨(l.copy c.next).2, c.given⟩ := rfl
    simp only [renamedEntries, copyTiedEntries, key, moved, value,
      copyTiedEntries_renamed later' es]

end

/-! ### Containers that hold themselves -/

mutual

@[simp] theorem isCyclic_renamed (v : Value) : (v.renamed k).isCyclic = v.isCyclic := by
  cases v with
  | pair a b => simp [renamed, isCyclic, isCyclic_renamed a, isCyclic_renamed b]
  | list m xs => simp [renamed, isCyclic, anyCyclic_renamed xs]
  | map m es => simp [renamed, isCyclic, anyCyclicEntry_renamed es]
  | _ => rfl

theorem anyCyclic_renamed (xs : List Value) : anyCyclic (renamedItems k xs) = anyCyclic xs := by
  cases xs with
  | nil => rfl
  | cons x xs => simp [renamedItems, anyCyclic, isCyclic_renamed x, anyCyclic_renamed xs]

theorem anyCyclicEntry_renamed (es : List (Key × Value)) :
    anyCyclicEntry (renamedEntries k es) = anyCyclicEntry es := by
  cases es with
  | nil => rfl
  | cons e es =>
    simp [renamedEntries, anyCyclicEntry, isCyclic_renamed e.2, anyCyclicEntry_renamed es]

end

mutual

theorem fill_renamed (c v : Value) : fill (c.renamed k) (v.renamed k) = (fill c v).renamed k := by
  cases v with
  | again m b =>
    simp only [renamed, fill, mark_renamed, markUp_inj]
    split
    next => rfl
    next => rfl
  | pair a b => simp only [renamed, fill, fill_renamed c a, fill_renamed c b]
  | list m xs =>
    simp only [renamed, fill, mark_renamed, markUp_inj]
    split
    next => rfl
    next => rw [fillItems_renamed c xs, renamed]
  | map m es =>
    simp only [renamed, fill, mark_renamed, markUp_inj]
    split
    next => rfl
    next => rw [fillEntries_renamed c es, renamed]
  | _ => rfl

theorem fillItems_renamed (c : Value) (xs : List Value) :
    fillItems (c.renamed k) (renamedItems k xs) = renamedItems k (fillItems c xs) := by
  cases xs with
  | nil => rfl
  | cons x xs => simp only [renamedItems, fillItems, fill_renamed c x, fillItems_renamed c xs]

theorem fillEntries_renamed (c : Value) (es : List (Key × Value)) :
    fillEntries (c.renamed k) (renamedEntries k es) = renamedEntries k (fillEntries c es) := by
  cases es with
  | nil => rfl
  | cons e es =>
    simp only [renamedEntries, fillEntries, fill_renamed c e.2, fillEntries_renamed c es]

end

theorem within_renamed (c v : Value) :
    (c.renamed k).within (v.renamed k) = (c.within v).renamed k := by
  simp only [within, mark_renamed, markUp_eq_zero, fill_renamed]
  split <;> rfl

theorem items_renamed (m : Nat) (xs : List Value) :
    items (markUp k m) (renamedItems k xs) = (items m xs).map (renamed k) := by
  rw [items, items, List.map_map, renamedItems_eq_map, List.map_map]
  refine List.map_congr_left fun x _ => ?_
  rw [Function.comp_apply, ← renamedItems_eq_map]
  exact within_renamed (list m xs) x

theorem entries_renamed (m : Nat) (es : List (Key × Value)) :
    entries (markUp k m) (renamedEntries k es) = renamedEntries k (entries m es) := by
  rw [renamedEntries_eq k (entries m es), entries, entries, renamedEntries_eq, Entries.renamed,
    Entries.renamed,
    List.map_map, List.map_map]
  refine List.map_congr_left fun e _ => ?_
  have part := within_renamed (k := k) (map m es) e.2
  rw [renamed, renamedEntries_eq] at part
  exact congrArg _ part

mutual

theorem tieIn_renamed (around : List Nat) (v : Value) :
    tieIn (around.map (markUp k)) (v.renamed k) = (tieIn around v).renamed k := by
  cases v with
  | pair a b => simp only [renamed, tieIn, tieIn_renamed around a, tieIn_renamed around b]
  | list m xs =>
    simp only [renamed, tieIn, markUp_eq_zero, contains_map_markUp]
    split
    next => rw [tieItems_renamed around xs, renamed, markUp_zero]
    next =>
      split
      next => rfl
      next => rw [← List.map_cons, tieItems_renamed (m :: around) xs, renamed]
  | map m es =>
    simp only [renamed, tieIn, markUp_eq_zero, contains_map_markUp]
    split
    next => rw [tieEntries_renamed around es, renamed, markUp_zero]
    next =>
      split
      next => rfl
      next => rw [← List.map_cons, tieEntries_renamed (m :: around) es, renamed]
  | _ => rfl

theorem tieItems_renamed (around : List Nat) (xs : List Value) :
    tieItems (around.map (markUp k)) (renamedItems k xs) = renamedItems k (tieItems around xs) := by
  cases xs with
  | nil => rfl
  | cons x xs =>
    simp only [renamedItems, tieItems, tieIn_renamed around x, tieItems_renamed around xs]

theorem tieEntries_renamed (around : List Nat) (es : List (Key × Value)) :
    tieEntries (around.map (markUp k)) (renamedEntries k es) = renamedEntries k
      (tieEntries around es) := by
  cases es with
  | nil => rfl
  | cons e es =>
    simp only [renamedEntries, tieEntries, tieIn_renamed around e.2, tieEntries_renamed around es]

end

theorem tie_renamed (v : Value) : (v.renamed k).tie = v.tie.renamed k := tieIn_renamed [] v

theorem unroll_renamed (n : Nat) (v : Value) : unroll n (v.renamed k) = (unroll n v).renamed k := by
  induction n generalizing v with
  | zero => cases v <;> rfl
  | succ n ih =>
    cases v with
    | list m xs =>
      rw [renamed, unroll, unroll, renamed, items_renamed, List.map_map,
        renamedItems_eq_map, List.map_map]
      exact congrArg _ (List.map_congr_left fun x _ => ih x)
    | map m es =>
      rw [renamed, unroll, unroll, renamed, entries_renamed, renamedEntries_eq, renamedEntries_eq,
        Entries.renamed,
        Entries.renamed, List.map_map, List.map_map]
      exact congrArg _ (List.map_congr_left fun e _ => congrArg _ (ih e.2))
    | pair a b => rw [renamed, unroll, unroll, renamed, ih, ih]
    | _ => rfl

/-! ### Edits -/

def Edit.renamed (k : Nat) (e : Edit) : Edit := ⟨markUp k e.mark, e.now.renamed k⟩

mutual

theorem follow_renamed (e : Edit) (v : Value) :
    follow (e.renamed k) (v.renamed k) = (follow e v).renamed k := by
  cases v with
  | pair a b => simp only [renamed, follow, follow_renamed e a, follow_renamed e b]
  | list m xs =>
    simp only [renamed, follow, Edit.renamed, markUp_inj, ne_eq, markUp_eq_zero]
    split
    next => rfl
    next => rw [renamed, ← followItems_renamed e xs, Edit.renamed]
  | map m es =>
    simp only [renamed, follow, Edit.renamed, markUp_inj, ne_eq, markUp_eq_zero]
    split
    next => rfl
    next => rw [renamed, ← followEntries_renamed e es, Edit.renamed]
  | _ => rfl

theorem followItems_renamed (e : Edit) (xs : List Value) :
    followItems (e.renamed k) (renamedItems k xs) = renamedItems k (followItems e xs) := by
  cases xs with
  | nil => rfl
  | cons x xs => simp only [renamedItems, followItems, follow_renamed e x, followItems_renamed e xs]

theorem followEntries_renamed (e : Edit) (es : List (Key × Value)) :
    followEntries (e.renamed k) (renamedEntries k es) = renamedEntries k (followEntries e es) := by
  cases es with
  | nil => rfl
  | cons f es =>
    simp only [renamedEntries, followEntries, follow_renamed e f.2, followEntries_renamed e es]

end

theorem followAll_renamed (edits : List Edit) (v : Value) :
    followAll (edits.map (Edit.renamed k)) (v.renamed k) = (followAll edits v).renamed k := by
  induction edits generalizing v with
  | nil => rfl
  | cons e edits ih =>
    show followAll (edits.map _) (follow (e.renamed k) (v.renamed k)) = _
    rw [follow_renamed, ih]
    rfl

/-! ### What is seen of values -/

@[simp] theorem length_renamedEntries (es : List (Key × Value)) :
    (renamedEntries k es).length = es.length := by
  rw [renamedEntries_eq, Entries.renamed, List.length_map]

@[simp] theorem isEmpty_renamedItems (xs : List Value) : (renamedItems k xs).isEmpty = xs.isEmpty :=
  by cases xs <;> rfl

@[simp] theorem isEmpty_renamedEntries (es : List (Key × Value)) :
    (renamedEntries k es).isEmpty = es.isEmpty := by
  cases es <;> rfl

@[simp] theorem truthy_renamed (v : Value) : (v.renamed k).truthy = v.truthy :=
  by cases v <;> simp [renamed, truthy]

@[simp] theorem kindName_renamed (v : Value) : (v.renamed k).kindName = v.kindName := by
  cases v with
  | again m b => cases b <;> rfl
  | _ => rfl

@[simp] theorem isNumber_renamed (v : Value) : (v.renamed k).isNumber = v.isNumber :=
  by cases v <;> rfl

theorem key?_renamed (v : Value) : (v.renamed k).key? = v.key?.map (Key.renamed k) :=
  by cases v <;> rfl

mutual

@[simp] theorem holdsLong_renamed (v : Value) : (v.renamed k).holdsLong = v.holdsLong := by
  cases v with
  | set ks =>
    have same : (Key.isLong ∘ Key.renamed k) = Key.isLong := funext Key.isLong_renamed
    rw [renamed, holdsLong, holdsLong, List.any_map, same]
  | pair a b => simp only [renamed, holdsLong, holdsLong_renamed a, holdsLong_renamed b]
  | list m xs => simp only [renamed, holdsLong, anyHoldsLong_renamed xs]
  | map m es => simp only [renamed, holdsLong, anyEntryHoldsLong_renamed es]
  | _ => rfl

theorem anyHoldsLong_renamed (xs : List Value) :
    anyHoldsLong (renamedItems k xs) = anyHoldsLong xs := by
  cases xs with
  | nil => rfl
  | cons x xs =>
    simp only [renamedItems, anyHoldsLong, holdsLong_renamed x, anyHoldsLong_renamed xs]

theorem anyEntryHoldsLong_renamed (es : List (Key × Value)) :
    anyEntryHoldsLong (renamedEntries k es) = anyEntryHoldsLong es := by
  cases es with
  | nil => rfl
  | cons e es =>
    simp only [renamedEntries, anyEntryHoldsLong, Key.isLong_renamed, holdsLong_renamed e.2,
      anyEntryHoldsLong_renamed es]

end

mutual

@[simp] theorem literal_renamed (v : Value) : (v.renamed k).literal = v.literal := by
  cases v with
  | float x => simp [renamed, literal]
  | set ks =>
    have same : (Key.literal ∘ Key.renamed k) = Key.literal := funext Key.literal_renamed
    cases ks with
    | nil => rfl
    | cons l ks =>
      rw [renamed, List.map_cons, literal, literal, ← List.map_cons, List.map_map, same]
  | pair a b => simp only [renamed, literal, literal_renamed a, literal_renamed b]
  | list m xs => simp only [renamed, literal, literalItems_renamed xs]
  | map m es => simp only [renamed, literal, literalEntries_renamed es]
  | again m b => cases b <;> rfl
  | _ => rfl

theorem literalItems_renamed (xs : List Value) :
    literalItems (renamedItems k xs) = literalItems xs := by
  cases xs with
  | nil => rfl
  | cons x xs => simp only [renamedItems, literalItems, literal_renamed x, literalItems_renamed xs]

theorem literalEntries_renamed (es : List (Key × Value)) :
    literalEntries (renamedEntries k es) = literalEntries es := by
  cases es with
  | nil => rfl
  | cons e es =>
    simp only [renamedEntries, literalEntries, Key.literal_renamed, literal_renamed e.2,
      literalEntries_renamed es]

end

@[simp] theorem shown_renamed (v : Value) : (v.renamed k).shown = v.shown := by
  cases v with
  | str s => rfl
  | moment t => rfl
  | _ => exact literal_renamed _

@[simp] theorem told_renamed (v : Value) : (v.renamed k).told = v.told := by simp [told]

/-! ### Equality -/

@[simp] theorem isSameNaN_renamed (v w : Value) :
    (v.renamed k).isSameNaN (w.renamed k) = v.isSameNaN w := by
  cases v <;> cases w <;> simp [renamed, isSameNaN]

theorem sameKeys_renamed (ks ls : List Key) :
    sameKeys (ks.map (Key.renamed k)) (ls.map (Key.renamed k)) = sameKeys ks ls := by
  simp [sameKeys, List.all_map, List.any_map, Function.comp_def]

mutual

@[simp] theorem same_renamed (v w : Value) : (v.renamed k).same (w.renamed k) = v.same w := by
  cases v with
  | set ks =>
    cases w with
    | set ls => exact sameKeys_renamed ks ls
    | _ => simp [renamed, same, number?]
  | pair a b =>
    cases w with
    | pair c d => simp only [renamed, same, isSameNaN_renamed, same_renamed a c, same_renamed b d]
    | _ => simp [renamed, same, number?]
  | list m xs =>
    cases w with
    | list n ys => simp only [renamed, same, sameItems_renamed xs ys]
    | _ => simp [renamed, same, number?]
  | map m es =>
    cases w with
    | map n fs => simp only [renamed, same, length_renamedEntries, sameEntries_renamed es fs]
    | _ => simp [renamed, same, number?]
  | again m b =>
    cases w with
    | again n c => simp [renamed, same]
    | _ => simp [renamed, same, number?]
  | _ => cases w <;> simp [renamed, same, number?]

theorem sameItems_renamed (xs ys : List Value) :
    sameItems (renamedItems k xs) (renamedItems k ys) = sameItems xs ys := by
  cases xs with
  | nil => cases ys <;> rfl
  | cons x xs =>
    cases ys with
    | nil => rfl
    | cons y ys =>
      simp only [renamedItems, sameItems, isSameNaN_renamed, same_renamed x y,
        sameItems_renamed xs ys]

theorem sameEntries_renamed (es fs : List (Key × Value)) :
    sameEntries (renamedEntries k es) (renamedEntries k fs) = sameEntries es fs := by
  cases es with
  | nil => rfl
  | cons e es =>
    obtain ⟨l, v⟩ := e
    simp only [renamedEntries, sameEntries, get?_renamedEntries, sameEntries_renamed es fs]
    cases Entries.get? l fs with
    | none => rfl
    | some w => simp only [Option.map_some, isSameNaN_renamed, same_renamed v w]

end

@[simp] theorem strictlySame_renamed (v w : Value) :
    (v.renamed k).strictlySame (w.renamed k) = v.strictlySame w := by
  simp [strictlySame]

end Value

end SceneCourse
