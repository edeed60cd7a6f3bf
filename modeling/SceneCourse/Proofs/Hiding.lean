import SceneCourse.Proofs.ReadOverWrite

/-! Integers below a key. If an integer stands in a value nowhere but below a key, and the value is
opened, edited with a value of that kind or closed, then it stands there nowhere else, and whoever
follows a path that does not go through the key does not find it. Every value is of that kind for
all integers but finitely many. -/

namespace SceneCourse

namespace Value

mutual

/-- A value in which an integer stands nowhere but below a key. -/
def Hides (n : Int) (key : String) : Value → Prop
  | int k => k ≠ n
  | list _ xs => HidesItems n key xs
  | map _ es => HidesEntries n key es
  | _ => True

def HidesItems (n : Int) (key : String) : List Value → Prop
  | [] => True
  | x :: xs => Hides n key x ∧ HidesItems n key xs

def HidesEntries (n : Int) (key : String) : List (Key × Value) → Prop
  | [] => True
  | (k, v) :: es => (k ≠ .str key → Hides n key v) ∧ HidesEntries n key es

end

section

variable {n : Int} {key : String} {v w c : Value} {m : Nat} {es : List (Key × Value)}
  {xs : List Value} {e : Edit}

theorem hidesItems_iff : HidesItems n key xs ↔ ∀ x ∈ xs, Hides n key x := by
  induction xs with
  | nil => exact iff_of_true trivial nofun
  | cons x xs ih => rw [HidesItems, List.forall_mem_cons, ih]

theorem hidesEntries_iff : HidesEntries n key es ↔ ∀ e ∈ es, e.1 ≠ .str key → Hides n key e.2 := by
  induction es with
  | nil => exact iff_of_true trivial nofun
  | cons e es ih => rw [HidesEntries, List.forall_mem_cons, ih]

theorem HidesEntries.get? (h : HidesEntries n key es) {s : String} (other : s ≠ key)
    (found : Entries.get? (.str s) es = some v) : Hides n key v := by
  induction es with
  | nil => cases found
  | cons e es ih =>
    rw [Entries.get?] at found
    split at found
    next same =>
      obtain rfl := Option.some.inj found
      exact h.1 fun own => other (Key.str.inj ((Key.same_str_iff.1 same).symm.trans own))
    next => exact ih h.2 found

theorem HidesEntries.set (h : HidesEntries n key es) (v : Value) :
    HidesEntries n key (Entries.set (.str key) v es) := by
  induction es with
  | nil => exact ⟨fun other => absurd rfl other, trivial⟩
  | cons e es ih =>
    rw [Entries.set]
    split
    next same => exact ⟨fun other => absurd (Key.same_str_iff.1 same) other, h.2⟩
    next => exact ⟨h.1, ih h.2⟩

mutual

theorem Hides.fill (container : Hides n key c) (v : Value) (h : Hides n key v) :
    Hides n key (fill c v) := by
  cases v with
  | again m b =>
    rw [Value.fill]
    split
    next => exact container
    next => exact h
  | list m xs =>
    rw [Value.fill]
    split
    next => exact h
    next => exact HidesItems.fill container xs h
  | map m es =>
    rw [Value.fill]
    split
    next => exact h
    next => exact HidesEntries.fill container es h
  | _ => exact h

theorem HidesItems.fill (container : Hides n key c) (xs : List Value) (h : HidesItems n key xs) :
    HidesItems n key (fillItems c xs) := by
  cases xs with
  | nil => exact h
  | cons x xs => exact ⟨Hides.fill container x h.1, HidesItems.fill container xs h.2⟩

theorem HidesEntries.fill (container : Hides n key c) (es : List (Key × Value))
    (h : HidesEntries n key es) : HidesEntries n key (fillEntries c es) := by
  cases es with
  | nil => exact h
  | cons e es =>
    exact ⟨fun other => Hides.fill container e.2 (h.1 other), HidesEntries.fill container es h.2⟩

end

theorem Hides.within (container : Hides n key c) (h : Hides n key v) :
    Hides n key (c.within v) := by
  rw [Value.within]
  split
  next => exact h
  next => exact Hides.fill container v h

theorem Hides.along (h : Hides n key v) (segs : List String) : Hides n key (along segs v) := by
  induction segs generalizing v with
  | nil => exact h
  | cons s rest ih =>
    cases v with
    | map m es =>
      refine hidesEntries_iff.2 fun e member other => ?_
      obtain ⟨f, opened, rfl⟩ := List.mem_map.1 member
      obtain ⟨g, there, rfl⟩ := List.mem_map.1 opened
      have own : Hides n key ((Value.map m es).within g.2) :=
        h.within (hidesEntries_iff.1 h g there other)
      dsimp only
      split
      next => exact ih own
      next => exact own
    | list m xs =>
      refine hidesItems_iff.2 fun x member => ?_
      obtain ⟨y, opened, rfl⟩ := List.mem_map.1 member
      obtain ⟨z, there, rfl⟩ := List.mem_map.1 opened
      exact ih (h.within (hidesItems_iff.1 h z there))
    | _ => exact h

mutual

theorem Hides.tieIn (around : List Nat) (v : Value) (h : Hides n key v) :
    Hides n key (tieIn around v) := by
  cases v with
  | list m xs =>
    rw [Value.tieIn]
    split
    next => exact HidesItems.tie around xs h
    next =>
      split
      next => exact trivial
      next => exact HidesItems.tie (m :: around) xs h
  | map m es =>
    rw [Value.tieIn]
    split
    next => exact HidesEntries.tie around es h
    next =>
      split
      next => exact trivial
      next => exact HidesEntries.tie (m :: around) es h
  | _ => exact h

theorem HidesItems.tie (around : List Nat) (xs : List Value) (h : HidesItems n key xs) :
    HidesItems n key (tieItems around xs) := by
  cases xs with
  | nil => exact h
  | cons x xs => exact ⟨Hides.tieIn around x h.1, HidesItems.tie around xs h.2⟩

theorem HidesEntries.tie (around : List Nat) (es : List (Key × Value)) (h : HidesEntries n key es) :
    HidesEntries n key (tieEntries around es) := by
  cases es with
  | nil => exact h
  | cons e es =>
    exact ⟨fun other => Hides.tieIn around e.2 (h.1 other), HidesEntries.tie around es h.2⟩

end

mutual

theorem Hides.follow (now : Hides n key e.now) (v : Value) (h : Hides n key v) :
    Hides n key (follow e v) := by
  cases v with
  | list m xs =>
    rw [Value.follow]
    split
    next => exact now
    next => exact HidesItems.follow now xs h
  | map m es =>
    rw [Value.follow]
    split
    next => exact now
    next => exact HidesEntries.follow now es h
  | _ => exact h

theorem HidesItems.follow (now : Hides n key e.now) (xs : List Value) (h : HidesItems n key xs) :
    HidesItems n key (followItems e xs) := by
  cases xs with
  | nil => exact h
  | cons x xs => exact ⟨Hides.follow now x h.1, HidesItems.follow now xs h.2⟩

theorem HidesEntries.follow (now : Hides n key e.now) (es : List (Key × Value))
    (h : HidesEntries n key es) : HidesEntries n key (followEntries e es) := by
  cases es with
  | nil => exact h
  | cons f es =>
    exact ⟨fun other => Hides.follow now f.2 (h.1 other), HidesEntries.follow now es h.2⟩

end

/-- Whoever goes past the key does not find the integer. -/
theorem Hides.lookup (h : Hides n key v) {segs : List String} (past : key ∉ segs) :
    v.lookup segs ≠ .ok (.int n) := by
  induction segs generalizing v with
  | nil =>
    rintro ⟨⟩
    exact h rfl
  | cons s rest ih =>
    obtain ⟨other, later⟩ := not_or.1 (mt List.mem_cons.2 past)
    cases v with
    | map m es =>
      rw [lookup_map_cons]
      cases found : Entries.get? (.str s) es with
      | none =>
        rw [Option.getD_none, lookup_null]
        rintro ⟨⟩
      | some w => exact ih (HidesEntries.get? h (Ne.symm other) found) later
    | list m xs =>
      rw [Value.lookup]
      split
      next =>
        split
        next => rintro ⟨⟩
        next i _ =>
          split
          next => rintro ⟨⟩
          next => rintro ⟨⟩
          next w found => exact ih (hidesItems_iff.1 h _ (List.mem_of_getElem? found)) later
      next => rintro ⟨⟩
    | _ => rintro ⟨⟩

mutual

/-- Every value hides all great integers. -/
theorem exists_hides (key : String) (v : Value) : ∃ most : Int, ∀ n, most < n → Hides n key v := by
  cases v with
  | int k => exact ⟨k, fun n greater => Int.ne_of_lt greater⟩
  | list m xs => exact exists_hidesItems key xs
  | map m es =>
    obtain ⟨most, all⟩ := exists_hidesEntries key es
    exact ⟨most, fun n greater => hidesEntries_iff.2 fun e member _ => all n greater e member⟩
  | _ => exact ⟨0, fun _ _ => trivial⟩

theorem exists_hidesItems (key : String) (xs : List Value) :
    ∃ most : Int, ∀ n, most < n → HidesItems n key xs := by
  cases xs with
  | nil => exact ⟨0, fun _ _ => trivial⟩
  | cons x xs =>
    obtain ⟨most, here⟩ := exists_hides key x
    obtain ⟨most', later⟩ := exists_hidesItems key xs
    exact ⟨max most most', fun n greater => ⟨here n (by omega), later n (by omega)⟩⟩

theorem exists_hidesEntries (key : String) (es : List (Key × Value)) :
    ∃ most : Int, ∀ n, most < n → ∀ e ∈ es, Hides n key e.2 := by
  cases es with
  | nil => exact ⟨0, fun _ _ _ none => absurd none List.not_mem_nil⟩
  | cons e es =>
    obtain ⟨most, here⟩ := exists_hides key e.2
    obtain ⟨most', later⟩ := exists_hidesEntries key es
    exact ⟨max most most', fun n greater => List.forall_mem_cons.2
      ⟨here n (by omega), later n (by omega)⟩⟩

end

end

end Value

end SceneCourse
