import SceneCourse.Proofs.TreeStore

/-! Copies of closed values. Where a container comes back inside itself, `again` stands in a closed
value. A copy gives one mark to what had one mark and different marks to what had different ones, so
in a copy of a closed value no container comes back either. -/

namespace SceneCourse

namespace Value

mutual

theorem tieIn_tieIn (around : List Nat) (v : Value) :
    tieIn around (tieIn around v) = tieIn around v := by
  cases v with
  | pair a b => rw [tieIn, tieIn, tieIn_tieIn around a, tieIn_tieIn around b]
  | list m xs =>
    by_cases zero : m = 0
    · subst zero
      simp only [tieIn, if_true, tieItems_tieItems around xs]
    · by_cases back : around.contains m = true
      · simp only [tieIn, if_neg zero, if_pos back]
      · simp only [tieIn, if_neg zero, if_neg back, tieItems_tieItems (m :: around) xs]
  | map m es =>
    by_cases zero : m = 0
    · subst zero
      simp only [tieIn, if_true, tieEntries_tieEntries around es]
    · by_cases back : around.contains m = true
      · simp only [tieIn, if_neg zero, if_pos back]
      · simp only [tieIn, if_neg zero, if_neg back, tieEntries_tieEntries (m :: around) es]
  | _ => rfl

theorem tieItems_tieItems (around : List Nat) (xs : List Value) :
    tieItems around (tieItems around xs) = tieItems around xs := by
  cases xs with
  | nil => rfl
  | cons x xs => rw [tieItems, tieItems, tieIn_tieIn around x, tieItems_tieItems around xs]

theorem tieEntries_tieEntries (around : List Nat) (es : List (Key × Value)) :
    tieEntries around (tieEntries around es) = tieEntries around es := by
  cases es with
  | nil => rfl
  | cons e es =>
    rw [tieEntries, tieEntries, tieIn_tieIn around e.2, tieEntries_tieEntries around es]

end

mutual

/-- A value that is closed inside some containers is so inside fewer. -/
theorem tieIn_of_subset {around around' : List Nat} (fewer : around' ⊆ around) (v : Value)
    (closed : tieIn around v = v) : tieIn around' v = v := by
  cases v with
  | pair a b =>
    obtain ⟨left, right⟩ := pair.inj closed
    rw [tieIn, tieIn_of_subset fewer a left, tieIn_of_subset fewer b right]
  | list m xs =>
    obtain ⟨out, inner⟩ := (tieIn_list_eq_self_iff around m xs).1 closed
    refine (tieIn_list_eq_self_iff around' m xs).2
      ⟨fun marked inside => out marked (fewer inside), ?_⟩
    refine tieItems_of_subset ?_ xs inner
    split
    next => exact fewer
    next => exact List.cons_subset_cons m fewer
  | map m es =>
    obtain ⟨out, inner⟩ := (tieIn_map_eq_self_iff around m es).1 closed
    refine (tieIn_map_eq_self_iff around' m es).2
      ⟨fun marked inside => out marked (fewer inside), ?_⟩
    refine tieEntries_of_subset ?_ es inner
    split
    next => exact fewer
    next => exact List.cons_subset_cons m fewer
  | _ => rfl

theorem tieItems_of_subset {around around' : List Nat} (fewer : around' ⊆ around) (xs : List Value)
    (closed : tieItems around xs = xs) : tieItems around' xs = xs := by
  cases xs with
  | nil => rfl
  | cons x xs =>
    obtain ⟨here, later⟩ := List.cons.inj closed
    rw [tieItems, tieIn_of_subset fewer x here, tieItems_of_subset fewer xs later]

theorem tieEntries_of_subset {around around' : List Nat} (fewer : around' ⊆ around)
    (es : List (Key × Value)) (closed : tieEntries around es = es) :
    tieEntries around' es = es := by
  cases es with
  | nil => rfl
  | cons e es =>
    obtain ⟨here, later⟩ := List.cons.inj closed
    rw [tieEntries, tieIn_of_subset fewer e.2 (Prod.mk.inj here).2,
      tieEntries_of_subset fewer es later]

end

/-! ### The marks of a copy -/

/-- A copy under way gives different marks to different containers, and those of the containers
around the copy to no others than the containers around what is copied. -/
structure Copying.Suits (c : Copying) (around around' : List Nat) : Prop where
  positive : 0 < c.next
  unmarked : c.given.lookup 0 = none
  given : ∀ {m n}, c.given.lookup m = some n → 0 < n ∧ n < c.next
  apart : ∀ {m m' n}, c.given.lookup m = some n → c.given.lookup m' = some n → m = m'
  own : ∀ n ∈ around', n < c.next ∧ ∀ m, c.given.lookup m = some n → m ∈ around

namespace Copying

variable {c : Copying} {around around' : List Nat}

theorem markFor_cases (c : Copying) (m : Nat) :
    (∃ n, c.given.lookup m = some n ∧ c.markFor m = (n, c)) ∨
    c.given.lookup m = none ∧
      c.markFor m = (c.next, ⟨c.next + 1, if m = 0 then c.given else (m, c.next) :: c.given⟩) := by
  rw [markFor]
  cases c.given.lookup m with
  | some n => exact Or.inl ⟨n, rfl, rfl⟩
  | none => exact Or.inr ⟨rfl, rfl⟩

theorem lookup_markFor {m m' n : Nat} (found : (c.markFor m).2.given.lookup m' = some n) :
    m' = m ∧ m ≠ 0 ∧ n = (c.markFor m).1 ∨ c.given.lookup m' = some n := by
  rcases c.markFor_cases m with ⟨_, -, same⟩ | ⟨-, new⟩
  · rw [same] at found
    exact Or.inr found
  · rw [new] at found ⊢
    by_cases unmarked : m = 0
    · rw [if_pos unmarked] at found
      exact Or.inr found
    · rw [if_neg unmarked, List.lookup_cons] at found
      by_cases here : m' = m
      · rw [here, beq_self_eq_true] at found
        exact Or.inl ⟨here, unmarked, (Option.some.inj found).symm⟩
      · rw [beq_eq_false_iff_ne.2 here] at found
        exact Or.inr found

namespace Suits

theorem new {next : Nat} (positive : 0 < next) : Suits ⟨next, []⟩ [] [] where
  positive := positive
  unmarked := rfl
  given := nofun
  apart := nofun
  own := nofun

variable (h : Suits c around around')

include h

theorem advance {next : Nat} (later : c.next ≤ next) : Suits ⟨next, c.given⟩ around around' where
  positive := Nat.lt_of_lt_of_le h.positive later
  unmarked := h.unmarked
  given found := ⟨(h.given found).1, Nat.lt_of_lt_of_le (h.given found).2 later⟩
  apart := h.apart
  own n inside := ⟨Nat.lt_of_lt_of_le (h.own n inside).1 later, (h.own n inside).2⟩

theorem bounds (m : Nat) : 0 < (c.markFor m).1 ∧ (c.markFor m).1 < (c.markFor m).2.next := by
  rcases c.markFor_cases m with ⟨n, found, same⟩ | ⟨-, new⟩
  · rw [same]
    exact h.given found
  · rw [new]
    exact ⟨h.positive, Nat.lt_succ_self _⟩

/-- The mark for a container has been given to no other one. -/
theorem eq_of_lookup {m m' : Nat} (found : c.given.lookup m' = some (c.markFor m).1) : m' = m := by
  rcases c.markFor_cases m with ⟨n, there, same⟩ | ⟨-, new⟩
  · rw [same] at found
    exact h.apart found there
  · rw [new] at found
    exact absurd (h.given found).2 (Nat.lt_irrefl _)

/-- The containers around stay apart from what is given a mark. -/
theorem markFor (m : Nat) : Suits (c.markFor m).2 around around' where
  positive := Nat.lt_of_lt_of_le h.positive (le_markFor c m)
  unmarked := Option.eq_none_iff_forall_ne_some.2 fun n found => by
    rcases lookup_markFor found with ⟨zero, marked, -⟩ | there
    · exact marked zero.symm
    · rw [h.unmarked] at there
      cases there
  given found := by
    rcases lookup_markFor found with ⟨-, -, rfl⟩ | there
    · exact h.bounds m
    · exact ⟨(h.given there).1, Nat.lt_of_lt_of_le (h.given there).2 (le_markFor c m)⟩
  apart found found' := by
    rcases lookup_markFor found with ⟨rfl, -, rfl⟩ | there <;>
      rcases lookup_markFor found' with ⟨rfl, -, same⟩ | there'
    · rfl
    · exact (h.eq_of_lookup there').symm
    · exact h.eq_of_lookup (same ▸ there)
    · exact h.apart there there'
  own n inside := by
    refine ⟨Nat.lt_of_lt_of_le (h.own n inside).1 (le_markFor c m), fun m' found => ?_⟩
    rcases lookup_markFor found with ⟨rfl, -, rfl⟩ | there
    · rcases c.markFor_cases m' with ⟨n, there, same⟩ | ⟨-, new⟩
      · exact (h.own _ inside).2 m' (by rw [same, there])
      · rw [new] at inside
        exact absurd (h.own _ inside).1 (Nat.lt_irrefl _)
    · exact (h.own n inside).2 m' there

/-- The copy of a container that is not around stands inside containers with other marks. -/
theorem not_mem {m : Nat} (out : m ≠ 0 → m ∉ around) : (c.markFor m).1 ∉ around' := by
  intro inside
  rcases c.markFor_cases m with ⟨n, found, same⟩ | ⟨-, new⟩
  · have marked : m ≠ 0 := fun zero => by
      rw [zero, h.unmarked] at found
      cases found
    rw [same] at inside
    exact out marked ((h.own n inside).2 m found)
  · rw [new] at inside
    exact Nat.lt_irrefl _ (h.own _ inside).1

theorem enter (m : Nat) :
    Suits (c.markFor m).2 (if m = 0 then around else m :: around) ((c.markFor m).1 :: around') where
  positive := (h.markFor m).positive
  unmarked := (h.markFor m).unmarked
  given := (h.markFor m).given
  apart := (h.markFor m).apart
  own := by
    refine List.forall_mem_cons.2 ⟨⟨(h.bounds m).2, fun m' found => ?_⟩, fun n inside => ?_⟩
    · have same : m' = m ∧ m ≠ 0 := by
        rcases lookup_markFor found with ⟨same, marked, -⟩ | there
        · exact ⟨same, marked⟩
        · obtain rfl := h.eq_of_lookup there
          refine ⟨rfl, fun zero => ?_⟩
          rw [zero, h.unmarked] at there
          cases there
      rw [if_neg same.2, same.1]
      exact List.mem_cons_self
    · refine ⟨((h.markFor m).own n inside).1, fun m' found => ?_⟩
      have there := ((h.markFor m).own n inside).2 m' found
      split
      next => exact there
      next => exact List.mem_cons_of_mem m there

end Suits

end Copying

mutual

theorem Copying.Suits.copyTied {c : Copying} {around around' : List Nat}
    (h : c.Suits around around') (v : Value) : (copyTied c v).2.Suits around around' := by
  cases v with
  | float x =>
    rw [copyTied_float]
    exact h.advance (Key.next_le_copy c.next (.float x))
  | pair a b => exact Copying.Suits.copyTied (Copying.Suits.copyTied h a) b
  | list m xs => exact Copying.Suits.copyTiedItems (h.markFor m) xs
  | map m es => exact Copying.Suits.copyTiedEntries (h.markFor m) es
  | again m b => exact h.markFor m
  | _ => exact h

theorem Copying.Suits.copyTiedItems {c : Copying} {around around' : List Nat}
    (h : c.Suits around around') (xs : List Value) :
    (copyTiedItems c xs).2.Suits around around' := by
  cases xs with
  | nil => exact h
  | cons x xs => exact Copying.Suits.copyTiedItems (Copying.Suits.copyTied h x) xs

theorem Copying.Suits.copyTiedEntries {c : Copying} {around around' : List Nat}
    (h : c.Suits around around') (es : List (Key × Value)) :
    (copyTiedEntries c es).2.Suits around around' := by
  cases es with
  | nil => exact h
  | cons e es =>
    exact Copying.Suits.copyTiedEntries
      (Copying.Suits.copyTied (h.advance (Key.next_le_copy c.next e.1)) e.2) es

end

mutual

/-- A copy of a closed value is closed. -/
theorem tieIn_copyTied {c : Copying} {around around' : List Nat} (h : c.Suits around around')
    (v : Value) (closed : tieIn around v = v) :
    tieIn around' (copyTied c v).1 = (copyTied c v).1 := by
  cases v with
  | float x =>
    rw [copyTied_float]
    unfold Key.copy
    split <;> rfl
  | pair a b =>
    obtain ⟨left, right⟩ := pair.inj closed
    rw [copyTied, tieIn, tieIn_copyTied h a left, tieIn_copyTied (h.copyTied a) b right]
  | list m xs =>
    obtain ⟨out, inner⟩ := (tieIn_list_eq_self_iff around m xs).1 closed
    refine (tieIn_list_eq_self_iff around' (c.markFor m).1 (copyTiedItems (c.markFor m).2 xs).1).2
      ⟨fun _ => h.not_mem out, ?_⟩
    rw [if_neg (Nat.ne_of_gt (h.bounds m).1)]
    exact tieItems_copyTiedItems (h.enter m) xs inner
  | map m es =>
    obtain ⟨out, inner⟩ := (tieIn_map_eq_self_iff around m es).1 closed
    refine (tieIn_map_eq_self_iff around' (c.markFor m).1 (copyTiedEntries (c.markFor m).2 es).1).2
      ⟨fun _ => h.not_mem out, ?_⟩
    rw [if_neg (Nat.ne_of_gt (h.bounds m).1)]
    exact tieEntries_copyTiedEntries (h.enter m) es inner
  | _ => rfl

theorem tieItems_copyTiedItems {c : Copying} {around around' : List Nat}
    (h : c.Suits around around') (xs : List Value) (closed : tieItems around xs = xs) :
    tieItems around' (copyTiedItems c xs).1 = (copyTiedItems c xs).1 := by
  cases xs with
  | nil => rfl
  | cons x xs =>
    obtain ⟨here, later⟩ := List.cons.inj closed
    rw [copyTiedItems, tieItems, tieIn_copyTied h x here,
      tieItems_copyTiedItems (h.copyTied x) xs later]

theorem tieEntries_copyTiedEntries {c : Copying} {around around' : List Nat}
    (h : c.Suits around around') (es : List (Key × Value)) (closed : tieEntries around es = es) :
    tieEntries around' (copyTiedEntries c es).1 = (copyTiedEntries c es).1 := by
  cases es with
  | nil => rfl
  | cons e es =>
    obtain ⟨k, v⟩ := e
    obtain ⟨here, later⟩ := List.cons.inj closed
    have named := h.advance (Key.next_le_copy c.next k)
    rw [copyTiedEntries, tieEntries, tieIn_copyTied named v (Prod.mk.inj here).2,
      tieEntries_copyTiedEntries (named.copyTied v) es later]

end

end Value

end SceneCourse
