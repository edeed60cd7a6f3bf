import SceneCourse.Proofs.Operations

/-! The containers that a value holds, also those that come back in it. What opens, closes or edits
a value brings in no containers but those of the value and of the edit, so a kind of containers is
kept to by every operation of a store that is given nothing else. -/

namespace SceneCourse

open Value (Edit)

namespace Value

mutual

/-- The marks of the containers in a value, also of those that come back. -/
def held : Value → List Nat
  | pair a b => held a ++ held b
  | list m xs => m :: heldItems xs
  | map m es => m :: heldEntries es
  | again m _ => [m]
  | _ => []

def heldItems : List Value → List Nat
  | [] => []
  | x :: xs => held x ++ heldItems xs

def heldEntries : List (Key × Value) → List Nat
  | [] => []
  | (_, v) :: es => held v ++ heldEntries es

end

/-- A value holds containers of one kind only. -/
def Holds (P : Nat → Prop) (v : Value) : Prop := ∀ m ∈ v.held, P m

def HoldIn (P : Nat → Prop) (es : List (Key × Value)) : Prop := ∀ m ∈ heldEntries es, P m

variable {P Q : Nat → Prop} {v w c : Value} {m : Nat} {es fs : List (Key × Value)} {xs : List Value}
  {k : Key} {e : Edit}

theorem Holds.mono (h : Holds P v) (wider : ∀ m, P m → Q m) : Holds Q v :=
  fun m member => wider m (h m member)

theorem HoldIn.mono (h : HoldIn P es) (wider : ∀ m, P m → Q m) : HoldIn Q es :=
  fun m member => wider m (h m member)

theorem holds_pair {a b : Value} : Holds P (pair a b) ↔ Holds P a ∧ Holds P b :=
  List.forall_mem_append

theorem holds_map : Holds P (map m es) ↔ P m ∧ HoldIn P es := List.forall_mem_cons

theorem holds_list : Holds P (list m xs) ↔ P m ∧ ∀ m ∈ heldItems xs, P m := List.forall_mem_cons

theorem holdIn_cons {e : Key × Value} : HoldIn P (e :: es) ↔ Holds P e.2 ∧ HoldIn P es :=
  List.forall_mem_append

theorem holdIn_nil : HoldIn P [] := fun _ member => absurd member List.not_mem_nil

theorem holdItems_iff : (∀ m ∈ heldItems xs, P m) ↔ ∀ x ∈ xs, Holds P x := by
  induction xs with
  | nil => simp [heldItems]
  | cons x xs ih => rw [heldItems, List.forall_mem_append, List.forall_mem_cons, ih, Holds]

theorem holdIn_iff : HoldIn P es ↔ ∀ e ∈ es, Holds P e.2 := by
  induction es with
  | nil => exact iff_of_true holdIn_nil nofun
  | cons e es ih => rw [holdIn_cons, List.forall_mem_cons, ih]

theorem HoldIn.get? (h : HoldIn P es) (found : Entries.get? k es = some v) : Holds P v := by
  obtain ⟨l, member⟩ := exists_of_get? found
  exact holdIn_iff.1 h _ member

theorem HoldIn.set (h : HoldIn P es) (k : Key) (value : Holds P v) :
    HoldIn P (Entries.set k v es) := by
  induction es with
  | nil => exact holdIn_cons.2 ⟨value, holdIn_nil⟩
  | cons e es ih =>
    obtain ⟨here, later⟩ := holdIn_cons.1 h
    rw [Entries.set]
    split
    next => exact holdIn_cons.2 ⟨value, later⟩
    next => exact holdIn_cons.2 ⟨here, ih later⟩

theorem HoldIn.setAll (h : HoldIn P es) {news : List (Key × Value)} (values : HoldIn P news) :
    HoldIn P (Entries.setAll news es) := by
  induction news generalizing es with
  | nil => exact h
  | cons e news ih =>
    obtain ⟨first, later⟩ := holdIn_cons.1 values
    exact ih (h.set e.1 first) later

mutual

theorem marks_subset_held (v : Value) : marks v ⊆ held v := by
  cases v with
  | pair a b =>
    exact List.append_subset.2 ⟨fun _ hm => List.mem_append_left _ (marks_subset_held a hm),
      fun _ hm => List.mem_append_right _ (marks_subset_held b hm)⟩
  | list m xs => exact List.cons_subset_cons m (marksItems_subset_heldItems xs)
  | map m es => exact List.cons_subset_cons m (marksEntries_subset_heldEntries es)
  | _ => exact List.nil_subset _

theorem marksItems_subset_heldItems (xs : List Value) : marksItems xs ⊆ heldItems xs := by
  cases xs with
  | nil => exact List.nil_subset _
  | cons x xs =>
    exact List.append_subset.2 ⟨fun _ hm => List.mem_append_left _ (marks_subset_held x hm),
      fun _ hm => List.mem_append_right _ (marksItems_subset_heldItems xs hm)⟩

theorem marksEntries_subset_heldEntries (es : List (Key × Value)) :
    marksEntries es ⊆ heldEntries es := by
  cases es with
  | nil => exact List.nil_subset _
  | cons e es =>
    exact List.append_subset.2 ⟨fun _ hm => List.mem_append_left _ (marks_subset_held e.2 hm),
      fun _ hm => List.mem_append_right _ (marksEntries_subset_heldEntries es hm)⟩

end

/-! ### Opening -/

mutual

theorem Holds.fill (container : Holds P c) (v : Value) (h : Holds P v) : Holds P (fill c v) := by
  cases v with
  | again m b =>
    rw [Value.fill]
    split
    next => exact container
    next => exact h
  | pair a b =>
    obtain ⟨left, right⟩ := holds_pair.1 h
    exact holds_pair.2 ⟨Holds.fill container a left, Holds.fill container b right⟩
  | list m xs =>
    rw [Value.fill]
    split
    next => exact h
    next => exact holds_list.2 ⟨(holds_list.1 h).1, holdItems_fill container xs (holds_list.1 h).2⟩
  | map m es =>
    rw [Value.fill]
    split
    next => exact h
    next => exact holds_map.2 ⟨(holds_map.1 h).1, HoldIn.fill container es (holds_map.1 h).2⟩
  | _ => exact h

theorem holdItems_fill (container : Holds P c) (xs : List Value) (h : ∀ m ∈ heldItems xs, P m) :
    ∀ m ∈ heldItems (fillItems c xs), P m := by
  cases xs with
  | nil => exact h
  | cons x xs =>
    obtain ⟨here, later⟩ := List.forall_mem_append.1 h
    exact List.forall_mem_append.2 ⟨Holds.fill container x here, holdItems_fill container xs later⟩

theorem HoldIn.fill (container : Holds P c) (es : List (Key × Value)) (h : HoldIn P es) :
    HoldIn P (fillEntries c es) := by
  cases es with
  | nil => exact h
  | cons e es =>
    obtain ⟨here, later⟩ := holdIn_cons.1 h
    exact holdIn_cons.2 ⟨Holds.fill container e.2 here, HoldIn.fill container es later⟩

end

theorem Holds.within (container : Holds P c) (h : Holds P v) : Holds P (c.within v) := by
  rw [Value.within]
  split
  next => exact h
  next => exact Holds.fill container v h

theorem Holds.entries (h : Holds P (map m es)) : HoldIn P (entries m es) := by
  rw [Value.entries, holdIn_iff]
  intro e member
  obtain ⟨f, there, rfl⟩ := List.mem_map.1 member
  exact h.within (holdIn_iff.1 (holds_map.1 h).2 f there)

theorem Holds.items (h : Holds P (list m xs)) : ∀ x ∈ items m xs, Holds P x := by
  intro x member
  obtain ⟨y, there, rfl⟩ := List.mem_map.1 member
  exact h.within (holdItems_iff.1 (holds_list.1 h).2 y there)

theorem Holds.along (h : Holds P v) (segs : List String) : Holds P (along segs v) := by
  induction segs generalizing v with
  | nil => exact h
  | cons s rest ih =>
    cases v with
    | map m es =>
      refine holds_map.2 ⟨(holds_map.1 h).1, holdIn_iff.2 fun e member => ?_⟩
      obtain ⟨f, there, rfl⟩ := List.mem_map.1 member
      have own := holdIn_iff.1 h.entries f there
      dsimp only
      split
      next => exact ih own
      next => exact own
    | list m xs =>
      refine holds_list.2 ⟨(holds_list.1 h).1, holdItems_iff.2 fun x member => ?_⟩
      obtain ⟨y, there, rfl⟩ := List.mem_map.1 member
      exact ih (h.items y there)
    | _ => exact h

mutual

/-- A value that does not hold a container is not changed by opening that. -/
theorem fill_of_holds_ne (v : Value) (h : Holds (· ≠ c.mark) v) : fill c v = v := by
  cases v with
  | again m b => exact if_neg (h m List.mem_cons_self)
  | pair a b =>
    obtain ⟨left, right⟩ := holds_pair.1 h
    rw [Value.fill, fill_of_holds_ne a left, fill_of_holds_ne b right]
  | list m xs => rw [Value.fill, fillItems_of_hold_ne xs (holds_list.1 h).2, ite_self]
  | map m es => rw [Value.fill, fillEntries_of_hold_ne es (holds_map.1 h).2, ite_self]
  | _ => rfl

theorem fillItems_of_hold_ne (xs : List Value) (h : ∀ m ∈ heldItems xs, m ≠ c.mark) :
    fillItems c xs = xs := by
  cases xs with
  | nil => rfl
  | cons x xs =>
    obtain ⟨here, later⟩ := List.forall_mem_append.1 h
    rw [fillItems, fill_of_holds_ne x here, fillItems_of_hold_ne xs later]

theorem fillEntries_of_hold_ne (es : List (Key × Value)) (h : HoldIn (· ≠ c.mark) es) :
    fillEntries c es = es := by
  cases es with
  | nil => rfl
  | cons e es =>
    obtain ⟨here, later⟩ := holdIn_cons.1 h
    rw [fillEntries, fill_of_holds_ne e.2 here, fillEntries_of_hold_ne es later]

end

theorem within_of_holds_ne (h : Holds (· ≠ c.mark) v) : c.within v = v := by
  rw [Value.within, fill_of_holds_ne v h, ite_self]

theorem entries_of_hold_ne (h : HoldIn (· ≠ m) es) : entries m es = es := by
  rw [Value.entries, List.map_congr_left (g := id), List.map_id]
  intro e member
  exact congrArg (Prod.mk e.1) (within_of_holds_ne (c := map m es) (holdIn_iff.1 h e member))

/-! ### Closing -/

mutual

theorem Holds.tieIn (around : List Nat) (v : Value) (h : Holds P v) : Holds P (tieIn around v) := by
  cases v with
  | pair a b =>
    obtain ⟨left, right⟩ := holds_pair.1 h
    exact holds_pair.2 ⟨Holds.tieIn around a left, Holds.tieIn around b right⟩
  | list m xs =>
    obtain ⟨mark, inner⟩ := holds_list.1 h
    rw [Value.tieIn]
    split
    next zero => exact holds_list.2 ⟨zero ▸ mark, holdItems_tie around xs inner⟩
    next =>
      split
      next => exact List.forall_mem_singleton.2 mark
      next => exact holds_list.2 ⟨mark, holdItems_tie (m :: around) xs inner⟩
  | map m es =>
    obtain ⟨mark, inner⟩ := holds_map.1 h
    rw [Value.tieIn]
    split
    next zero => exact holds_map.2 ⟨zero ▸ mark, HoldIn.tie around es inner⟩
    next =>
      split
      next => exact List.forall_mem_singleton.2 mark
      next => exact holds_map.2 ⟨mark, HoldIn.tie (m :: around) es inner⟩
  | _ => exact h

theorem holdItems_tie (around : List Nat) (xs : List Value) (h : ∀ m ∈ heldItems xs, P m) :
    ∀ m ∈ heldItems (tieItems around xs), P m := by
  cases xs with
  | nil => exact h
  | cons x xs =>
    obtain ⟨here, later⟩ := List.forall_mem_append.1 h
    exact List.forall_mem_append.2 ⟨Holds.tieIn around x here, holdItems_tie around xs later⟩

theorem HoldIn.tie (around : List Nat) (es : List (Key × Value)) (h : HoldIn P es) :
    HoldIn P (tieEntries around es) := by
  cases es with
  | nil => exact h
  | cons e es =>
    obtain ⟨here, later⟩ := holdIn_cons.1 h
    exact holdIn_cons.2 ⟨Holds.tieIn around e.2 here, HoldIn.tie around es later⟩

end

theorem Holds.unroll (n : Nat) (v : Value) (h : Holds P v) : Holds P (unroll n v) := by
  induction n generalizing v with
  | zero => cases v <;> exact h
  | succ n ih =>
    cases v with
    | pair a b =>
      obtain ⟨left, right⟩ := holds_pair.1 h
      exact holds_pair.2 ⟨ih a left, ih b right⟩
    | list m xs =>
      refine holds_list.2 ⟨(holds_list.1 h).1, holdItems_iff.2 fun x member => ?_⟩
      obtain ⟨y, there, rfl⟩ := List.mem_map.1 member
      exact ih y (h.items y there)
    | map m es =>
      refine holds_map.2 ⟨(holds_map.1 h).1, holdIn_iff.2 fun e member => ?_⟩
      obtain ⟨f, there, rfl⟩ := List.mem_map.1 member
      exact ih f.2 (holdIn_iff.1 h.entries f there)
    | _ => exact h

/-! ### Edits -/

mutual

theorem Holds.follow (now : Holds P e.now) (v : Value) (h : Holds P v) : Holds P (follow e v) := by
  cases v with
  | pair a b =>
    obtain ⟨left, right⟩ := holds_pair.1 h
    exact holds_pair.2 ⟨Holds.follow now a left, Holds.follow now b right⟩
  | list m xs =>
    rw [Value.follow]
    split
    next => exact now
    next => exact holds_list.2 ⟨(holds_list.1 h).1, holdItems_follow now xs (holds_list.1 h).2⟩
  | map m es =>
    rw [Value.follow]
    split
    next => exact now
    next => exact holds_map.2 ⟨(holds_map.1 h).1, HoldIn.follow now es (holds_map.1 h).2⟩
  | _ => exact h

theorem holdItems_follow (now : Holds P e.now) (xs : List Value) (h : ∀ m ∈ heldItems xs, P m) :
    ∀ m ∈ heldItems (followItems e xs), P m := by
  cases xs with
  | nil => exact h
  | cons x xs =>
    obtain ⟨here, later⟩ := List.forall_mem_append.1 h
    exact List.forall_mem_append.2 ⟨Holds.follow now x here, holdItems_follow now xs later⟩

theorem HoldIn.follow (now : Holds P e.now) (es : List (Key × Value)) (h : HoldIn P es) :
    HoldIn P (followEntries e es) := by
  cases es with
  | nil => exact h
  | cons f es =>
    obtain ⟨here, later⟩ := holdIn_cons.1 h
    exact holdIn_cons.2 ⟨Holds.follow now f.2 here, HoldIn.follow now es later⟩

end

theorem Holds.followAll {edits : List Edit} (nows : ∀ e ∈ edits, Holds P e.now) (h : Holds P v) :
    Holds P (followAll edits v) := by
  induction edits generalizing v with
  | nil => exact h
  | cons e edits ih =>
    obtain ⟨first, later⟩ := List.forall_mem_cons.1 nows
    exact ih later (Holds.follow first v h)

/-! ### Copies -/

section

variable {c : Copying} {bound : Nat}

theorem gives_markFor (m : Nat) (enough : (c.markFor m).2.next ≤ bound)
    (given : ∀ p ∈ c.given, P p.2) (new : ∀ m, c.next ≤ m → m < bound → P m) :
    P (c.markFor m).1 ∧ ∀ p ∈ (c.markFor m).2.given, P p.2 := by
  rw [Copying.markFor] at enough ⊢
  cases found : c.given.lookup m with
  | some n =>
    obtain ⟨before, after, same, -⟩ := List.lookup_eq_some_iff.1 found
    exact ⟨given (m, n) (same ▸ List.mem_append_right _ List.mem_cons_self), given⟩
  | none =>
    rw [found] at enough
    have fresh := new c.next (Nat.le_refl _) enough
    refine ⟨fresh, ?_⟩
    dsimp only
    split
    next => exact given
    next => exact List.forall_mem_cons.2 ⟨fresh, given⟩

mutual

/-- A copy holds containers that have been given marks for already, and new ones. -/
theorem holds_copyTied (c : Copying) (v : Value) (enough : (copyTied c v).2.next ≤ bound)
    (given : ∀ p ∈ c.given, P p.2) (new : ∀ m, c.next ≤ m → m < bound → P m) :
    Holds P (copyTied c v).1 ∧ ∀ p ∈ (copyTied c v).2.given, P p.2 := by
  cases v with
  | float x =>
    rw [copyTied_float]
    refine ⟨?_, given⟩
    unfold Key.copy
    split <;> exact fun _ member => absurd member List.not_mem_nil
  | pair a b =>
    have later := le_copyTied (copyTied c a).2 b
    obtain ⟨left, given'⟩ := holds_copyTied c a (Nat.le_trans later enough) given new
    obtain ⟨right, given''⟩ := holds_copyTied (copyTied c a).2 b enough given' fun m after =>
      new m (Nat.le_trans (le_copyTied c a) after)
    exact ⟨holds_pair.2 ⟨left, right⟩, given''⟩
  | list m xs =>
    have later := le_copyTiedItems (c.markFor m).2 xs
    obtain ⟨mark, given'⟩ := gives_markFor m (Nat.le_trans later enough) given new
    obtain ⟨inner, given''⟩ := hold_copyTiedItems (c.markFor m).2 xs enough given' fun n after =>
      new n (Nat.le_trans (le_markFor c m) after)
    exact ⟨holds_list.2 ⟨mark, inner⟩, given''⟩
  | map m es =>
    have later := le_copyTiedEntries (c.markFor m).2 es
    obtain ⟨mark, given'⟩ := gives_markFor m (Nat.le_trans later enough) given new
    obtain ⟨inner, given''⟩ := holdIn_copyTiedEntries
        (c.markFor m).2 es enough given' fun n after =>
      new n (Nat.le_trans (le_markFor c m) after)
    exact ⟨holds_map.2 ⟨mark, inner⟩, given''⟩
  | again m b =>
    obtain ⟨mark, given'⟩ := gives_markFor m enough given new
    exact ⟨List.forall_mem_singleton.2 mark, given'⟩
  | _ => exact ⟨fun _ member => absurd member List.not_mem_nil, given⟩

theorem hold_copyTiedItems (c : Copying) (xs : List Value)
    (enough : (copyTiedItems c xs).2.next ≤ bound) (given : ∀ p ∈ c.given, P p.2)
    (new : ∀ m, c.next ≤ m → m < bound → P m) :
    (∀ m ∈ heldItems (copyTiedItems c xs).1, P m) ∧ ∀ p ∈ (copyTiedItems c xs).2.given, P p.2 := by
  cases xs with
  | nil => exact ⟨fun _ member => absurd member List.not_mem_nil, given⟩
  | cons x xs =>
    have later := le_copyTiedItems (copyTied c x).2 xs
    obtain ⟨here, given'⟩ := holds_copyTied c x (Nat.le_trans later enough) given new
    obtain ⟨others, given''⟩ := hold_copyTiedItems (copyTied c x).2 xs enough given' fun m after =>
      new m (Nat.le_trans (le_copyTied c x) after)
    exact ⟨List.forall_mem_append.2 ⟨here, others⟩, given''⟩

theorem holdIn_copyTiedEntries (c : Copying) (es : List (Key × Value))
    (enough : (copyTiedEntries c es).2.next ≤ bound) (given : ∀ p ∈ c.given, P p.2)
    (new : ∀ m, c.next ≤ m → m < bound → P m) :
    HoldIn P (copyTiedEntries c es).1 ∧ ∀ p ∈ (copyTiedEntries c es).2.given, P p.2 := by
  cases es with
  | nil => exact ⟨holdIn_nil, given⟩
  | cons e es =>
    obtain ⟨k, v⟩ := e
    let named : Copying := ⟨(k.copy c.next).2, c.given⟩
    have first : c.next ≤ named.next := Key.next_le_copy c.next k
    have later := le_copyTiedEntries (copyTied named v).2 es
    obtain ⟨here, given'⟩ := holds_copyTied named v (Nat.le_trans later enough) given fun m after =>
      new m (Nat.le_trans first after)
    obtain ⟨others, given''⟩ := holdIn_copyTiedEntries
        (copyTied named v).2 es enough given' fun m after =>
      new m (Nat.le_trans (Nat.le_trans first (le_copyTied named v)) after)
    exact ⟨holdIn_cons.2 ⟨here, others⟩, given''⟩

end

end

end Value

/-! ### Operations of a store -/

namespace Store

open Value

variable {P : Nat → Prop} {s t : Store} {next mark : Nat} {es : List (Key × Value)}
  {segs : List String} {v : Value}

theorem holds_value (k : Key) : Holds P k.value := by
  cases k <;> exact fun _ member => absurd member List.not_mem_nil

theorem holds_pairOf {i : Nat} {p : Key × Value} (h : Holds P v) (pair : pairOf i v = .ok p) :
    Holds P p.2 := by
  unfold pairOf at pair
  split at pair
  next m k w =>
    split at pair
    next =>
      cases pair
      exact holdItems_iff.1 (holds_list.1 h).2 w (by simp)
    next => cases pair
  next => cases pair
  next =>
    split at pair
    next =>
      cases pair
      exact fun _ member => absurd member List.not_mem_nil
    next => cases pair
  next =>
    cases pair
    exact holds_value _
  next => cases pair
  next => cases pair

theorem holdIn_pairsOf (i : Nat) {vs : List Value} (h : ∀ v ∈ vs, Holds P v) :
    HoldIn P (pairsOf i vs).1 := by
  induction vs generalizing i with
  | nil => exact holdIn_nil
  | cons v vs ih =>
    obtain ⟨here, later⟩ := List.forall_mem_cons.1 h
    rw [pairsOf]
    split
    next pair => exact holdIn_cons.2 ⟨holds_pairOf here pair, ih (i + 1) later⟩
    next => exact holdIn_nil

/-- Merging brings in what the value holds. -/
theorem holdIn_mergePairs (h : Holds P v) : HoldIn P (mergePairs v).1 := by
  unfold mergePairs
  split
  next => exact (holds_map.1 h).2
  next => exact holdIn_pairsOf 0 (holdItems_iff.1 (holds_list.1 h).2)
  next s =>
    refine holdIn_pairsOf 0 fun v member => ?_
    obtain ⟨c, -, rfl⟩ := List.mem_map.1 member
    exact fun _ none => absurd none List.not_mem_nil
  next => exact holdIn_nil

theorem holds_ownParts {edits : List Edit} (nows : ∀ e ∈ edits, Holds P e.now) (value : Holds P v) :
    Holds P (s.ownParts edits v) := by
  rw [ownParts]
  split
  next => exact Holds.unroll 1 _ (Holds.tieIn [] _ (value.followAll nows))
  next => exact value

theorem holdIn_emptyTiers (new : ∀ m, next ≤ m → m < next + 5 → P m) :
    HoldIn P (emptyTiers next) := by
  intro m member
  simp only [emptyTiers, heldEntries, held, List.append_nil, List.cons_append, List.nil_append,
    List.mem_cons,
    List.not_mem_nil, or_false] at member
  exact new m (by omega) (by omega)

theorem holdIn_adoptEntries (shared : s.shared = true) (es : List (Key × Value))
    (new : ∀ m, s.next ≤ m → m < (s.adoptEntries es).2.next → P m) :
    HoldIn P (s.adoptEntries es).1 := by
  rw [adoptEntries, if_pos shared] at new ⊢
  exact (holdIn_copyTiedEntries ⟨s.next, []⟩ es (Nat.le_refl _) (List.forall_mem_nil _) new).1

/-- A state that has been restored holds new containers only. -/
theorem holds_restore (shared : s.shared = true) {snapshot : Value}
    (done : s.restore snapshot = .ok t) (new : ∀ m, s.next ≤ m → m < t.next → P m) :
    HoldIn P t.tiers := by
  obtain ⟨pairs, -, rfl⟩ := restore_ok done
  let u : Store := { s with next := s.next + 5 }
  have grown : s.next + 5 ≤ (u.adoptEntries pairs).2.next := le_adoptEntries u pairs
  dsimp only at new ⊢
  rw [if_pos shared]
  refine HoldIn.tie [] _ (HoldIn.setAll (holdIn_emptyTiers fun m after before => ?_) ?_)
  · exact new m after (Nat.lt_of_lt_of_le before grown)
  · exact holdIn_adoptEntries (s := u) shared pairs fun m after before =>
      new m (Nat.le_trans (Nat.le_add_right _ 5) after) before

theorem holds_resetScene (state : HoldIn P s.tiers) (new : ∀ m, s.next ≤ m → m < s.next + 3 → P m) :
    HoldIn P s.resetScene.tiers := by
  have scene : Holds P (.map s.next [(.str "vars", .map (s.next + 1) [])]) := by
    refine holds_map.2 ⟨new _ (by omega) (by omega),
      holdIn_cons.2 ⟨holds_map.2 ⟨?_, holdIn_nil⟩, holdIn_nil⟩⟩
    exact new _ (by omega) (by omega)
  exact (state.set _ scene).set _ (holds_map.2 ⟨new _ (by omega) (by omega), holdIn_nil⟩)

theorem holds_nest (new : ∀ m, next ≤ m → m < next + segs.length → P m) (value : Holds P v) :
    Holds P (nest next segs v) := by
  induction segs generalizing next with
  | nil => exact value
  | cons s rest ih =>
    rw [List.length_cons] at new
    refine holds_map.2 ⟨new next (Nat.le_refl _) (by omega),
      holdIn_cons.2 ⟨ih fun m after before => ?_, holdIn_nil⟩⟩
    exact new m (Nat.le_of_succ_le after) (by omega)

/-- A write brings in new mappings and the value. -/
theorem holds_write (mapping : Holds P (.map mark es))
    (new : ∀ m, next ≤ m → m < next + segs.length → P m) (value : Holds P v) :
    HoldIn P (write next mark es segs v).1 ∧ P (write next mark es segs v).2.mark ∧
      Holds P (write next mark es segs v).2.now := by
  induction segs generalizing mark es with
  | nil => exact ⟨(holds_map.1 mapping).2, (holds_map.1 mapping).1, mapping⟩
  | cons s rest ih =>
    rw [List.length_cons] at new
    obtain ⟨own, inner⟩ := holds_map.1 mapping
    have shorter : ∀ m, next ≤ m → m < next + rest.length → P m :=
      fun m after before => new m after (by omega)
    rcases write_cons next mark es s rest v with ⟨m, fs, -, found, written⟩ | ⟨-, written⟩
    · have child := inner.get? found
      obtain ⟨entries, edited, now⟩ := ih child shorter
      rw [written]
      exact ⟨inner.set _ (holds_map.2 ⟨(holds_map.1 child).1, entries⟩), edited, now⟩
    · rw [written]
      have entries := inner.set (.str s) (holds_nest shorter value)
      exact ⟨entries, own, holds_map.2 ⟨own, entries⟩⟩

section

variable (root : P 0) (state : HoldIn P s.tiers)

include root state

theorem holds_drafted (new : ∀ m, s.next ≤ m → m < s.next + segs.length → P m) (value : Holds P v) :
    HoldIn P (s.drafted segs v).1 ∧ P (s.drafted segs v).2.mark ∧ Holds P
      (s.drafted segs v).2.now := by
  have whole : Holds P s.root := holds_map.2 ⟨root, state⟩
  have opened : Holds P (s.opened segs) := by
    rw [Store.opened]
    split
    next => exact whole.along segs
    next => exact whole
  rw [drafted]
  split
  next m es there =>
    rw [there] at opened
    exact holds_write (holds_map.2 ⟨root, (holds_map.1 opened).2⟩) new value
  next => exact ⟨state, root, whole⟩

omit root in
theorem holds_edited {written : List (Key × Value)} (drafted : HoldIn P written) {e : Edit}
    (now : Holds P e.now) : HoldIn P (s.edited written e).tiers := by
  show HoldIn P (if s.shared then s.afterEdit written e else written)
  split
  next =>
    refine HoldIn.tie [] _ ?_
    split
    next => exact drafted
    next => exact HoldIn.follow now s.tiers state
  next => exact drafted

theorem holds_place (new : ∀ m, s.next ≤ m → m < s.next + segs.length → P m) (value : Holds P v) :
    HoldIn P (s.place segs v).1.tiers ∧ ∀ e ∈ (s.place segs v).2, P e.mark ∧ Holds P e.now := by
  obtain ⟨entries, edited, now⟩ := holds_drafted root state new value
  exact ⟨holds_edited state entries now, List.forall_mem_singleton.2 ⟨edited, now⟩⟩

theorem holds_makeNode {id : String} (new : ∀ m, s.next ≤ m → m < (s.makeNode id).1.next → P m) :
    HoldIn P (s.makeNode id).1.tiers ∧ ∀ e ∈ (s.makeNode id).2, P e.mark ∧ Holds P e.now := by
  rcases s.makeNode_cases id with ⟨-, same⟩ | ⟨-, made⟩
  · rw [same]
    exact ⟨state, fun _ none => absurd none List.not_mem_nil⟩
  · rw [made] at new ⊢
    have before := Nat.lt_of_lt_of_le (Nat.lt_succ_self s.next)
      (le_place { s with next := s.next + 1 } ["nodes", id] (.map s.next []))
    have fresh : Holds P (.map s.next []) := holds_map.2 ⟨new _ (Nat.le_refl _) before, holdIn_nil⟩
    exact holds_place (s := { s with next := s.next + 1 }) root state
      (fun m after before => new m (Nat.le_of_succ_le after) before) fresh

omit root state in
theorem holds_nodeMapping {id : String} {n : Nat} (here : s.nodeMapping? id = some (n, es))
    (tier : ∀ v, Entries.get? (.str "nodes") s.tiers = some v → Holds P v) :
    Holds P (.map n es) := by
  have own {m : Nat} {fs : List (Key × Value)} (h : Holds P (.map m fs)) :
      HoldIn P (s.ownEntries m fs) := by
    rw [ownEntries]
    split
    next => exact h.entries
    next => exact (holds_map.1 h).2
  rw [nodeMapping?] at here
  split at here
  next m nodes entries =>
    split at here
    next n' fs found =>
      obtain ⟨rfl, rfl⟩ := Prod.mk.inj (Option.some.inj here)
      have node := (own (tier _ (nodeEntries_eq_ok_iff.1 entries))).get? found
      exact holds_map.2 ⟨(holds_map.1 node).1, own node⟩
    next => cases here
  next => cases here

/-- Nothing new is made to write into a node. -/
theorem holds_drafted_node (id : String) (holds : s.HoldsNodes) (value : Holds P v) :
    HoldIn P (s.drafted ["nodes", id] v).1 ∧ P (s.drafted ["nodes", id] v).2.mark ∧
      Holds P (s.drafted ["nodes", id] v).2.now := by
  obtain ⟨m, nodes, found⟩ := holds
  obtain ⟨es, opened, entry, -⟩ := s.exists_opened_cons "nodes" [id]
  have whole : Holds P s.root := holds_map.2 ⟨root, state⟩
  have inner : Holds P (.map 0 es) := by
    rw [← opened, Store.opened]
    split
    next => exact whole.along _
    next => exact whole
  have mapping : ∃ nodes', Entries.get? (.str "nodes") es = some (.map m nodes') := by
    rw [entry, found]
    split
    next => exact ⟨_, rfl⟩
    next => exact ⟨_, rfl⟩
  obtain ⟨nodes', there⟩ := mapping
  have tier := holds_map.1 ((holds_map.1 inner).2.get? there)
  have now : Holds P (.map m (Entries.set (.str id) v nodes')) :=
    holds_map.2 ⟨tier.1, tier.2.set (.str id) value⟩
  have written : s.drafted ["nodes", id] v =
      (Entries.set (.str "nodes") (.map m (Entries.set (.str id) v nodes')) es,
        ⟨m, .map m (Entries.set (.str id) v nodes')⟩) := by
    rw [drafted, opened]
    show write s.next 0 es ["nodes", id] v = _
    rw [write_into there (List.cons_ne_nil id [])]
    simp only [write, nest]
  rw [written]
  exact ⟨(holds_map.1 inner).2.set _ now, tier.1, now⟩

theorem holds_place_node (id : String) (holds : s.HoldsNodes) (value : Holds P v) :
    HoldIn P (s.place ["nodes", id] v).1.tiers ∧ ∀ e ∈ (s.place ["nodes", id] v).2, P e.mark ∧
      Holds P e.now := by
  obtain ⟨entries, edited, now⟩ := holds_drafted_node root state id holds value
  exact ⟨holds_edited state entries now, List.forall_mem_singleton.2 ⟨edited, now⟩⟩

theorem holds_mergeNode (id : String) {news : List (Key × Value)} (values : HoldIn P news) :
    HoldIn P (s.mergeNode id news).1.tiers ∧ ∀ e ∈ (s.mergeNode id news).2, P e.mark ∧
      Holds P e.now := by
  cases here : s.nodeMapping? id with
  | none =>
    rw [mergeNode_of_none here]
    exact ⟨state, fun _ none => absurd none List.not_mem_nil⟩
  | some p =>
    obtain ⟨n, old⟩ := p
    obtain ⟨mark, entries⟩ := holds_map.1 (holds_nodeMapping here fun v => state.get?)
    have now : Holds P (.map n (Entries.setAll news old)) :=
      holds_map.2 ⟨mark, entries.setAll values⟩
    have drafted := (holds_drafted_node root state id (holdsNodes_of_mapping here) now).1
    rw [mergeNode_of_some here]
    exact ⟨holds_edited state drafted now, List.forall_mem_singleton.2 ⟨mark, now⟩⟩

/-- Updates bring in new mappings, and what they hold. -/
theorem holds_updateNodeState {id : String} {updates : Value} {edits : List Edit}
    {fault : Option Fault} (done : s.updateNodeState id updates = .ok (t, edits, fault))
    (values : Holds P updates) (new : ∀ m, s.next ≤ m → m < t.next → P m) :
    HoldIn P t.tiers ∧ ∀ e ∈ edits, P e.mark ∧ Holds P e.now := by
  obtain ⟨-, news, merged, rfl, rfl⟩ := updateNodeState_ok done
  rw [next_mergeNode] at new
  obtain ⟨state', made⟩ := holds_makeNode root state new
  have parts : Holds P ((s.makeNode id).1.ownParts (s.makeNode id).2 updates) :=
    holds_ownParts (fun e member => (made e member).2) values
  have entries := holdIn_mergePairs parts
  rw [merged] at entries
  obtain ⟨state'', written⟩ := holds_mergeNode root state' id entries
  exact ⟨state'', List.forall_mem_append.2 ⟨made, written⟩⟩

end

end Store

end SceneCourse
