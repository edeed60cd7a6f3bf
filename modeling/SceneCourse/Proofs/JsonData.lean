import Mathlib.Logic.Basic
import SceneCourse.Json.Record
import SceneCourse.Json.Text
import SceneCourse.Proofs.RecordReading

/-! Data as JSON knows them: null, truth values, integers, texts, lists, and mappings from texts.
Their form in a record is what a reader sees of them, unless they have too many levels; their text
does not tell what is held at two places; and nothing but an integer with too many digits keeps them
from being written. -/

namespace SceneCourse

/-! ### What succeeds under a condition -/

section

variable {ε α β γ : Type} {p : Prop} [Decidable p] {r : γ → Prop} [DecidablePred r] {a : α} {b : β}
  {e : ε}

/-- What succeeds under a condition on the first of several, followed by what succeeds under it on
the others. -/
theorem bind_guard {x : γ} {xs : List γ} {f : α → Except ε β}
    (next : f a = if ∀ y ∈ xs, r y then .ok b else .error e) :
    (if r x then .ok a else .error e) >>= f = if ∀ y ∈ x :: xs, r y then .ok b else .error e := by
  by_cases first : r x
  · rw [if_pos first, if_congr (List.forall_mem_cons.trans (and_iff_right first)) rfl rfl, ← next]
    rfl
  · rw [if_neg first, if_neg fun all => first (all x List.mem_cons_self)]
    rfl

theorem map_guard {f : α → β} : (if p then .ok a else .error e) >>= (fun a => pure (f a)) =
    if p then (.ok (f a) : Except ε β) else .error e := by
  split <;> rfl

end

theorem forall_keyed {p : Value → Prop} {fields : List (String × Value)} :
    (∀ e ∈ keyed fields, p e.2) ↔ ∀ f ∈ fields, p f.2 := List.forall_mem_map

theorem not_mem_names {before fields : List (String × Value)} {f : String × Value}
    (names : ((before ++ f :: fields).map (·.1)).Nodup) : f.1 ∉ before.map (·.1) := by
  simp only [List.map_append, List.map_cons, List.nodup_append] at names
  exact fun mem => names.2.2 f.1 mem f.1 List.mem_cons_self rfl

theorem set_keyed {before : List (String × Value)} {name : String} (new : name ∉ before.map (·.1)) (v : Value) :
    Entries.set (.str name) v (keyed before) = keyed (before ++ [(name, v)]) := by
  induction before with
  | nil => rfl
  | cons f before ih =>
    obtain ⟨s, w⟩ := f
    rw [List.map_cons, List.mem_cons, not_or] at new
    have other : ¬Key.same (.str s) (.str name) = true := by simpa using fun same : s = name => new.1 same.symm
    show (if Key.same (.str s) (.str name) then (Key.str s, v) :: keyed before
      else (.str s, w) :: Entries.set (.str name) v (keyed before)) = _
    rw [if_neg other, ih new.2]
    rfl

namespace Value

/-- Data that JSON knows. -/
inductive IsData : Value → Prop where
  | null : IsData .null
  | bool (b : Bool) : IsData (.bool b)
  | int (n : Int) : IsData (.int n)
  | str (s : String) : IsData (.str s)
  | list (mark : Nat) {xs : List Value} (each : ∀ x ∈ xs, IsData x) : IsData (.list mark xs)
  | map (mark : Nat) {fields : List (String × Value)} (names : (fields.map (·.1)).Nodup)
    (each : ∀ f ∈ fields, IsData f.2) : IsData (.map mark (keyed fields))

mutual

/-- How many levels data have: one more than the parts with the most. -/
def levels : Value → Nat
  | list _ xs => itemsLevels xs + 1
  | map _ es => entriesLevels es + 1
  | _ => 1

def itemsLevels : List Value → Nat
  | [] => 0
  | x :: xs => max (levels x) (itemsLevels xs)

def entriesLevels : List (Key × Value) → Nat
  | [] => 0
  | (_, v) :: es => max (levels v) (entriesLevels es)

end

mutual

def integers : Value → List Int
  | int n => [n]
  | list _ xs => itemsIntegers xs
  | map _ es => entriesIntegers es
  | _ => []

def itemsIntegers : List Value → List Int
  | [] => []
  | x :: xs => integers x ++ itemsIntegers xs

def entriesIntegers : List (Key × Value) → List Int
  | [] => []
  | (_, v) :: es => integers v ++ entriesIntegers es

end

section

variable {v : Value} {xs : List Value} {fields : List (String × Value)} {room : Nat}

theorem levels_pos (v : Value) : 0 < v.levels := by
  cases v <;> simp [levels]

theorem itemsLevels_le_iff : itemsLevels xs ≤ room ↔ ∀ x ∈ xs, x.levels ≤ room := by
  induction xs with
  | nil => simp [itemsLevels]
  | cons x xs ih => rw [itemsLevels, Nat.max_le, ih, List.forall_mem_cons]

theorem entriesLevels_le_iff {es : List (Key × Value)} :
    entriesLevels es ≤ room ↔ ∀ e ∈ es, e.2.levels ≤ room := by
  induction es with
  | nil => simp [entriesLevels]
  | cons e es ih => rw [entriesLevels, Nat.max_le, ih, List.forall_mem_cons]

theorem forall_itemsIntegers {p : Int → Prop} :
    (∀ n ∈ itemsIntegers xs, p n) ↔ ∀ x ∈ xs, ∀ n ∈ x.integers, p n := by
  induction xs with
  | nil => simp [itemsIntegers]
  | cons x xs ih => rw [itemsIntegers, List.forall_mem_append, ih, List.forall_mem_cons]

theorem forall_entriesIntegers {p : Int → Prop} {es : List (Key × Value)} :
    (∀ n ∈ entriesIntegers es, p n) ↔ ∀ e ∈ es, ∀ n ∈ e.2.integers, p n := by
  induction es with
  | nil => simp [entriesIntegers]
  | cons e es ih => rw [entriesIntegers, List.forall_mem_append, ih, List.forall_mem_cons]

theorem plainItems_eq_map (xs : List Value) : plainItems xs = xs.map plain := by
  induction xs with
  | nil => rfl
  | cons x xs ih => rw [plainItems, ih, List.map_cons]

theorem plainEntries_keyed (fields : List (String × Value)) :
    plainEntries (keyed fields) = keyed (mapFields plain fields) := by
  induction fields with
  | nil => rfl
  | cons f fields ih => exact congrArg ((Key.str f.1, f.2.plain) :: ·) ih

/-! ### The form in a record -/

theorem recordedItems_eq
    (each : ∀ x ∈ xs, x.recorded room = if x.levels ≤ room then .ok x.plain
      else .error (.badValue .tooManyLevels)) :
    recordedItems room xs =
      if ∀ x ∈ xs, x.levels ≤ room then .ok (xs.map plain) else .error
        (.badValue .tooManyLevels) := by
  induction xs with
  | nil => rfl
  | cons x xs ih =>
    rw [List.forall_mem_cons] at each
    rw [recordedItems, each.1, ih each.2]
    exact bind_guard (r := fun x : Value => x.levels ≤ room) map_guard

theorem recordedEntries_eq {before : List (String × Value)}
    (names : ((before ++ fields).map (·.1)).Nodup)
    (each : ∀ f ∈ fields, f.2.recorded room = if f.2.levels ≤ room then .ok f.2.plain
      else .error (.badValue .tooManyLevels)) :
    recordedEntries room (keyed before) (keyed fields) =
      if ∀ f ∈ fields, f.2.levels ≤ room then .ok (keyed (before ++ mapFields plain fields))
      else .error (.badValue .tooManyLevels) := by
  induction fields generalizing before with
  | nil => simp [keyed, mapFields, recordedEntries]
  | cons f fields ih =>
    obtain ⟨name, v⟩ := f
    rw [List.forall_mem_cons] at each
    have new : name ∉ before.map (·.1) := not_mem_names names
    have names' : (((before ++ [(name, v.plain)]) ++ fields).map (·.1)).Nodup := by
      simpa using names
    show (do
      let w ← v.recorded room
      recordedEntries room (Entries.set (.str name) w (keyed before)) (keyed fields)) = _
    have next : recordedEntries room (Entries.set (.str name) v.plain (keyed before))
        (keyed fields) =
        if ∀ f ∈ fields, f.2.levels ≤ room then
          .ok (keyed (before ++ mapFields plain ((name, v) :: fields)))
        else .error (.badValue .tooManyLevels) := by
      rw [set_keyed new, ih names' each.2, List.append_assoc]
      rfl
    rw [each.1]
    exact bind_guard (r := fun f : String × Value => f.2.levels ≤ room) next

/-- The form of data in a record is what a reader sees of them. -/
theorem IsData.recorded_eq (data : v.IsData) (room : Nat) :
    v.recorded room = if v.levels ≤ room then .ok v.plain else .error
      (.badValue .tooManyLevels) := by
  induction data generalizing room with
  | list mark _ ih =>
    cases room with
    | zero => simp [recorded, levels]
    | succ room =>
      simp only [recorded, recordedItems_eq fun x mem => ih x mem room, levels,
        Nat.add_le_add_iff_right,
        itemsLevels_le_iff, plain, plainItems_eq_map]
      split <;> rfl
  | @map mark fields names _ ih =>
    cases room with
    | zero => simp [recorded, levels]
    | succ room =>
      have entries : recordedEntries room (keyed []) (keyed fields) = _ :=
        recordedEntries_eq names fun f mem => ih f mem room
      simp only [recorded, levels, Nat.add_le_add_iff_right, entriesLevels_le_iff,
        forall_keyed (p := (·.levels ≤ room)),
        plain, plainEntries_keyed]
      rw [show ([] : List (Key × Value)) = keyed [] from rfl, entries]
      split <;> rfl
  | _ => cases room <;> simp [recorded, levels, plain]

end

end Value

/-! ### The text -/

namespace Json

open Value

variable {v : Value} {xs : List Value} {fields : List (String × Value)} {style : JsonStyle}

theorem items_plain {depth : Nat}
    (each : ∀ x ∈ xs, chars style depth x.plain = chars style depth x) :
    items style depth (xs.map plain) = items style depth xs := by
  induction xs with
  | nil => rfl
  | cons x xs ih =>
    rw [List.forall_mem_cons] at each
    rw [List.map_cons, items, items, each.1, ih each.2]

theorem members_plain {depth : Nat}
    (each : ∀ f ∈ fields, chars style depth f.2.plain = chars style depth f.2) :
    members style depth (keyed (mapFields plain fields)) = members style depth (keyed fields) := by
  induction fields with
  | nil => rfl
  | cons f fields ih =>
    rw [List.forall_mem_cons] at each
    have same := ih each.2
    simp only [keyed, mapFields, List.map_cons, members] at same ⊢
    rw [each.1, same]

/-- The text does not tell what is held at two places. -/
theorem chars_plain (data : v.IsData) (depth : Nat) :
    chars style depth v.plain = chars style depth v := by
  induction data generalizing depth with
  | @list mark xs _ ih =>
    cases xs with
    | nil => rfl
    | cons x xs =>
      have first := ih x List.mem_cons_self (depth + 1)
      have later := items_plain fun y mem => ih y (List.mem_cons_of_mem x mem) (depth + 1)
      rw [plain, plainItems_eq_map, List.map_cons, chars, chars, first, later]
  | @map mark fields _ _ ih =>
    cases fields with
    | nil => rfl
    | cons f fields =>
      have first := ih f List.mem_cons_self (depth + 1)
      have later := members_plain fun g mem => ih g (List.mem_cons_of_mem f mem) (depth + 1)
      rw [plain, plainEntries_keyed]
      simp only [keyed, mapFields, List.map_cons, chars] at later ⊢
      rw [first, later]
  | _ => rfl

theorem itemsFault?_eq_none_iff : itemsFault? xs = none ↔ ∀ x ∈ xs, fault? x = none := by
  induction xs with
  | nil => simp [itemsFault?]
  | cons x xs ih => simp [itemsFault?, ih]

theorem entriesFault?_eq_none_iff :
    entriesFault? (keyed fields) = none ↔ ∀ f ∈ fields, fault? f.2 = none := by
  induction fields with
  | nil => simp [keyed, entriesFault?]
  | cons f fields ih =>
    have more : entriesFault? (keyed (f :: fields)) =
        (fault? f.2).or (entriesFault? (keyed fields)) := rfl
    rw [more, Option.or_eq_none_iff, ih, List.forall_mem_cons]

/-- Nothing but an integer with too many digits keeps data from being written. -/
theorem fault?_plain_eq_none_iff (data : v.IsData) :
    fault? v.plain = none ↔ ∀ n ∈ v.integers, n.natAbs < leastLong := by
  induction data with
  | int n => simp [plain, fault?, integers]
  | list mark _ ih =>
    rw [plain, plainItems_eq_map, fault?, itemsFault?_eq_none_iff, integers, forall_itemsIntegers,
      List.forall_mem_map]
    exact forall₂_congr ih
  | map mark _ _ ih =>
    rw [plain, plainEntries_keyed, fault?, entriesFault?_eq_none_iff, integers,
      forall_entriesIntegers, mapFields,
      List.forall_mem_map, forall_keyed (p := fun v => ∀ n ∈ v.integers, n.natAbs < leastLong)]
    exact forall₂_congr ih
  | _ => simp [plain, fault?, integers]

/-- Data that are seen are written as their text, if no integer has too many digits. -/
theorem text_plain_eq_ok_iff (data : v.IsData) {written : String} :
    text style v.plain = .ok written ↔ (∀ n ∈ v.integers, n.natAbs < leastLong) ∧
      written = print style v := by
  have printed : print style v.plain = print style v := by rw [print, chars_plain data, print]
  rw [text, ← fault?_plain_eq_none_iff data]
  cases fault? v.plain with
  | some e => simp
  | none => simp [printed, eq_comm]

end Json

end SceneCourse
