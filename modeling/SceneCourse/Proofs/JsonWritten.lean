import SceneCourse.Number.Lenient
import SceneCourse.Proofs.JsonReread
import SceneCourse.Proofs.SameKey

/-! What a reader makes of any text. Proved: it holds no part at two places, its integers are short,
and it has no more levels than the reader has room for. So data that were read once are read
again. -/

namespace SceneCourse

/-! ### Integers -/

namespace Json

theorem naturalOf_lt {ds : List Char} (digits : ∀ d ∈ ds, d.isDigit = true) :
    naturalOf ds < 10 ^ ds.length := by
  have fold (acc : Nat) : ds.foldl (fun n d => 10 * n + (d.toNat - 48)) acc <
      (acc + 1) * 10 ^ ds.length := by
    induction ds generalizing acc with
    | nil => simp
    | cons d ds ih =>
      rw [List.forall_mem_cons] at digits
      have small : d.toNat ≤ 57 := (Char.isDigit_iff_toNat.mp digits.1).2
      calc
        _ < (10 * acc + (d.toNat - 48) + 1) * 10 ^ ds.length := ih digits.2 _
        _ ≤ (10 * (acc + 1)) * 10 ^ ds.length := Nat.mul_le_mul_right _ (by omega)
        _ = (acc + 1) * 10 ^ (ds.length + 1) := by rw [Nat.pow_succ]; ac_rfl
  have read := fold 0
  rwa [Nat.zero_add, Nat.one_mul] at read

/-- What not too many digits are read as is short, with or without a minus. -/
theorem isShort_naturalOf (negative : Bool) {ds : List Char} (digits : ∀ d ∈ ds, d.isDigit = true)
    (fits : ds.length ≤ Numeral.mostDigits) :
    IsShort (if negative then -(naturalOf ds : Int) else naturalOf ds) := by
  have size : (if negative then -(naturalOf ds : Int) else naturalOf ds).natAbs = naturalOf ds := by
    cases negative <;> simp
  exact isShort_of_lt (by rw [size]; exact naturalOf_lt digits) fits

theorem isDigit_of_mem_wholePart (cs : List Char) : ∀ d ∈ (wholePart cs).1, d.isDigit = true := by
  intro d mem
  unfold wholePart at mem
  split at mem
  · rw [List.mem_singleton.mp mem]
    rfl
  · exact List.all_eq_true.mp List.all_takeWhile d mem

end Json

namespace Lenient

open Json

theorem isShort_plain {negative : Bool} {cs : List Char} {n : Int}
    (read : plain negative cs = .written n) : IsShort n := by
  have digits : ∀ d ∈ cs.takeWhile Char.isDigit, d.isDigit = true :=
    List.all_eq_true.mp List.all_takeWhile
  unfold plain at read
  dsimp only at read
  split at read
  next => cases read
  next =>
    split at read
    next =>
      split at read <;> cases read
      exact leastLong_pos
    next =>
      by_cases long : longest < (cs.takeWhile Char.isDigit).length + (if negative then 1 else 0)
      · rw [if_pos long] at read
        cases read
      · rw [if_neg long] at read
        by_cases more : (cs.takeWhile Char.isDigit).length < cs.length
        · rw [if_pos more] at read
          cases read
        · rw [if_neg more] at read
          cases read
          exact isShort_naturalOf _ digits
            (Nat.le_trans (Nat.le_add_right _ _) (Nat.le_of_not_lt long))

theorem isShort_signed {cs : List Char} {n : Int} (read : signed cs = .written n) : IsShort n := by
  unfold signed at read
  split at read <;> exact isShort_plain read

/-- An integer that a text writes is short. -/
theorem isShort_integer {s : String} {n : Int} (read : integer s = .written n) : IsShort n := by
  have bared {cs : List Char} {take : List Char → IntegerText}
      (short : ∀ ds, take ds = .written n → IsShort n)
      (read : (bare cs).elim .noInteger take = .written n) : IsShort n := by
    cases found : bare cs with
    | none => simp [found] at read
    | some ds => exact short ds (by simpa [found] using read)
  unfold integer at read
  dsimp only at read
  split at read
  · split at read
    · exact bared (fun _ => isShort_plain) read
    · cases read
    · exact bared (fun _ => isShort_signed) read
    · exact bared (fun _ => isShort_signed) read
  · exact isShort_signed read

end Lenient

/-! ### Values -/

namespace Value

/-- No part of the value is held at two places, and its integers are short. -/
inductive Written : Value → Prop where
  | null : Written .null
  | bool (b : Bool) : Written (.bool b)
  | int {n : Int} (short : Json.IsShort n) : Written (.int n)
  | float (x : Binary64) : Written (.float x)
  | str (s : String) : Written (.str s)
  | list {xs : List Value} (each : ∀ x ∈ xs, Written x) : Written (.list 0 xs)
  | map {es : List (Key × Value)} (each : ∀ e ∈ es, Written e.2) : Written (.map 0 es)

variable {v : Value}

theorem Written.isShort (written : v.Written) : ∀ n ∈ v.integers, Json.IsShort n := by
  induction written with
  | int short => simpa [integers] using short
  | list _ ih => rwa [integers, forall_itemsIntegers]
  | map _ ih => rwa [integers, forall_entriesIntegers]
  | _ => simp [integers]

/-- A reader of such data sees all there is to them. -/
theorem Written.plain_eq (written : v.Written) (data : v.IsData) : v.plain = v := by
  induction data with
  | list mark _ ih =>
    cases written with
    | list each =>
      rw [plain, plainItems_eq_map, List.map_congr_left fun x mem => ih x mem
        (each x mem), List.map_id']
  | @map mark fields _ _ ih =>
    cases written with
    | map each =>
      have same : ∀ f ∈ fields, (f.1, f.2.plain) = id f :=
        fun f mem => Prod.ext rfl (ih f mem (forall_keyed.mp each f mem))
      rw [plain, plainEntries_keyed, mapFields, List.map_congr_left same, List.map_id]
  | _ => rfl

end Value

namespace Json

open Value

/-- A value that a reader may come to, with so much room. -/
structure ReadWithin (room : Option Nat) (v : Value) : Prop where
  written : v.Written
  levels : ∀ most ∈ room, v.levels ≤ most + 1

section

variable {rules : Rules} {room inner : Option Nat} {fuel : Nat} {cs rest : List Char} {v : Value}

theorem ReadWithin.of_leaf (written : v.Written) (leaf : v.levels = 1) : ReadWithin room v :=
  ⟨written, fun most _ => by omega⟩

/-- A container is read with one level more than its parts. -/
theorem levels_of_deeper {parts : List Value} (deep : deeper room = .ok inner)
    (each : ∀ x ∈ parts, ReadWithin inner x) {most : Nat} (limit : most ∈ room) :
    ∀ x ∈ parts, x.levels ≤ most := by
  cases limit
  cases most with
  | zero => cases deep
  | succ most =>
    cases deep
    exact fun x mem => (each x mem).levels most rfl

theorem ReadWithin.list {xs : List Value} (deep : deeper room = .ok inner)
    (each : ∀ x ∈ xs, ReadWithin inner x) : ReadWithin room (.ofList xs) := by
  refine ⟨.list fun x mem => (each x mem).written, fun most limit => ?_⟩
  rw [ofList, Value.levels, Nat.add_le_add_iff_right, itemsLevels_le_iff]
  exact levels_of_deeper deep each limit

theorem ReadWithin.map {es : List (Key × Value)} (deep : deeper room = .ok inner)
    (each : ∀ e ∈ es, ReadWithin inner e.2) : ReadWithin room (.ofEntries es) := by
  refine ⟨.map fun e mem => (each e mem).written, fun most limit => ?_⟩
  rw [ofEntries, Value.levels, Nat.add_le_add_iff_right, entriesLevels_le_iff]
  exact List.forall_mem_map.mp (levels_of_deeper deep (List.forall_mem_map.mpr each) limit)

theorem readWithin_readNumber {negative : Bool}
    (read : readNumber rules negative cs = .ok (v, rest)) : ReadWithin room v := by
  have digits := isDigit_of_mem_wholePart cs
  unfold readNumber at read
  generalize wholePart cs = parts at read digits
  obtain ⟨whole, after⟩ := parts
  dsimp only at read
  by_cases refused : (whole.isEmpty || rules.strict && decide (Numeral.mostDigits < whole.length)) =
    true
  · rw [if_pos refused] at read
    cases read
  rw [if_neg refused] at read
  by_cases integer : ((fraction after).1.isEmpty && (exponent (fraction after).2).1.isNone) = true
  · rw [if_pos integer] at read
    by_cases long : Numeral.mostDigits < whole.length
    · rw [if_pos long] at read
      cases read
    · rw [if_neg long] at read
      cases read
      exact .of_leaf (.int (isShort_naturalOf _ digits (Nat.le_of_not_lt long))) rfl
  · rw [if_neg integer] at read
    cases read
    exact .of_leaf (.float _) rfl

/-- Every reading with so much fuel stays within its room, of a value, of items, and of members
behind others. -/
structure StaysWithin (rules : Rules) (fuel : Nat) : Prop where
  value {room : Option Nat} {cs rest : List Char} {v : Value}
    (read : readValue rules room fuel cs = .ok (v, rest)) :
    ReadWithin room v
  items {inner : Option Nat} {cs rest : List Char} {xs : List Value}
    (read : readItems rules inner fuel cs = .ok (xs, rest)) : ∀ x ∈ xs, ReadWithin inner x
  members {inner : Option Nat} {es : Entries Value} {cs rest : List Char} {v : Value}
    (each : ∀ e ∈ es, ReadWithin inner e.2)
      (read : readMembers rules inner fuel es cs = .ok (v, rest)) :
    ∃ fs, v = .ofEntries fs ∧ ∀ e ∈ fs, ReadWithin inner e.2

theorem StaysWithin.succ_value (h : StaysWithin rules fuel)
    (read : readValue rules room (fuel + 1) cs = .ok (v, rest)) : ReadWithin room v := by
  unfold readValue at read
  split at read
  case h_1 cs' =>
    cases text : readText rules.pairs cs' with
    | error e => simp [text, Except.map] at read
    | ok r =>
      rw [text] at read
      cases read
      exact .of_leaf (.str _) rfl
  case h_2 =>
    split at read
    next =>
      cases read
      exact .of_leaf (.list (by simp)) rfl
    next =>
      obtain ⟨inner, deep, read⟩ := bind_eq_ok read
      obtain ⟨⟨xs, after⟩, found, read⟩ := bind_eq_ok read
      cases read
      exact .list deep (h.items found)
  case h_3 =>
    split at read
    next =>
      cases read
      exact .of_leaf (.map (by simp)) rfl
    next =>
      obtain ⟨inner, deep, read⟩ := bind_eq_ok read
      obtain ⟨es, rfl, each⟩ := h.members (by simp) read
      exact .map deep each
  case h_4 =>
    cases read
    exact .of_leaf .null rfl
  case h_5 =>
    cases read
    exact .of_leaf (.bool true) rfl
  case h_6 =>
    cases read
    exact .of_leaf (.bool false) rfl
  case h_10 => exact readWithin_readNumber read
  case h_11 => exact readWithin_readNumber read
  all_goals
    cases read
    exact .of_leaf (.float _) rfl

theorem StaysWithin.succ_items (h : StaysWithin rules fuel) {xs : List Value}
    (read : readItems rules inner (fuel + 1) cs = .ok (xs, rest)) :
    ∀ x ∈ xs, ReadWithin inner x := by
  unfold readItems at read
  obtain ⟨⟨x, after⟩, first, read⟩ := bind_eq_ok read
  dsimp only at read
  split at read
  next =>
    obtain ⟨⟨ys, after'⟩, others, read⟩ := bind_eq_ok read
    cases read
    exact List.forall_mem_cons.mpr ⟨h.value first, h.items others⟩
  next =>
    cases read
    exact List.forall_mem_singleton.mpr (h.value first)
  next => cases read

theorem StaysWithin.succ_members (h : StaysWithin rules fuel) {es : Entries Value}
    (each : ∀ e ∈ es, ReadWithin inner e.2)
    (read : readMembers rules inner (fuel + 1) es cs = .ok (v, rest)) :
    ∃ fs, v = .ofEntries fs ∧ ∀ e ∈ fs, ReadWithin inner e.2 := by
  unfold readMembers at read
  split at read
  next =>
    obtain ⟨⟨name, after⟩, -, read⟩ := bind_eq_ok read
    dsimp only at read
    split at read
    next =>
      obtain ⟨⟨w, after'⟩, found, read⟩ := bind_eq_ok read
      have more : ∀ e ∈ es.set (.str name) w, ReadWithin inner e.2 := by
        intro e mem
        rcases Entries.mem_set mem with new | old
        · rw [new]
          exact h.value found
        · exact each e old
      dsimp only at read
      split at read
      next => exact h.members more read
      next =>
        cases read
        exact ⟨_, rfl, more⟩
      next => cases read
    next => cases read
  next => cases read

theorem staysWithin (rules : Rules) (fuel : Nat) : StaysWithin rules fuel := by
  induction fuel with
  | zero =>
    constructor
    · intro _ _ _ _ read
      cases read
    · intro _ _ _ _ read
      cases read
    · intro _ _ _ _ _ _ read
      cases read
  | succ fuel ih => exact ⟨ih.succ_value, ih.succ_items, ih.succ_members⟩

/-- What a reader makes of a text. -/
theorem readWithin_parse {text : String} (read : parse rules text = .ok v) :
    ReadWithin rules.depth v := by
  obtain ⟨⟨w, after⟩, found, read⟩ := bind_eq_ok read
  dsimp only at read
  split at read <;> cases read
  exact (staysWithin rules _).value found

/-- Data that were read are read again. -/
theorem ReadWithin.fits (h : ReadWithin room v) : Fits room v := ⟨h.written.isShort, h.levels⟩

end

end Json

end SceneCourse
