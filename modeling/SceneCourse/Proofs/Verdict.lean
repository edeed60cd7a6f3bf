import SceneCourse.Proofs.ConditionReading
import SceneCourse.State.Truth

/-! When there is no verdict on a condition. A condition is meant to hold or not to hold, with a
note where it cannot be made sense of; proved is exactly when asking for it fails, for every state,
every limit of its depth and every value in which no container holds itself. Four things fail on the
way: reading an operator that is a list or a mapping, following a reference to a list by digits that
write no integer, ordering by an integer beyond the binary64 numbers, and leaving a note about an
integer that is too long to be shown. Whether the evaluation comes to such a place depends on what
is looked at before. -/

namespace SceneCourse

/-! ### Questions that fail -/

namespace Noted

variable {α β : Type}

def Fails (x : Noted α) : Prop := ∃ e, x.result = .error e

@[simp] theorem not_fails_pure (a : α) : ¬Fails (pure a) := by
  rintro ⟨e, ⟨⟩⟩

@[simp] theorem fails_ofExcept (r : Except Fault α) : Fails (ofExcept r) ↔ ∃ e, r = .error e :=
  Iff.rfl

theorem fails_bind (x : Noted α) (f : α → Noted β) :
    Fails (x >>= f) ↔ Fails x ∨ ∃ a, x.result = .ok a ∧ Fails (f a) := by
  show Fails (bind x f) ↔ _
  rw [bind]
  obtain ⟨r, notes⟩ := x
  cases r with
  | ok a => simp [Fails]
  | error e => simp [Fails]

/-- A note is left unless its data hold an integer that is too long to be shown. -/
@[simp] theorem fails_note (category : Category) (message : String) (data : Value) :
    Fails (note category message data) ↔ data.holdsLong = true := by
  have line : Fails (note category message data) ↔
      ∃ e, (LogEntry.mk .warn category message data 0).line = .error e := by
    show (∃ e, (LogEntry.line _).map _ = .error e) ↔ _
    cases (LogEntry.mk .warn category message data 0).line <;> simp [Except.map]
  rw [line, LogEntry.line_fails_iff]

/-- A note, and then an answer. -/
theorem fails_note_bind (category : Category) (message : String) (data : Value) (a : α) :
    Fails (do note category message data; return a) ↔ data.holdsLong = true := by
  simp [fails_bind]

end Noted

open Noted

theorem Value.told_fails_iff (v : Value) : (∃ e, v.told = .error e) ↔ v.holdsLong = true := by
  rw [told]
  split <;> simp_all

@[simp] theorem Value.holdsLong_pairOf (k l : String) (v w : Value) :
    (Value.object [(k, v), (l, w)]).holdsLong = (v.holdsLong || w.holdsLong) := by
  simp [object, ofEntries, holdsLong, anyEntryHoldsLong, Key.isLong]

@[simp] theorem Value.holdsLong_single (k : String) (v : Value) :
    (Value.object [(k, v)]).holdsLong = v.holdsLong := by
  simp [object, ofEntries, holdsLong, anyEntryHoldsLong, Key.isLong]

/-! ### References -/

/-- A path that comes to a list with a segment of digits that write no integer. -/
inductive Value.Trips : Value → List String → Prop where
  | here {m : Nat} {xs : List Value} {seg : String} {rest : List String} {cause : Numeral.NoInteger}
    (digits : isIndexText seg = true) (noInteger : Numeral.integer seg = .error cause) :
    Trips (.list m xs) (seg :: rest)
  | item {m : Nat} {xs : List Value} {seg : String} {rest : List String} {i : Int} {v : Value}
    (digits : isIndexText seg = true) (index : Numeral.integer seg = .ok i)
    (found : xs[i.toNat]? = some v) (later : Trips v rest) : Trips (.list m xs) (seg :: rest)
  | entry {m : Nat} {es : List (Key × Value)} {seg : String} {rest : List String} {v : Value}
    (found : Entries.get? (.str seg) es = some v) (later : Trips v rest) :
      Trips (.map m es) (seg :: rest)

theorem Value.lookup_fails_iff (segs : List String) (v : Value) :
    (∃ e, v.lookup segs = .error e) ↔ v.Trips segs := by
  induction segs generalizing v with
  | nil => exact iff_of_false (by simp [lookup]) nofun
  | cons seg rest ih =>
    have nowhere : ¬Trips .null rest := nofun
    cases v with
    | map m es =>
      have through : Trips (.map m es) (seg :: rest) ↔
          ∃ v, Entries.get? (.str seg) es = some v ∧ v.Trips rest :=
        ⟨fun | .entry found later => ⟨_, found, later⟩, fun ⟨_, found, later⟩ => .entry found later⟩
      rw [through, lookup]
      split
      next none => simp [none]
      next null => simp [null, nowhere]
      next w _ found => simp [found, ih]
    | list m xs =>
      rw [lookup]
      by_cases digits : isIndexText seg = true
      · rw [if_pos digits]
        cases index : Numeral.integer seg with
        | error cause => exact iff_of_true ⟨_, rfl⟩ (.here digits index)
        | ok i =>
          have through : Trips (.list m xs) (seg :: rest) ↔
              ∃ v, xs[i.toNat]? = some v ∧ v.Trips rest := by
            constructor
            · rintro (⟨-, noInteger⟩ | ⟨-, index', found, later⟩)
              · cases index.symm.trans noInteger
              · cases index.symm.trans index'
                exact ⟨_, found, later⟩
            · rintro ⟨v, found, later⟩
              exact .item digits index found later
          rw [through]
          dsimp only
          split
          next none => simp [none]
          next null => simp [null, nowhere]
          next w _ found => simp [found, ih]
      · rw [if_neg digits]
        refine iff_of_false (by simp) ?_
        rintro (⟨digits', -⟩ | ⟨digits', -, -, -⟩) <;> exact digits digits'
    | _ => exact iff_of_false (by simp [lookup]) nofun

namespace Store

/-- A reference that cannot be followed, because its path trips or because it is no text and cannot
be shown in the note about that. -/
inductive Lost (s : Store) : Value → Prop where
  | trips {m : Nat} {es : List (Key × Value)} {path : String}
    (ref : Entries.get? (.str "ref") es = some (.str path))
    (trips : (s.opened (segments path)).Trips (segments path)) : Lost s (.map m es)
  | untold {m : Nat} {es : List (Key × Value)} {path : Value}
    (ref : Entries.get? (.str "ref") es = some path)
    (noText : ∀ text, path ≠ .str text) (long : path.holdsLong = true) : Lost s (.map m es)

theorem resolve_fails_iff (s : Store) (v : Value) : (s.resolve v).Fails ↔ s.Lost v := by
  cases v with
  | map m es =>
    rw [resolve]
    cases ref : Entries.get? (.str "ref") es with
    | none =>
      refine iff_of_false (not_fails_pure (Value.map m es)) ?_
      rintro (⟨ref', -⟩ | ⟨ref', -, -⟩) <;> cases ref.symm.trans ref'
    | some path =>
      have otherwise (noText : ∀ text, path ≠ .str text) : s.Lost (.map m es) ↔
          path.holdsLong = true := by
        constructor
        · rintro (⟨ref', -⟩ | ⟨ref', -, long⟩)
          · cases ref.symm.trans ref'
            exact absurd rfl (noText _)
          · cases ref.symm.trans ref'
            exact long
        · exact .untold ref noText
      cases path with
      | str text =>
        refine (Value.lookup_fails_iff _ _).trans ⟨.trips ref, ?_⟩
        rintro (⟨ref', trips⟩ | ⟨ref', noText, -⟩)
        · cases ref.symm.trans ref'
          exact trips
        · cases ref.symm.trans ref'
          exact absurd rfl (noText _)
      | _ =>
        rw [otherwise (by intro text same; cases same)]
        exact (fails_note_bind _ _ _ _).trans (by rw [Value.holdsLong_single])
  | _ => exact iff_of_false (not_fails_pure _) (by intro lost; cases lost)

/-! ### Comparisons -/

def ordering : CompareOp → Bool
  | .equals | .notEquals => false
  | _ => true

def TooLarge (v : Value) : Prop := ∃ n, v = .int n ∧ Binary64.ofInt? n = none

theorem toNumber_fails_iff (v : Value) : (∃ e, v.toNumber = .error e) ↔ TooLarge v := by
  cases v with
  | int n => cases number : Binary64.ofInt? n <;> simp [Value.toNumber, TooLarge, number]
  | _ => exact iff_of_false (by simp [Value.toNumber]) (by rintro ⟨n, ⟨⟩, -⟩)

/-- Two operands of an order comparison that are no numbers, and cannot be shown in the note about
that. -/
def Unsaid (x y : Value) : Prop :=
  (∃ a b, x.toNumber = .ok a ∧ y.toNumber = .ok b ∧ (a.isNaN || b.isNaN) = true) ∧
    (x.holdsLong = true ∨ y.holdsLong = true)

theorem compare_fails_iff (op : CompareOp) (x y : Value) :
    (compare op x y).Fails ↔ ordering op = true ∧ (TooLarge x ∨ TooLarge y ∨ Unsaid x y) := by
  have ordered (op : CompareOp) : (do
      let a ← ofExcept x.toNumber
      let b ← ofExcept y.toNumber
      if a.isNaN || b.isNaN then
        note .condition s!"Comparison operands must be numbers ({op.name})" (.object [("left", x), ("right", y)])
        return false
      else return op.orders a b : Noted Bool).Fails ↔ TooLarge x ∨ TooLarge y ∨ Unsaid x y := by
    cases left : x.toNumber with
    | error e => exact iff_of_true ⟨e, rfl⟩ (Or.inl ((toNumber_fails_iff x).mp ⟨e, left⟩))
    | ok a =>
      have small : ¬TooLarge x := fun large => by simpa [left] using (toNumber_fails_iff x).mpr large
      cases right : y.toNumber with
      | error e => exact iff_of_true ⟨e, rfl⟩ (Or.inr (Or.inl ((toNumber_fails_iff y).mp ⟨e, right⟩)))
      | ok b =>
        have small' : ¬TooLarge y := fun large => by simpa [right] using (toNumber_fails_iff y).mpr large
        have unsaid : Unsaid x y ↔ (a.isNaN || b.isNaN) = true ∧ (x.holdsLong = true ∨ y.holdsLong = true) := by
          simp [Unsaid, left, right]
        rw [or_iff_right small, or_iff_right small', unsaid]
        show (ite _ _ _ : Noted Bool).Fails ↔ _
        split
        next nan => simp [fails_note_bind, nan]
        next number => exact iff_of_false (not_fails_pure _) (by simp [number])
  cases op with
  | equals => exact iff_of_false (not_fails_pure _) (by simp [ordering])
  | notEquals => exact iff_of_false (not_fails_pure _) (by simp [ordering])
  | _ => exact (ordered _).trans (by simp [ordering])

/-- A comparison that fails: on the way to an operand, or on what the operands are. -/
inductive Clashes (s : Store) (op : CompareOp) (left right : Value) : Prop where
  | left (lost : s.Lost left)
  | right (lost : s.Lost right)
  | between {x y : Value} (first : (s.resolve left).result = .ok x)
    (second : (s.resolve right).result = .ok y)
    (order : ordering op = true) (unfit : TooLarge x ∨ TooLarge y ∨ Unsaid x y)

theorem comparison_fails_iff (s : Store) (op : CompareOp) (left right : Value) :
    (do compare op (← s.resolve left) (← s.resolve right) : Noted Bool).Fails ↔
      s.Clashes op left right := by
  simp only [fails_bind, resolve_fails_iff, compare_fails_iff]
  constructor
  · rintro (lost | ⟨x, first, lost | ⟨y, second, order, unfit⟩⟩)
    · exact .left lost
    · exact .right lost
    · exact .between first second order unfit
  · rintro (lost | lost | ⟨first, second, order, unfit⟩)
    · exact Or.inl lost
    · cases first : (s.resolve left).result with
      | ok x => exact Or.inr ⟨x, rfl, Or.inl lost⟩
      | error e => exact Or.inl ((s.resolve_fails_iff left).mp ⟨e, first⟩)
    · exact Or.inr ⟨_, first, Or.inr ⟨_, second, order, unfit⟩⟩

/-! ### Conditions -/

/-- A condition at some depth on which there is no verdict. Of a conjunction or a disjunction a
condition counts only if all before it leave the matter open, of a negation only the first. -/
inductive Stuck (s : Store) (limit : Value) : Nat → Condition → Prop where
  | comparison {depth : Nat} {op : CompareOp} {left right : Value}
    (within : beyond limit depth = .ok false) (clash : s.Clashes op left right) :
    Stuck s limit depth (.comparison op left right)
  | and {depth : Nat} {before after : List Condition} {c : Condition}
    (within : beyond limit depth = .ok false)
    (hold : ∀ b ∈ before, (s.holds limit (depth + 1) b).result = .ok true)
    (stuck : Stuck s limit (depth + 1) c) :
    Stuck s limit depth (.logical .and (before ++ c :: after))
  | or {depth : Nat} {before after : List Condition} {c : Condition}
    (within : beyond limit depth = .ok false)
    (fall : ∀ b ∈ before, (s.holds limit (depth + 1) b).result = .ok false)
    (stuck : Stuck s limit (depth + 1) c) :
    Stuck s limit depth (.logical .or (before ++ c :: after))
  | not {depth : Nat} {c : Condition} {after : List Condition}
    (within : beyond limit depth = .ok false) (stuck : Stuck s limit (depth + 1) c) :
    Stuck s limit depth (.logical .not (c :: after))
  | unknown {depth : Nat} {op : String} {extras : List (String × Value)}
    (within : beyond limit depth = .ok false)
    (long : (Condition.unknown op extras).dump.holdsLong = true) :
    Stuck s limit depth (.unknown op extras)
  | beyond {depth : Nat} {c : Condition} (deep : beyond limit depth = .ok true)
    (long : limit.holdsLong = true) :
    Stuck s limit depth c

section

variable (s : Store) (n : Int)

theorem withinDepth_fails_iff (depth : Nat) (x : Noted Bool) :
    (withinDepth (.int n) depth x).Fails ↔
    (beyond (.int n) depth = .ok true ∧ (Value.int n).holdsLong = true) ∨
    (beyond (.int n) depth = .ok false ∧ x.Fails) := by
  obtain ⟨deep, known⟩ : ∃ deep, beyond (.int n) depth = .ok deep := ⟨_, rfl⟩
  have noted : (depthNote (.int n)).Fails ↔ (Value.int n).holdsLong = true := by
    rw [depthNote, fails_bind, fails_ofExcept, Value.told_fails_iff]
    simp [Value.holdsLong]
  rw [withinDepth, fails_bind, fails_ofExcept, known]
  cases deep with
  | true => simp [Noted.ofExcept, fails_bind, noted]
  | false => simp [Noted.ofExcept]

/-- A loop over conditions that goes on after one answer and ends with the other fails where the
first of them fails that it comes to. -/
theorem loop_fails_iff {α : Type} {f : α → Noted Bool} {loop : List α → Noted Bool} {onward : Bool}
    (nil : ¬(loop []).Fails)
    (cons : ∀ a as, (loop (a :: as)).Fails ↔ (f a).Fails ∨
      ((f a).result = .ok onward ∧ (loop as).Fails))
    (as : List α) :
    (loop as).Fails ↔ ∃ before a after, as = before ++ a :: after ∧
      (∀ b ∈ before, (f b).result = .ok onward) ∧
      (f a).Fails := by
  induction as with
  | nil => exact iff_of_false nil (by simp)
  | cons a as ih =>
    rw [cons, ih]
    constructor
    · rintro (fails | ⟨passed, before, b, after, rfl, all, fails⟩)
      · exact ⟨[], a, as, rfl, by simp, fails⟩
      · exact ⟨a :: before, b, after, rfl, by simpa using ⟨passed, all⟩, fails⟩
    · rintro ⟨before, b, after, same, all, fails⟩
      cases before with
      | nil =>
        obtain ⟨rfl, rfl⟩ := List.cons.inj same
        exact Or.inl fails
      | cons c before =>
        obtain ⟨rfl, rfl⟩ := List.cons.inj same
        exact Or.inr ⟨all a (by simp), before, b, after, rfl,
          fun c mem => all c (by simp [mem]), fails⟩

theorem allHold_fails_iff (limit : Value) (depth : Nat) (cs : List Condition) :
    (s.allHold limit depth cs).Fails ↔
    ∃ before c after, cs = before ++ c :: after ∧
    (∀ b ∈ before, (s.holds limit depth b).result = .ok true) ∧
      (s.holds limit depth c).Fails := by
  refine loop_fails_iff (by simp [allHold]) (fun c cs => ?_) cs
  rw [allHold, fails_bind]
  simp

theorem anyHolds_fails_iff (limit : Value) (depth : Nat) (cs : List Condition) :
    (s.anyHolds limit depth cs).Fails ↔
    ∃ before c after, cs = before ++ c :: after ∧
    (∀ b ∈ before, (s.holds limit depth b).result = .ok false) ∧
      (s.holds limit depth c).Fails := by
  refine loop_fails_iff (by simp [anyHolds]) (fun c cs => ?_) cs
  rw [anyHolds, fails_bind]
  simp

theorem allHoldValues_fails_iff (limit : Value) (vs : List Value) :
    (s.allHoldValues limit vs).Fails ↔
    ∃ before v after, vs = before ++ v :: after ∧
    (∀ b ∈ before, (s.holdsValue limit b).result = .ok true) ∧
      (s.holdsValue limit v).Fails := by
  refine loop_fails_iff (by simp [allHoldValues]) (fun v vs => ?_) vs
  rw [allHoldValues, fails_bind]
  simp

mutual

theorem holds_fails_iff (depth : Nat) (c : Condition) :
    (s.holds (.int n) depth c).Fails ↔ s.Stuck (.int n) depth c := by
  cases c with
  | comparison op left right =>
    rw [holds, withinDepth_fails_iff, comparison_fails_iff]
    constructor
    · rintro (⟨deep, long⟩ | ⟨within, clash⟩)
      · exact .beyond deep long
      · exact .comparison within clash
    · rintro (⟨within, clash⟩ | _ | _ | _ | _ | ⟨deep, long⟩)
      · exact Or.inr ⟨within, clash⟩
      · exact Or.inl ⟨deep, long⟩
  | logical op cs =>
    have inner := each_holds_fails_iff cs
    cases op with
    | and =>
      rw [holds, withinDepth_fails_iff, allHold_fails_iff]
      constructor
      · rintro (⟨deep, long⟩ | ⟨within, before, c, after, rfl, hold, fails⟩)
        · exact .beyond deep long
        · exact .and within hold ((inner c (by simp) _).mp fails)
      · rintro (_ | ⟨within, hold, stuck⟩ | _ | _ | _ | ⟨deep, long⟩)
        · exact Or.inr ⟨within, _, _, _, rfl, hold, (inner _ (by simp) _).mpr stuck⟩
        · exact Or.inl ⟨deep, long⟩
    | or =>
      rw [holds, withinDepth_fails_iff, anyHolds_fails_iff]
      constructor
      · rintro (⟨deep, long⟩ | ⟨within, before, c, after, rfl, fall, fails⟩)
        · exact .beyond deep long
        · exact .or within fall ((inner c (by simp) _).mp fails)
      · rintro (_ | _ | ⟨within, fall, stuck⟩ | _ | _ | ⟨deep, long⟩)
        · exact Or.inr ⟨within, _, _, _, rfl, fall, (inner _ (by simp) _).mpr stuck⟩
        · exact Or.inl ⟨deep, long⟩
    | not =>
      cases cs with
      | nil =>
        rw [holds, withinDepth_fails_iff]
        constructor
        · rintro (⟨deep, long⟩ | ⟨-, fails⟩)
          · exact .beyond deep long
          · exact absurd fails (not_fails_pure _)
        · rintro (_ | _ | _ | _ | _ | ⟨deep, long⟩)
          exact Or.inl ⟨deep, long⟩
      | cons c after =>
        rw [holds, withinDepth_fails_iff, fails_bind]
        simp only [not_fails_pure, and_false, exists_false, or_false]
        rw [inner c (by simp)]
        constructor
        · rintro (⟨deep, long⟩ | ⟨within, stuck⟩)
          · exact .beyond deep long
          · exact .not within stuck
        · rintro (_ | _ | _ | ⟨within, stuck⟩ | _ | ⟨deep, long⟩)
          · exact Or.inr ⟨within, stuck⟩
          · exact Or.inl ⟨deep, long⟩
  | unknown op extras =>
    rw [holds, withinDepth_fails_iff, fails_note_bind]
    constructor
    · rintro (⟨deep, long⟩ | ⟨within, long⟩)
      · exact .beyond deep long
      · exact .unknown within long
    · rintro (_ | _ | _ | _ | ⟨within, long⟩ | ⟨deep, long⟩)
      · exact Or.inr ⟨within, long⟩
      · exact Or.inl ⟨deep, long⟩

theorem each_holds_fails_iff (cs : List Condition) :
    ∀ c ∈ cs, ∀ depth, (s.holds (.int n) depth c).Fails ↔ s.Stuck (.int n) depth c := by
  cases cs with
  | nil => simp
  | cons c cs =>
    intro d mem depth
    rcases List.mem_cons.mp mem with here | later
    · rw [here]
      exact holds_fails_iff depth c
    · exact each_holds_fails_iff cs d later depth

end

end

/-! ### Values -/

/-- A value on which there is no verdict: the limit cannot be shown, the value cannot be read, or
the condition that it writes is stuck. -/
inductive Baffles (s : Store) (n : Int) (v : Value) : Prop where
  | limit (negative : n < 0) (long : (Value.int n).holdsLong = true)
  | unreadable (within : 0 ≤ n) (bad : v.Unreadable)
  | stuck {c : Condition} (within : 0 ≤ n) (read : Condition.ofValue v = .ok c)
    (stuck : s.Stuck (.int n) 0 c)

theorem beyond_int (n : Int) (depth : Nat) : beyond (.int n) depth = .ok (decide (n < depth)) := by
  have same : ((n : Rat) < (depth : Rat)) ↔ n < depth := Rat.intCast_lt_intCast
  show Except.ok (decide ((n : Rat) < (depth : Rat))) = _
  rw [decide_eq_decide.mpr same]

theorem holdsValue_of_ok (s : Store) (limit : Value) {v : Value} {c : Condition}
    (read : Condition.ofValue v = .ok c) :
    s.holdsValue limit v = withinDepth limit 0 (s.holds limit 0 c) := by
  rw [holdsValue, read]

theorem holdsValue_of_error (s : Store) (limit : Value) {v : Value} {e : Fault}
    (read : Condition.ofValue v = .error e) :
    s.holdsValue limit v = withinDepth limit 0 (
      if e.isRefusal then do
        note .condition s!"Malformed condition treated as false: {e.message}"
        return false
      else Noted.fail e) := by
  rw [holdsValue, read]

theorem holdsValue_fails_iff (s : Store) (n : Int) {v : Value} (acyclic : v.isCyclic = false) :
    (s.holdsValue (.int n) v).Fails ↔ s.Baffles n v := by
  have read := Condition.breaks_ofValue acyclic
  have judged : (s.holdsValue (.int n) v).Fails ↔
      (n < 0 ∧ (Value.int n).holdsLong = true) ∨ (0 ≤ n ∧
      (v.Unreadable ∨ ∃ c, Condition.ofValue v = .ok c ∧ s.Stuck (.int n) 0 c)) := by
    cases done : Condition.ofValue v with
    | ok c =>
      have readable : ¬v.Unreadable := fun bad => by simpa [Breaks, done] using read.mpr bad
      rw [s.holdsValue_of_ok _ done, withinDepth_fails_iff, holds_fails_iff, beyond_int]
      simp [readable]
    | error e =>
      rw [s.holdsValue_of_error _ done, withinDepth_fails_iff, beyond_int]
      by_cases refusal : e.isRefusal = true
      · have readable : ¬v.Unreadable := fun bad => by
          simpa [Breaks, done, refusal] using read.mpr bad
        simp [refusal, fails_note_bind, Value.holdsLong, readable]
      · have bad : v.Unreadable := read.mp ⟨e, done, by simpa using refusal⟩
        simp [refusal, Fails, Noted.fail, bad]
  rw [judged]
  constructor
  · rintro (⟨negative, long⟩ | ⟨within, bad | ⟨c, done, stuck⟩⟩)
    · exact .limit negative long
    · exact .unreadable within bad
    · exact .stuck within done stuck
  · rintro (⟨negative, long⟩ | ⟨within, bad⟩ | ⟨within, done, stuck⟩)
    · exact Or.inl ⟨negative, long⟩
    · exact Or.inr ⟨within, Or.inl bad⟩
    · exact Or.inr ⟨within, Or.inr ⟨_, done, stuck⟩⟩

/-- When there is no verdict on a value, and none on a list of values: on the first of them that is
baffling, if all before it hold. -/
theorem verdict_fails_iff (s : Store) (n : Int) (vs : List Value)
    (acyclic : ∀ v ∈ vs, v.isCyclic = false) :
    (∀ v ∈ vs, (s.holdsValue (.int n) v).Fails ↔ s.Baffles n v) ∧
      ((s.allHoldValues (.int n) vs).Fails ↔ ∃ before v after, vs = before ++ v :: after ∧
        (∀ b ∈ before, (s.holdsValue (.int n) b).result = .ok true) ∧ s.Baffles n v) := by
  refine ⟨fun v mem => s.holdsValue_fails_iff n (acyclic v mem), ?_⟩
  rw [allHoldValues_fails_iff]
  constructor
  · rintro ⟨before, v, after, rfl, hold, fails⟩
    exact ⟨before, v, after, rfl, hold, (s.holdsValue_fails_iff n (acyclic v (by simp))).mp fails⟩
  · rintro ⟨before, v, after, rfl, hold, baffles⟩
    exact ⟨before, v, after, rfl, hold,
      (s.holdsValue_fails_iff n (acyclic v (by simp))).mpr baffles⟩

def tooMuch : Condition := .comparison .gt (.int (Nat.pow 10 400)) (.int 1)

theorem baffles_tooMuch : empty.Baffles 64 tooMuch.dump := by
  have large : TooLarge (.int (Nat.pow 10 400)) := ⟨_, rfl, by decide +kernel⟩
  exact .stuck (by decide) (Condition.ofValue_comparison _ _ _)
    (.comparison (beyond_int 64 0) (.between rfl rfl rfl (Or.inl large)))

theorem verdict_fails_tooMuch :
    (∀ v ∈ [(Condition.comparison .equals .null .null).dump, tooMuch.dump], v.isCyclic = false) ∧
      (empty.allHoldValues (.int 64) [(Condition.comparison .equals .null .null).dump,
        tooMuch.dump]).Fails := by
  have acyclic : ∀ v ∈ [(Condition.comparison .equals .null .null).dump, tooMuch.dump],
      v.isCyclic = false :=
    List.forall_mem_cons.mpr ⟨rfl, List.forall_mem_cons.mpr ⟨rfl, nofun⟩⟩
  have holds : (empty.holdsValue (.int 64) (Condition.comparison .equals .null .null).dump).result =
      .ok true := by
    rw [empty.holdsValue_of_ok (.int 64) (Condition.ofValue_comparison _ _ _), Store.holds,
      withinDepth, beyond_int]
    rfl
  refine ⟨acyclic, ((verdict_fails_iff empty 64 _ acyclic).2).mpr
    ⟨[_], _, [], rfl, ?_, baffles_tooMuch⟩⟩
  exact List.forall_mem_singleton.mpr holds

/-- A condition can fail, in each of three ways: by its operator, by an operand and by a
reference. -/
theorem verdict_wanting :
    (empty.holdsValue (.int 64) (.object [("op", .ofList [.str "equals"])])).Fails ∧
      (empty.holdsValue (.int 64) tooMuch.dump).Fails ∧
      ((empty.set "globals.vars.xs" (.ofList [])).1.holdsValue (.int 64)
        (Condition.comparison .equals (.object [("ref", .str "globals.vars.xs.²")])
          .null).dump).Fails := by
  refine ⟨(holdsValue_fails_iff _ _ rfl).mpr (.unreadable (by decide) (.operator rfl rfl)),
    (holdsValue_fails_iff _ _ rfl).mpr baffles_tooMuch, (holdsValue_fails_iff _ _ rfl).mpr ?_⟩
  have superscript : Numeral.integer "²" = .error (.notDigits 10 "²") := rfl
  refine .stuck (by decide) (Condition.ofValue_comparison _ _ _)
    (.comparison (beyond_int 64 0) (.left (.trips rfl ?_)))
  exact .entry rfl (.entry rfl (.entry rfl (.here (by decide) superscript)))

end Store

end SceneCourse
