import SceneCourse.Proofs.IntegerRounding
import SceneCourse.Proofs.Meaning
import SceneCourse.Proofs.StrictEquality

/-! Comparisons of integers. Equality compares integers as they are; the four order comparisons
compare the binary64 numbers nearest to them. So the order follows the integers except that it does
not tell apart two integers with one number: of those neither is less, and each is at most the
other, although they are not equal. That takes an integer beyond `2 ^ 53`. -/

namespace SceneCourse

namespace CompareOp

/-! ### Six answers -/

/-- Answers to the six comparisons that agree with each other. -/
structure Agree (answer : CompareOp → Bool) : Prop where
  /-- Two things are equal, or ordered one way or the other. -/
  one : ∃! op, op ∈ [lt, equals, gt] ∧ answer op = true
  gte : answer .gte = true ↔ answer .gt = true ∨ answer .equals = true
  lte : answer .lte = true ↔ answer .lt = true ∨ answer .equals = true
  notEquals : answer .notEquals = !answer .equals

/-- What the six comparisons of two integers answer, given whether the binary64 numbers nearest to
them are equal. -/
def settles (a b : Int) (near : Bool) : CompareOp → Bool
  | .equals => a = b
  | .notEquals => a ≠ b
  | .gt => b < a && !near
  | .gte => b ≤ a || near
  | .lt => a < b && !near
  | .lte => a ≤ b || near

section

variable {a b : Int} {near : Bool}

theorem agree_settles_self : Agree (settles a a true) where
  one := ⟨.equals, ⟨by simp, by simp [settles]⟩, by
    rintro op ⟨member, answer⟩
    cases op <;> simp_all [settles]⟩
  gte := by simp [settles]
  lte := by simp [settles]
  notEquals := by simp [settles]

theorem agree_settles_of_ne (apart : a ≠ b) : Agree (settles a b false) where
  one := by
    rcases Int.lt_or_gt_of_ne apart with below | above
    · refine ⟨.lt, ⟨by simp, by simp [settles, below]⟩, ?_⟩
      rintro op ⟨member, answer⟩
      cases op <;> simp_all [settles]
      omega
    · refine ⟨.gt, ⟨by simp, by simp [settles, above]⟩, ?_⟩
      rintro op ⟨member, answer⟩
      cases op <;> simp_all [settles]
      omega
  gte := by simp [settles]; omega
  lte := by simp [settles]; omega
  notEquals := by simp [settles]

/-- The answers agree, unless different integers have equal numbers. -/
theorem agree_settles_iff (equal : a = b → near = true) :
    Agree (settles a b near) ↔ a = b ∨ near = false := by
  constructor
  · intro agree
    by_contra torn
    obtain ⟨apart, close⟩ : a ≠ b ∧ near = true := by simpa using torn
    obtain ⟨op, ⟨member, answer⟩, -⟩ := agree.one
    cases op <;> simp_all [settles]
  · rintro (rfl | rfl)
    · rw [equal rfl]
      exact agree_settles_self
    · exact agree_settles_of_ne fun same => by simpa using equal same

end

end CompareOp

/-! ### Integers as operands -/

namespace Store

open Noted CompareOp

section

variable {s : Store} {left right : Value} {a b : Int} {x y : Binary64} {n : Nat}

theorem strictlySame_int (a b : Int) : (Value.int a).strictlySame (.int b) = decide (a = b) := by
  rw [Bool.eq_iff_iff]
  simp [Value.strictlySame, Value.isNumber, Value.same, Value.number?]

theorem toNumber_int (number : Binary64.ofInt? a = some x) : (Value.int a).toNumber = .ok x := by
  rw [Value.toNumber, number]
  rfl

/-- The order comparisons of integers are those of the numbers nearest to them. -/
theorem orders_settles (number : Binary64.ofInt? a = some x) (number' : Binary64.ofInt? b = some y)
    {op : CompareOp} (order : ordering op = true) : op.orders x y = op.settles a b (x.eq y) := by
  have swapped : y.eq x = x.eq y := by
    rw [Binary64.eq_of_ofInt? number' number, Binary64.eq_of_ofInt? number number']
    exact decide_eq_decide.2 eq_comm
  have below := Binary64.lt_iff_of_ofInt? number number'
  have above := Binary64.lt_iff_of_ofInt? number' number
  have upTo := Binary64.le_iff_of_ofInt? number number'
  have downTo := Binary64.le_iff_of_ofInt? number' number
  rw [swapped] at above downTo
  rw [Bool.eq_iff_iff]
  cases op with
  | equals | notEquals => cases order
  | gt =>
    show y.lt x = true ↔ _
    simp [settles, above]
  | gte =>
    show y.le x = true ↔ _
    simp [settles, downTo]
  | lt =>
    show x.lt y = true ↔ _
    simp [settles, below]
  | lte =>
    show x.le y = true ↔ _
    simp [settles, upTo]

theorem compare_settles (number : Binary64.ofInt? a = some x) (number' : Binary64.ofInt? b = some y)
    (op : CompareOp) : (compare op (.int a) (.int b)).result = .ok (op.settles a b (x.eq y)) := by
  by_cases order : ordering op = true
  · have sound : (x.isNaN || y.isNaN) = false := by
      rw [Binary64.isNaN_of_ofInt? number, Binary64.isNaN_of_ofInt? number', Bool.or_false]
    rw [compare_order order, toNumber_int number, toNumber_int number', ofExcept_ok_bind,
      ofExcept_ok_bind,
      ← orders_settles number number' order, sound]
    rfl
  · cases op with
    | equals => exact congrArg Except.ok (strictlySame_int a b)
    | notEquals =>
      show Except.ok (!(Value.int a).strictlySame (.int b)) = _
      simp [settles, strictlySame_int]
    | _ => exact absurd rfl order

/-- What a comparison of two operands answers, written out and looked at under a limit of the
depth. -/
def verdict (s : Store) (n : Nat) (left right : Value) (op : CompareOp) : Except Fault Bool :=
  (s.holdsValue (.int n) (Condition.comparison op left right).dump).result

theorem verdict_eq {v w : Value} (first : (s.resolve left).result = .ok v)
    (second : (s.resolve right).result = .ok w) (op : CompareOp) :
    s.verdict n left right op = (compare op v w).result := by
  rw [verdict, holdsValue_eq (Condition.ofValue_comparison op left right), holds,
    withinDepth_of_le (Nat.zero_le n),
    result_bind first, result_bind second]

/-- Up to `2 ^ 53` no two integers have one number. -/
theorem agree_of_le (number : Binary64.ofInt? a = some x) (number' : Binary64.ofInt? b = some y)
    (small : a.natAbs ≤ 2 ^ 53) (small' : b.natAbs ≤ 2 ^ 53) : Agree (settles a b (x.eq y)) := by
  rw [agree_settles_iff (Binary64.eq_self_of_ofInt? number number'),
    Binary64.eq_of_ofInt? number number',
    Binary64.nearest_of_le small, Binary64.nearest_of_le small', decide_eq_false_iff_not]
  exact eq_or_ne a b

/-- What is compared as integers: equality for integers of any size, and order as long as there are
numbers nearest to them. The answers agree unless two different integers have equal numbers, which
takes one beyond `2 ^ 53` in size. Then the integers are neither equal nor in order, although each
is at most the other. -/
theorem verdict_agree_iff (first : (s.resolve left).result = .ok (.int a))
    (second : (s.resolve right).result = .ok (.int b)) :
    (s.verdict n left right .equals = .ok (decide (a = b)) ∧
      s.verdict n left right .notEquals = .ok (decide (a ≠ b))) ∧
      (a.natAbs < 2 ^ 1024 - 2 ^ 970 → b.natAbs < 2 ^ 1024 - 2 ^ 970 →
        ∃ x y, Binary64.ofInt? a = some x ∧ Binary64.ofInt? b = some y ∧
          (∀ op, s.verdict n left right op = .ok (op.settles a b (x.eq y))) ∧
          (Agree (settles a b (x.eq y)) ↔ a = b ∨ x.eq y = false) ∧
          (¬Agree (settles a b (x.eq y)) → ∀ op, settles a b (x.eq y) op =
            decide (op ∈ [notEquals, gte, lte])) ∧
          (a.natAbs ≤ 2 ^ 53 → b.natAbs ≤ 2 ^ 53 → Agree (settles a b (x.eq y)))) := by
  refine ⟨⟨?_, ?_⟩, fun small small' => ?_⟩
  · rw [verdict_eq first second]
    exact congrArg Except.ok (strictlySame_int a b)
  · rw [verdict_eq first second]
    show Except.ok (!(Value.int a).strictlySame (.int b)) = _
    rw [strictlySame_int, decide_not]
  · obtain ⟨x, number, -⟩ := Binary64.ofInt?_of_lt small
    obtain ⟨y, number', -⟩ := Binary64.ofInt?_of_lt small'
    have agree := agree_settles_iff (Binary64.eq_self_of_ofInt? number number')
    refine ⟨x, y, number, number', fun op => ?_, agree, fun torn => ?_, agree_of_le number number'⟩
    · rw [verdict_eq first second, compare_settles number number']
    · obtain ⟨apart, near⟩ : a ≠ b ∧ x.eq y = true := by simpa [agree] using torn
      rintro (_ | _ | _ | _ | _ | _) <;> simp [settles, apart, near]

/-- Nine is less than ten, and nothing else. -/
theorem verdict_agree_iff_nine :
    ((empty.resolve (.int 9)).result = .ok (.int 9) ∧
      (empty.resolve (.int 10)).result = .ok (.int 10)) ∧
      empty.verdict 64 (.int 9) (.int 10) .lt = .ok true ∧ empty.verdict 64 (.int 9)
      (.int 10) .equals = .ok false := by
  obtain ⟨⟨equality, -⟩, ordered⟩ := @verdict_agree_iff empty (.int 9) (.int 10) 9 10 64 rfl rfl
  obtain ⟨x, y, number, number', answers, agree, -, small⟩ :=
    ordered (by decide +kernel) (by decide +kernel)
  have near : x.eq y = false := (agree.1 (small (by decide) (by decide))).resolve_left (by decide)
  refine ⟨⟨rfl, rfl⟩, ?_, equality⟩
  rw [answers, near]
  rfl

/-- The first two integers that are not told apart in order: they are not equal, and neither is
less. -/
theorem verdict_torn : ∃ answer : CompareOp → Bool,
    (∀ op, empty.verdict 64 (.int (2 ^ 53)) (.int (2 ^ 53 + 1)) op = .ok (answer op)) ∧
    ¬Agree answer := by
  have number : Binary64.ofInt? (2 ^ 53) = some (.finite false (2 ^ 52) 1) := by decide +kernel
  have number' : Binary64.ofInt? (2 ^ 53 + 1) = some (.finite false (2 ^ 52) 1) := by decide +kernel
  refine ⟨settles (2 ^ 53) (2 ^ 53 + 1) true, fun op => ?_, fun agree => ?_⟩
  · rw [verdict_eq rfl rfl, compare_settles number number']
    rfl
  · rw [agree_settles_iff fun _ => rfl] at agree
    exact absurd agree (by decide)

end

end Store

end SceneCourse
