import Mathlib.Algebra.Order.Field.Rat
import Mathlib.Algebra.Order.Ring.Int
import Mathlib.Tactic.Positivity
import Mathlib.Tactic.Ring
import SceneCourse.Number.Binary64

/-! Integers as binary64 numbers. The number nearest to an integer is found on a grid of 53 binary
digits, whose spacing is one as long as the integer has no more digits than that and doubles with
each further digit. Rounding to that grid is monotone, and it is the identity up to `2 ^ 53`; it
leaves the finite numbers exactly from `2 ^ 1024 - 2 ^ 970` on. -/

namespace SceneCourse

namespace Binary64

/-! ### Quotients to the nearest integer -/

theorem le_roundQuotient {m n d : Nat} (pos : 0 < d) (bound : m * d ≤ n) :
    m ≤ roundQuotient n d := by
  have quotient : m ≤ n / d := (Nat.le_div_iff_mul_le pos).2 bound
  dsimp only [roundQuotient]
  split_ifs <;> omega

theorem roundQuotient_le {m n d : Nat} (pos : 0 < d) (bound : n ≤ m * d) :
    roundQuotient n d ≤ m := by
  have division := Nat.div_add_mod n d
  have quotient : n / d ≤ m := Nat.div_le_of_le_mul (by rwa [Nat.mul_comm])
  rcases Nat.lt_or_eq_of_le quotient with below | rfl
  · dsimp only [roundQuotient]
    split_ifs <;> omega
  · -- Nothing is left of the division, so there is nothing to round.
    have rest : n % d = 0 := by
      rw [Nat.mul_comm] at bound
      omega
    simp [roundQuotient, rest, pos]

theorem roundQuotient_mono {n m d : Nat} (pos : 0 < d) (le : n ≤ m) :
    roundQuotient n d ≤ roundQuotient m d := by
  have quotient : n / d ≤ m / d := Nat.div_le_div_right le
  rcases Nat.lt_or_eq_of_le quotient with below | same
  · -- An integer lies between the two quotients.
    have upper : n ≤ m / d * d := Nat.le_of_lt ((Nat.div_lt_iff_lt_mul pos).1 below)
    exact (roundQuotient_le pos upper).trans (le_roundQuotient pos (Nat.div_mul_le_self m d))
  · have rest : n % d ≤ m % d := by
      have left := Nat.div_add_mod n d
      have right := Nat.div_add_mod m d
      rw [same] at left
      omega
    dsimp only [roundQuotient]
    rw [same]
    split_ifs <;> omega

/-! ### The grid of 53 binary digits -/

/-- The distance between the numbers of 53 binary digits about `n`. -/
def spacing (n : Nat) : Nat := 2 ^ (n.log2 - 52)

/-- The number of 53 binary digits that is nearest to `n`. -/
def rounded (n : Nat) : Nat := roundQuotient n (spacing n) * spacing n

theorem spacing_pos (n : Nat) : 0 < spacing n := Nat.two_pow_pos _

theorem spacing_of_lt {n : Nat} (small : n < 2 ^ 53) : spacing n = 1 := by
  rcases Nat.eq_zero_or_pos n with rfl | pos
  · rfl
  · have digits : n.log2 < 53 := (Nat.log2_lt (by omega)).2 small
    rw [spacing, show n.log2 - 52 = 0 by omega, Nat.pow_zero]

theorem rounded_of_lt {n : Nat} (small : n < 2 ^ 53) : rounded n = n := by
  rw [rounded, spacing_of_lt small, Nat.mul_one]
  apply Nat.le_antisymm
  · exact roundQuotient_le Nat.one_pos (by simp)
  · exact le_roundQuotient Nat.one_pos (by simp)

theorem rounded_of_le {n : Nat} (small : n ≤ 2 ^ 53) : rounded n = n := by
  rcases Nat.lt_or_eq_of_le small with lt | rfl
  · exact rounded_of_lt lt
  · decide +kernel

/-- The powers of two from the leading digit on lie on the grid. -/
theorem two_pow_eq_mul_spacing {n k : Nat} (leading : n.log2 ≤ k) :
    2 ^ k = 2 ^ (k - (n.log2 - 52)) * spacing n := by
  rw [spacing, ← Nat.pow_add, Nat.sub_add_cancel (by omega)]

theorem two_pow_log2_le_rounded {n : Nat} (pos : n ≠ 0) : 2 ^ n.log2 ≤ rounded n := by
  have bound := Nat.log2_self_le pos
  rw [two_pow_eq_mul_spacing Nat.le.refl] at bound ⊢
  exact Nat.mul_le_mul_right _ (le_roundQuotient (spacing_pos n) bound)

theorem rounded_le_two_pow {n k : Nat} (more : n.log2 < k) : rounded n ≤ 2 ^ k := by
  have bound : n ≤ 2 ^ k := Nat.le_trans (Nat.le_of_lt Nat.lt_log2_self)
    (Nat.pow_le_pow_right Nat.two_pos more)
  rw [two_pow_eq_mul_spacing (Nat.le_of_lt more)] at bound ⊢
  exact Nat.mul_le_mul_right _ (roundQuotient_le (spacing_pos n) bound)

theorem rounded_mono {n m : Nat} (le : n ≤ m) : rounded n ≤ rounded m := by
  rcases Nat.eq_zero_or_pos n with rfl | pos
  · rw [rounded_of_lt (by decide)]
    exact Nat.zero_le _
  · have positive : m ≠ 0 := by omega
    have digits : n.log2 ≤ m.log2 := (Nat.le_log2 positive).2
      ((Nat.log2_self_le (by omega)).trans le)
    rcases Nat.lt_or_eq_of_le digits with fewer | same
    · -- A power of two lies between the two.
      exact (rounded_le_two_pow fewer).trans (two_pow_log2_le_rounded positive)
    · have grid : spacing n = spacing m := by rw [spacing, spacing, same]
      rw [rounded, rounded, grid]
      exact Nat.mul_le_mul_right _ (roundQuotient_mono (spacing_pos m) le)

/-- Up to where integers are rounded to finite numbers. -/
theorem rounded_lt_iff {n : Nat} : rounded n < 2 ^ 1024 ↔ n < 2 ^ 1024 - 2 ^ 970 := by
  have last : rounded (2 ^ 1024 - 2 ^ 970 - 1) < 2 ^ 1024 := by decide +kernel
  have first : 2 ^ 1024 ≤ rounded (2 ^ 1024 - 2 ^ 970) := by decide +kernel
  constructor
  · intro finite
    by_contra beyond
    exact absurd (first.trans (rounded_mono (Nat.le_of_not_lt beyond))) (Nat.not_le_of_lt finite)
  · intro below
    exact Nat.lt_of_le_of_lt (rounded_mono (Nat.le_sub_one_of_lt below)) last

/-! ### The binary64 number nearest to an integer -/

theorem dyadic_eq (m e : Int) : dyadic m e = (m : Rat) * (2 : Rat) ^ e := by
  rw [dyadic]
  split
  next below =>
    obtain ⟨k, rfl⟩ : ∃ k : Nat, e = -k := ⟨e.natAbs, by omega⟩
    rw [Int.natAbs_neg, Int.natAbs_natCast, Nat.one_shiftLeft, Rat.mkRat_eq_div, zpow_neg,
      zpow_natCast, div_eq_mul_inv]
    push_cast
    rfl
  next above =>
    obtain ⟨k, rfl⟩ : ∃ k : Nat, e = k := ⟨e.natAbs, by omega⟩
    rw [Int.natAbs_natCast, Nat.one_shiftLeft, zpow_natCast]
    push_cast
    rfl

theorem floorLog2_one {n : Nat} (pos : n ≠ 0) : floorLog2 n 1 = n.log2 := by
  have one : Nat.log2 1 = 0 := by decide
  have above : ¬(n.log2 : Int) < 0 := by omega
  simp [floorLog2, scaleDown, one, above, Nat.one_shiftLeft, Nat.log2_self_le pos]

/-- The scale at which `n` is rounded to 53 digits, and what its digits are there before the
carry. -/
theorem scaleDown_one {n : Nat} (pos : n ≠ 0) :
    ∃ a d, scaleDown n 1 (max (floorLog2 n 1 - 52) (-1074)) = (a, d) ∧
    (roundQuotient a d : Rat) * 2 ^ max (floorLog2 n 1 - 52) (-1074) = rounded n ∧
    2 ^ 52 ≤ roundQuotient a d ∧ roundQuotient a d ≤ 2 ^ 53 := by
  have scale : max (floorLog2 n 1 - 52) (-1074) =
      (n.log2 : Int) - 52 := by rw [floorLog2_one pos]; omega
  rw [scale]
  by_cases small : n.log2 < 52
  · obtain ⟨k, digits⟩ : ∃ k, n.log2 + k = 52 := ⟨52 - n.log2, by omega⟩
    have negative : (n.log2 : Int) - 52 = -k := by omega
    have low : 2 ^ 52 ≤ n * 2 ^ k := by
      rw [← digits, Nat.pow_add]
      exact Nat.mul_le_mul_right _ (Nat.log2_self_le pos)
    have high : n * 2 ^ k < 2 ^ 53 := by
      rw [show 53 = n.log2 + 1 + k by omega, Nat.pow_add]
      exact Nat.mul_lt_mul_of_pos_right Nat.lt_log2_self (Nat.two_pow_pos k)
    have exact : roundQuotient (n * 2 ^ k) 1 = n * 2 ^ k := by
      simpa [rounded, spacing_of_lt high] using rounded_of_lt high
    refine ⟨n * 2 ^ k, 1, ?_, ?_, ?_, ?_⟩
    · have below : (n.log2 : Int) - 52 < 0 := by omega
      rw [scaleDown, if_pos below, negative, Int.natAbs_neg, Int.natAbs_natCast, Nat.shiftLeft_eq]
    · have whole : n < 2 ^ 53 := (Nat.log2_lt pos).1 (by omega)
      rw [exact, negative, zpow_neg, zpow_natCast, rounded_of_lt whole]
      push_cast
      rw [mul_inv_cancel_right₀ (by positivity)]
    · rwa [exact]
    · rw [exact]
      exact Nat.le_of_lt high
  · obtain ⟨k, digits⟩ : ∃ k, n.log2 = 52 + k := ⟨n.log2 - 52, by omega⟩
    have positive : (n.log2 : Int) - 52 = k := by omega
    have grid : spacing n = 2 ^ k := by rw [spacing, digits, Nat.add_sub_cancel_left]
    refine ⟨n, 2 ^ k, ?_, ?_, ?_, ?_⟩
    · have above : ¬(n.log2 : Int) - 52 < 0 := by omega
      rw [scaleDown, if_neg above, positive, Int.natAbs_natCast, Nat.one_shiftLeft]
    · rw [positive, zpow_natCast, rounded, grid]
      push_cast
      rfl
    · apply le_roundQuotient (Nat.two_pow_pos k)
      rw [← Nat.pow_add, ← digits]
      exact Nat.log2_self_le pos
    · apply roundQuotient_le (Nat.two_pow_pos k)
      rw [← Nat.pow_add, show 53 + k = n.log2 + 1 by omega]
      exact Nat.le_of_lt Nat.lt_log2_self

theorem two_pow_add (j k : Nat) : ((2 ^ (j + k) : Nat) : Rat) = (2 ^ j : Nat) * 2 ^ (k : Int) := by
  rw [Nat.pow_add, Nat.cast_mul, zpow_natCast, Nat.cast_pow 2 k, Nat.cast_ofNat]

/-- How large a number of 53 digits is can be told from its last one. -/
theorem two_pow_le_iff {m : Nat} {e : Int} (k : Nat) (low : 2 ^ 52 ≤ m) (high : m < 2 ^ 53) :
    ((2 ^ (53 + k) : Nat) : Rat) ≤ m * 2 ^ e ↔ k < e := by
  have two : (0 : Rat) < 2 ^ e := zpow_pos (by norm_num) e
  constructor
  · intro large
    by_contra least
    have digits : (m : Rat) < (2 ^ 53 : Nat) := Nat.cast_lt.2 high
    have scale : (2 : Rat) ^ e ≤ 2 ^ (k : Int) :=
      zpow_le_zpow_right₀ (by norm_num) (Int.not_lt.1 least)
    have small : (m : Rat) * 2 ^ e < (2 ^ (53 + k) : Nat) := by
      calc (m : Rat) * 2 ^ e < (2 ^ 53 : Nat) * 2 ^ e := mul_lt_mul_of_pos_right digits two
        _ ≤ (2 ^ 53 : Nat) * 2 ^ (k : Int) := mul_le_mul_of_nonneg_left scale (Nat.cast_nonneg _)
        _ = (2 ^ (53 + k) : Nat) := (two_pow_add 53 k).symm
    exact absurd large (not_le_of_gt small)
  · intro beyond
    have digits : ((2 ^ 52 : Nat) : Rat) ≤ m := Nat.cast_le.2 low
    have scale : (2 : Rat) ^ ((k + 1 : Nat) : Int) ≤ 2 ^ e :=
      zpow_le_zpow_right₀ (by norm_num) (by omega)
    calc
      ((2 ^ (53 + k) : Nat) : Rat) = (2 ^ (52 + (k + 1)) : Nat) := by
        rw [show 53 + k = 52 + (k + 1) by omega]
      _ = (2 ^ 52 : Nat) * 2 ^ ((k + 1 : Nat) : Int) := two_pow_add 52 (k + 1)
      _ ≤ (2 ^ 52 : Nat) * 2 ^ e := mul_le_mul_of_nonneg_left scale (Nat.cast_nonneg _)
      _ ≤ m * 2 ^ e := mul_le_mul_of_nonneg_right digits two.le

/-- The number nearest to an integer is the one on the grid, as long as that is finite. -/
theorem ofQuotient_one {n : Nat} (negative : Bool) (pos : n ≠ 0) : ∃ m e,
    ofQuotient negative n 1 = (if 2 ^ 1024 ≤ rounded n then .infinite negative
      else .finite negative m e) ∧
      dyadic m e = rounded n := by
  obtain ⟨a, d, scaled, value, low, high⟩ := scaleDown_one pos
  rw [ofQuotient, if_neg pos]
  extract_lets e
  rw [scaled]
  simp only [Nat.one_shiftLeft]
  obtain ⟨m, f, carry, value', low', high'⟩ : ∃ (m : Nat) (f : Int),
      (if roundQuotient a d = 2 ^ 53 then (2 ^ 52, e + 1) else (roundQuotient a d, e)) = (m, f) ∧
        (m : Rat) * 2 ^ f = rounded n ∧ 2 ^ 52 ≤ m ∧ m < 2 ^ 53 := by
    by_cases last : roundQuotient a d = 2 ^ 53
    · refine ⟨2 ^ 52, e + 1, if_pos last, ?_, Nat.le_refl _, by decide⟩
      rw [← value, last, zpow_add_one₀ (by norm_num)]
      push_cast
      ring
    · exact ⟨_, e, if_neg last, value, low, Nat.lt_of_le_of_ne high last⟩
  rw [carry]
  have beyond : f > 971 ↔ 2 ^ 1024 ≤ rounded n := by
    rw [show 1024 = 53 + 971 from rfl, ← Nat.cast_le (α := Rat), ← value']
    exact (two_pow_le_iff 971 low' high').symm
  exact ⟨m, f, if_congr beyond rfl rfl, by rw [dyadic_eq, ← value']; norm_cast⟩

/-! ### Signed integers -/

def nearest (a : Int) : Int :=
  if a < 0 then -(rounded a.natAbs : Int) else rounded a.natAbs

theorem nearest_of_le {a : Int} (small : a.natAbs ≤ 2 ^ 53) : nearest a = a := by
  rw [nearest, rounded_of_le small]
  split <;> omega

theorem nearest_mono {a b : Int} (le : a ≤ b) : nearest a ≤ nearest b := by
  by_cases negative : a < 0 <;> by_cases negative' : b < 0
  · have magnitudes : rounded b.natAbs ≤ rounded a.natAbs := rounded_mono (by omega)
    rw [nearest, nearest, if_pos negative, if_pos negative']
    omega
  · rw [nearest, nearest, if_pos negative, if_neg negative']
    omega
  · omega
  · have magnitudes : rounded a.natAbs ≤ rounded b.natAbs := rounded_mono (by omega)
    rw [nearest, nearest, if_neg negative, if_neg negative']
    omega

theorem ofRat_intCast (a : Int) : ofRat a = ofQuotient (a < 0) a.natAbs 1 := by
  rw [ofRat, Rat.num_intCast, Rat.den_intCast]

theorem ofRat_intCast_of_lt {a : Int} (small : a.natAbs < 2 ^ 1024 - 2 ^ 970) :
    ∃ s m e, ofRat a = .finite s m e ∧ dyadic (if s then -m else m) e = nearest a := by
  rw [ofRat_intCast]
  by_cases zero : a = 0
  · subst zero
    exact ⟨_, _, _, rfl, by decide +kernel⟩
  · obtain ⟨m, e, number, value⟩ := ofQuotient_one (a < 0) (Int.natAbs_ne_zero.2 zero)
    rw [if_neg (Nat.not_le_of_lt (rounded_lt_iff.2 small))] at number
    refine ⟨_, m, e, number, ?_⟩
    rw [dyadic_eq] at value ⊢
    by_cases negative : a < 0
    · simp [nearest, negative, ← value]
    · simp [nearest, negative, ← value]

theorem ofInt?_of_lt {a : Int} (small : a.natAbs < 2 ^ 1024 - 2 ^ 970) :
    ∃ x, ofInt? a = some x ∧ x.extended? = some (.at (nearest a)) := by
  obtain ⟨s, m, e, number, value⟩ := ofRat_intCast_of_lt small
  exact ⟨.finite s m e, by rw [ofInt?, number], by rw [extended?, value]⟩

/-- There is a number nearest to an integer as long as that is not halfway to the next power of two,
beyond the finite numbers. -/
theorem ofInt?_eq_none_iff {a : Int} : ofInt? a = none ↔ 2 ^ 1024 - 2 ^ 970 ≤ a.natAbs := by
  constructor
  · intro none
    by_contra small
    obtain ⟨x, number, -⟩ := ofInt?_of_lt (Nat.lt_of_not_le small)
    cases none.symm.trans number
  · intro large
    have nonzero : a.natAbs ≠ 0 := fun zero => absurd (zero ▸ large) (by decide +kernel)
    obtain ⟨m, e, number, -⟩ := ofQuotient_one (a < 0) nonzero
    rw [if_pos (Nat.le_of_not_lt fun small => absurd large
      (Nat.not_le_of_lt (rounded_lt_iff.1 small)))] at number
    rw [ofInt?, ofRat_intCast, number]

theorem extended_of_ofInt? {a : Int} {x : Binary64} (number : ofInt? a = some x) :
    x.extended? = some (.at (nearest a)) := by
  have small : a.natAbs < 2 ^ 1024 - 2 ^ 970 :=
    Nat.lt_of_not_le fun large => by simp [ofInt?_eq_none_iff.2 large] at number
  obtain ⟨y, number', value⟩ := ofInt?_of_lt small
  cases number.symm.trans number'
  exact value

theorem isNaN_of_ofInt? {a : Int} {x : Binary64} (number : ofInt? a = some x) :
    x.isNaN = false := by
  have value := extended_of_ofInt? number
  cases x with
  | nan => cases value
  | _ => rfl

section

variable {a b : Int} {x y : Binary64}

theorem lt_of_ofInt? (left : ofInt? a = some x) (right : ofInt? b = some y) :
    x.lt y = decide (nearest a < nearest b) := by
  rw [lt, extended_of_ofInt? left, extended_of_ofInt? right]
  simp [Extended.lt]

theorem eq_of_ofInt? (left : ofInt? a = some x) (right : ofInt? b = some y) :
    x.eq y = decide (nearest a = nearest b) := by
  rw [eq, extended_of_ofInt? left, extended_of_ofInt? right]
  rw [Bool.eq_iff_iff]
  simp

/-- Rounding keeps the order of integers, except that it can make two of them equal. -/
theorem lt_iff_of_ofInt? (left : ofInt? a = some x) (right : ofInt? b = some y) :
    x.lt y = true ↔ a < b ∧ x.eq y = false := by
  rw [lt_of_ofInt? left right, eq_of_ofInt? left right, decide_eq_true_iff, decide_eq_false_iff_not]
  constructor
  · intro below
    have apart : ¬b ≤ a := fun le => absurd (nearest_mono le) (by omega)
    omega
  · rintro ⟨below, apart⟩
    have le := nearest_mono (Int.le_of_lt below)
    omega

theorem eq_self_of_ofInt? (left : ofInt? a = some x) (right : ofInt? b = some y) (same : a = b) :
    x.eq y = true := by
  rw [eq_of_ofInt? left right, same, decide_eq_true rfl]

theorem le_iff_of_ofInt? (left : ofInt? a = some x) (right : ofInt? b = some y) :
    x.le y = true ↔ a ≤ b ∨ x.eq y = true := by
  have equal := eq_self_of_ofInt? left right
  rw [le, Bool.or_eq_true, lt_iff_of_ofInt? left right]
  cases near : x.eq y with
  | true => simp
  | false =>
    have apart : a ≠ b := fun same => by simp [equal same] at near
    simp only [reduceCtorEq, or_false, and_true]
    omega

end

end Binary64

end SceneCourse
