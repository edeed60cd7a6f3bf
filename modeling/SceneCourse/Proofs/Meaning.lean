import SceneCourse.Proofs.Resolution
import SceneCourse.Session.Basic

/-! What conditions mean. A condition is a formula over its comparisons, each decided on what its
operands stand for: `and` is conjunction, `or` disjunction, `not` the negation of the first
condition under it, and an operator of no meaning is false. Under a limit of its depth a condition
means what is left of it when everything below the limit is replaced by what is false. The
evaluation looks at no more than it must, and it answers with the meaning exactly if nothing that it
comes to is in its way. Where every path can be followed and every operand of an order has a number,
that can only be a note that cannot be shown. -/

namespace SceneCourse

namespace Condition

/-! ### Formulas -/

mutual

/-- Whether a condition is true, given how its comparisons are decided. -/
def means (decides : CompareOp → Value → Value → Bool) : Condition → Bool
  | .comparison op left right => decides op left right
  | .logical .and cs => allMean decides cs
  | .logical .or cs => anyMeans decides cs
  | .logical .not [] => false
  | .logical .not (c :: _) => !means decides c
  | .unknown .. => false

def allMean (decides : CompareOp → Value → Value → Bool) : List Condition → Bool
  | [] => true
  | c :: cs => means decides c && allMean decides cs

def anyMeans (decides : CompareOp → Value → Value → Bool) : List Condition → Bool
  | [] => false
  | c :: cs => means decides c || anyMeans decides cs

end

/-- A condition in which everything that lies a number of levels below it is replaced by what is
false, a disjunction of nothing. -/
def cut : Nat → Condition → Condition
  | 0, _ => .logical .or []
  | k + 1, .logical op cs => .logical op (cs.map (cut k))
  | _ + 1, c => c

mutual

def height : Condition → Nat
  | .logical _ cs => heightAll cs
  | _ => 0

def heightAll : List Condition → Nat
  | [] => 0
  | c :: cs => max (height c + 1) (heightAll cs)

end

def parts : Condition → List Condition
  | .logical _ cs => cs
  | _ => []

mutual

/-- What is true of a condition as soon as it is true of all its parts, is true of all
conditions. -/
@[elab_as_elim]
theorem induct {motive : Condition → Prop} (step : ∀ c, (∀ p ∈ c.parts, motive p) → motive c)
    (c : Condition) : motive c :=
  match c with
  | .comparison .. => step _ nofun
  | .logical _ cs => step _ (induct_each step cs)
  | .unknown .. => step _ nofun

theorem induct_each {motive : Condition → Prop} (step : ∀ c, (∀ p ∈ c.parts, motive p) → motive c)
    (cs : List Condition) : ∀ c ∈ cs, motive c :=
  match cs with
  | [] => nofun
  | c :: cs => List.forall_mem_cons.2 ⟨induct step c, induct_each step cs⟩

end

theorem heightAll_le_iff {cs : List Condition} {k : Nat} :
    heightAll cs ≤ k ↔ ∀ c ∈ cs, c.height + 1 ≤ k := by
  induction cs with
  | nil => simp [heightAll]
  | cons c cs ih => rw [heightAll, Nat.max_le, ih, List.forall_mem_cons]

theorem height_lt {c p : Condition} (part : p ∈ c.parts) : p.height < c.height := by
  cases c with
  | logical op cs => exact heightAll_le_iff.1 (Nat.le_refl _) p part
  | _ => cases part

/-- Nothing is replaced that lies deeper than the condition goes. -/
theorem cut_of_height_le {c : Condition} {k : Nat} (low : c.height ≤ k) : c.cut (k + 1) = c := by
  induction c using induct generalizing k with
  | step c ih =>
    have each : ∀ p ∈ c.parts, p.cut k = id p := by
      intro p part
      have lower := height_lt part
      obtain ⟨j, rfl⟩ : ∃ j, k = j + 1 := ⟨k - 1, by omega⟩
      exact ih p part (by omega)
    cases c with
    | logical op cs =>
      replace each : cs.map (cut k) = cs.map id := List.map_congr_left each
      rw [cut, each, List.map_id]
    | _ => rfl

theorem allMean_iff {decides : CompareOp → Value → Value → Bool} {cs : List Condition} :
    allMean decides cs = true ↔ ∀ c ∈ cs, c.means decides = true := by
  induction cs with
  | nil => simp [allMean]
  | cons c cs ih => rw [allMean, Bool.and_eq_true, ih, List.forall_mem_cons]

theorem anyMeans_iff {decides : CompareOp → Value → Value → Bool} {cs : List Condition} :
    anyMeans decides cs = false ↔ ∀ c ∈ cs, c.means decides = false := by
  induction cs with
  | nil => simp [anyMeans]
  | cons c cs ih => rw [anyMeans, Bool.or_eq_false_iff, ih, List.forall_mem_cons]

end Condition

/-! ### Answers and notes -/

namespace Noted

variable {α β : Type}

theorem bind_ok_iff {x : Noted α} {f : α → Noted β} {b : β} :
    (x >>= f).result = .ok b ↔ ∃ a, x.result = .ok a ∧ (f a).result = .ok b := by
  show (bind x f).result = .ok b ↔ _
  rw [bind]
  split
  next a answer => simp [answer]
  next e failure => simp [failure]

theorem result_bind {x : Noted α} {a : α} (known : x.result = .ok a) (f : α → Noted β) :
    (x >>= f).result = (f a).result := by
  show (bind x f).result = _
  rw [bind, known]

@[simp] theorem pure_ok_iff {a b : α} : (pure a : Noted α).result = .ok b ↔ a = b :=
  Except.ok.injEq a b ▸ Iff.rfl

/-- An answer that is known, without notes, leaves the question as it is. -/
@[simp] theorem ofExcept_ok_bind (a : α) (f : α → Noted β) : (ofExcept (.ok a) >>= f) = f a := by
  show Noted.bind _ _ = _
  simp [Noted.bind, ofExcept]

/-- The notes that a question leaves all have messages of some kind. -/
def Leaves (p : String → Prop) (x : Noted α) : Prop := ∀ e ∈ x.notes, p e.message

theorem leaves_pure (p : String → Prop) (a : α) : Leaves p (pure a) := by
  intro e mem
  cases mem

theorem leaves_ofExcept (p : String → Prop) (r : Except Fault α) : Leaves p (ofExcept r) := by
  intro e mem
  cases mem

theorem Leaves.bind {p : String → Prop} {x : Noted α} {f : α → Noted β} (first : Leaves p x)
    (second : ∀ a, Leaves p (f a)) : Leaves p (x >>= f) := by
  intro e mem
  replace mem : e ∈ (Noted.bind x f).notes := mem
  rw [Noted.bind] at mem
  split at mem
  next a _ =>
    rcases List.mem_append.1 mem with left | right
    · exact first e left
    · exact second a e right
  next => exact first e mem

theorem Leaves.note {p : String → Prop} {category : Category} {message : String} {data : Value}
    (fits : p message) : Leaves p (note category message data) := by
  intro e mem
  cases List.mem_singleton.1 mem
  exact fits

/-- Asks a question of one after the other, as long as the answer is the same. -/
def goOn (onward : Bool) (f : α → Noted Bool) : List α → Noted Bool
  | [] => return onward
  | a :: as => do if (← f a) = onward then goOn onward f as else return !onward

section

variable {onward : Bool} {f g : α → Noted Bool} {as : List α}

theorem goOn_congr (each : ∀ a ∈ as, f a = g a) : goOn onward f as = goOn onward g as := by
  induction as with
  | nil => rfl
  | cons a as ih =>
    rw [List.forall_mem_cons] at each
    rw [goOn, goOn, each.1, ih each.2]

theorem leaves_goOn {p : String → Prop} (each : ∀ a ∈ as, Leaves p (f a)) :
    Leaves p (goOn onward f as) := by
  induction as with
  | nil => exact leaves_pure p onward
  | cons a as ih =>
    rw [List.forall_mem_cons] at each
    rw [goOn]
    refine each.1.bind fun first => ?_
    split
    · exact ih each.2
    · exact leaves_pure p _

/-- The last answer is the one to go on with if all are. -/
theorem goOn_ok {truth : α → Bool} {b : Bool}
    (each : ∀ a ∈ as, ∀ b, (f a).result = .ok b → truth a = b)
    (answer : (goOn onward f as).result = .ok b) : b = onward ↔ ∀ a ∈ as, truth a = onward := by
  induction as with
  | nil => simp [pure_ok_iff.1 answer]
  | cons a as ih =>
    rw [List.forall_mem_cons] at each ⊢
    rw [goOn] at answer
    obtain ⟨first, known, answer⟩ := bind_ok_iff.1 answer
    rw [each.1 first known]
    split at answer
    next same => simp [same, ih each.2 answer]
    next other => simp [other, ← pure_ok_iff.1 answer]

end

end Noted

/-- A question leaves everything in a session as it is but the log. -/
theorem Session.ask_snd {η α : Type} (question : Store → Limits → Noted α) (q : Session η) :
    (ask question q).2 = { q with log := q.log.addAll (question q.store q.limits).notes } := by
  rw [ask]
  cases (question q.store q.limits).result <;> rfl

/-- How two values are ordered: by their numbers, and not at all where one of them is no number. -/
def CompareOp.ranks (op : CompareOp) (x y : Value) : Bool :=
  match x.toNumber, y.toNumber with
  | .ok a, .ok b => !(a.isNaN || b.isNaN) && op.orders a b
  | _, _ => false

/-- How a comparison of two values comes out. -/
def CompareOp.judges (op : CompareOp) (x y : Value) : Bool :=
  match op with
  | .equals => x.strictlySame y
  | .notEquals => !x.strictlySame y
  | op => op.ranks x y

namespace Store

open Noted Condition

/-- How a comparison of two operands is decided in a state: by the values that they stand for. -/
def decides (s : Store) (op : CompareOp) (left right : Value) : Bool :=
  match (s.resolve left).result, (s.resolve right).result with
  | .ok x, .ok y => op.judges x y
  | _, _ => false

section

variable {s : Store} {n depth : Nat} {b : Bool}

/-- How an order comparison is answered. -/
theorem compare_order {op : CompareOp} (order : ordering op = true) (x y : Value) :
    compare op x y = do
    let a ← ofExcept x.toNumber
    let b ← ofExcept y.toNumber
    if a.isNaN || b.isNaN then
      note .condition s!"Comparison operands must be numbers ({op.name})"
        (.object [("left", x), ("right", y)])
      return false
    else return op.orders a b := by
  cases op with
  | equals | notEquals => cases order
  | _ => rfl

theorem judges_order {op : CompareOp} (order : ordering op = true) (x y : Value) :
    op.judges x y = op.ranks x y := by
  cases op with
  | equals | notEquals => cases order
  | _ => rfl

theorem compare_means {op : CompareOp} {x y : Value} (answer : (compare op x y).result = .ok b) :
    op.judges x y = b := by
  by_cases order : ordering op = true
  · rw [compare_order order] at answer
    obtain ⟨a, left, answer⟩ := bind_ok_iff.1 answer
    obtain ⟨c, right, answer⟩ := bind_ok_iff.1 answer
    replace left : x.toNumber = .ok a := left
    replace right : y.toNumber = .ok c := right
    rw [judges_order order, CompareOp.ranks, left, right]
    dsimp only
    split at answer
    next nan =>
      obtain ⟨_, -, value⟩ := bind_ok_iff.1 answer
      rw [nan]
      exact pure_ok_iff.1 value
    next number =>
      rw [eq_false_of_ne_true number]
      exact pure_ok_iff.1 answer
  · cases op with
    | equals | notEquals => exact pure_ok_iff.1 answer
    | _ => exact absurd rfl order

theorem within_iff : beyond (.int n) depth = .ok false ↔ depth ≤ n := by
  rw [beyond_int, Except.ok.injEq, decide_eq_false_iff_not, Int.ofNat_lt, Nat.not_lt]

theorem deep_iff : beyond (.int n) depth = .ok true ↔ n < depth := by
  rw [beyond_int, Except.ok.injEq, decide_eq_true_iff, Int.ofNat_lt]

theorem withinDepth_of_le (le : depth ≤ n) (x : Noted Bool) : withinDepth (.int n) depth x = x := by
  rw [withinDepth, within_iff.2 le, ofExcept_ok_bind]
  rfl

/-- Beyond the limit the answer is false, if there is one. -/
theorem withinDepth_of_lt (lt : n < depth) {x : Noted Bool}
    (answer : (withinDepth (.int n) depth x).result = .ok b) : b = false := by
  rw [withinDepth, deep_iff.2 lt, ofExcept_ok_bind, if_pos rfl] at answer
  obtain ⟨_, -, value⟩ := bind_ok_iff.1 answer
  exact (pure_ok_iff.1 value).symm

/-! ### One level of the evaluation -/

/-- What a condition answers, given what its parts answer. -/
def answers (s : Store) (inner : Condition → Noted Bool) : Condition → Noted Bool
  | .comparison op left right => do compare op (← s.resolve left) (← s.resolve right)
  | .logical .and cs => goOn true inner cs
  | .logical .or cs => goOn false inner cs
  | .logical .not [] => return false
  | .logical .not (c :: _) => do return !(← inner c)
  | .unknown op extras => do
    Noted.note .condition s!"Unknown condition operator: {op}" (Condition.unknown op extras).dump
    return false

theorem allHold_eq (limit : Value) (depth : Nat) (cs : List Condition) :
    s.allHold limit depth cs = goOn true (s.holds limit depth) cs := by
  induction cs with
  | nil => rfl
  | cons c cs ih => rw [allHold, goOn, ih]; rfl

theorem anyHolds_eq (limit : Value) (depth : Nat) (cs : List Condition) :
    s.anyHolds limit depth cs = goOn false (s.holds limit depth) cs := by
  induction cs with
  | nil => rfl
  | cons c cs ih =>
    rw [anyHolds, goOn, ih]
    congr 1
    funext first
    cases first <;> rfl

theorem holds_eq (s : Store) (limit : Value) (depth : Nat) (c : Condition) :
    s.holds limit depth c = withinDepth limit depth (s.answers (s.holds limit (depth + 1)) c) := by
  rcases c with _ | ⟨_ | _ | _, _ | _⟩ | _ <;> rw [holds, answers] <;>
    simp only [allHold_eq, anyHolds_eq]

/-! ### The answer is the meaning -/

/-- A condition answers with its meaning, cut at some depth, if its parts do, cut one level
higher. -/
theorem answers_means {inner : Condition → Noted Bool} {c : Condition} {k : Nat}
    (each : ∀ p ∈ c.parts, ∀ b, (inner p).result = .ok b → (p.cut k).means s.decides = b)
    (answer : (s.answers inner c).result = .ok b) : (c.cut (k + 1)).means s.decides = b := by
  cases c with
  | comparison op left right =>
    obtain ⟨x, first, answer⟩ := bind_ok_iff.1 answer
    obtain ⟨y, second, answer⟩ := bind_ok_iff.1 answer
    show s.decides op left right = b
    rw [decides, first, second]
    exact compare_means answer
  | logical op cs =>
    rw [cut]
    cases op with
    | and =>
      rw [means, Bool.eq_iff_iff, allMean_iff, List.forall_mem_map]
      exact (goOn_ok each answer).symm
    | or =>
      have same : anyMeans s.decides (cs.map (Condition.cut k)) = false ↔ b = false := by
        rw [anyMeans_iff, List.forall_mem_map]
        exact (goOn_ok each answer).symm
      rw [means]
      cases b <;> simpa using same
    | not =>
      cases cs with
      | nil => exact pure_ok_iff.1 answer
      | cons c cs =>
        obtain ⟨first, known, answer⟩ := bind_ok_iff.1 answer
        rw [List.map_cons, means, each c List.mem_cons_self first known]
        exact pure_ok_iff.1 answer
  | unknown op extras =>
    obtain ⟨_, -, answer⟩ := bind_ok_iff.1 answer
    exact pure_ok_iff.1 answer

/-- An answer is the meaning of what lies within the limit, `k` levels from here. -/
theorem holds_means {k : Nat} {c : Condition} (levels : k + depth = n + 1)
    (answer : (s.holds (.int n) depth c).result = .ok b) : (c.cut k).means s.decides = b := by
  -- With each level down the condition gets smaller and one level less is left.
  induction c using Condition.induct generalizing k depth b with
  | step c ih =>
    rw [holds_eq] at answer
    cases k with
    | zero => exact (withinDepth_of_lt (by omega) answer).symm
    | succ k =>
      rw [withinDepth_of_le (by omega)] at answer
      exact answers_means (fun p part b => ih p part (by omega)) answer

theorem holds_means_iff (s : Store) (n : Nat) (c : Condition) :
    (s.holds (.int n) 0 c).result = .ok ((c.cut (n + 1)).means s.decides) ↔
      ¬(s.holds (.int n) 0 c).Fails := by
  constructor
  · rintro answer ⟨e, failure⟩
    cases answer.symm.trans failure
  · intro sound
    cases known : (s.holds (.int n) 0 c).result with
    | error e => exact absurd ⟨e, known⟩ sound
    | ok b => rw [holds_means (Nat.add_zero (n + 1)) known]

end

/-! ### What is in the way -/

section

variable (s : Store) (n : Nat)

/-- The conditions that the evaluation of a condition at some depth comes to, each with its
depth. -/
inductive Reaches : Nat → Condition → Nat → Condition → Prop where
  | here {depth : Nat} {c : Condition} : Reaches depth c depth c
  | and {depth d : Nat} {before after : List Condition} {c p : Condition} (within : depth ≤ n)
    (hold : ∀ b ∈ before, (s.holds (.int n) (depth + 1) b).result = .ok true)
    (onward : Reaches (depth + 1) c d p) : Reaches depth (.logical .and (before ++ c :: after)) d p
  | or {depth d : Nat} {before after : List Condition} {c p : Condition} (within : depth ≤ n)
    (fall : ∀ b ∈ before, (s.holds (.int n) (depth + 1) b).result = .ok false)
    (onward : Reaches (depth + 1) c d p) : Reaches depth (.logical .or (before ++ c :: after)) d p
  | not {depth d : Nat} {after : List Condition} {c p : Condition} (within : depth ≤ n)
    (onward : Reaches (depth + 1) c d p) : Reaches depth (.logical .not (c :: after)) d p

def Misled (v : Value) : Prop :=
  ∃ (m : Nat) (es : List (Key × Value)) (path : String), v = .map m es ∧
    Entries.get? (.str "ref") es = some (.str path) ∧
    s.Trips path

def Untold (v : Value) : Prop :=
  ∃ (m : Nat) (es : List (Key × Value)) (path : Value), v = .map m es ∧
    Entries.get? (.str "ref") es = some path ∧
    (∀ text, path ≠ .str text) ∧ path.holdsLong = true

/-- A comparison for which a path cannot be followed, or a number is too large. -/
inductive Derails : Condition → Prop where
  | left {op : CompareOp} {l r : Value} (misled : s.Misled l) : Derails (.comparison op l r)
  | right {op : CompareOp} {l r : Value} (misled : s.Misled r) : Derails (.comparison op l r)
  | number {op : CompareOp} {l r x y : Value} (first : (s.resolve l).result = .ok x)
    (second : (s.resolve r).result = .ok y)
    (order : ordering op = true) (large : TooLarge x ∨ TooLarge y) : Derails (.comparison op l r)

/-- A condition about which there is a note that cannot be shown, for an integer in it is too
long. -/
inductive Mute : Nat → Condition → Prop where
  | left {depth : Nat} {op : CompareOp} {l r : Value} (within : depth ≤ n) (untold : Untold l) :
    Mute depth (.comparison op l r)
  | right {depth : Nat} {op : CompareOp} {l r : Value} (within : depth ≤ n) (untold : Untold r) :
    Mute depth (.comparison op l r)
  | operands {depth : Nat} {op : CompareOp} {l r x y : Value} (within : depth ≤ n)
    (first : (s.resolve l).result = .ok x) (second : (s.resolve r).result = .ok y)
    (order : ordering op = true) (unsaid : Unsaid x y) : Mute depth (.comparison op l r)
  | unknown {depth : Nat} {op : String} {extras : List (String × Value)} (within : depth ≤ n)
    (long : (Condition.unknown op extras).dump.holdsLong = true) : Mute depth (.unknown op extras)
  | limit {depth : Nat} {c : Condition} (deep : n < depth)
    (long : (Value.int n).holdsLong = true) : Mute depth c

variable {s n}

theorem lost_iff {v : Value} : s.Lost v ↔ s.Misled v ∨ Untold v := by
  constructor
  · rintro (⟨ref, trips⟩ | ⟨ref, noText, long⟩)
    · exact Or.inl ⟨_, _, _, rfl, ref, trips⟩
    · exact Or.inr ⟨_, _, _, rfl, ref, noText, long⟩
  · rintro (⟨m, es, path, rfl, ref, trips⟩ | ⟨m, es, path, rfl, ref, noText, long⟩)
    · exact .trips ref trips
    · exact .untold ref noText long

theorem clashes_iff {depth : Nat} {op : CompareOp} {l r : Value} (within : depth ≤ n) :
    s.Clashes op l r ↔ s.Derails (.comparison op l r) ∨ s.Mute n depth (.comparison op l r) := by
  constructor
  · rintro (lost | lost | ⟨first, second, order, large | large | unsaid⟩)
    · exact (lost_iff.1 lost).imp .left (.left within)
    · exact (lost_iff.1 lost).imp .right (.right within)
    · exact Or.inl (.number first second order (Or.inl large))
    · exact Or.inl (.number first second order (Or.inr large))
    · exact Or.inr (.operands within first second order unsaid)
  · rintro ((misled | misled | ⟨first, second, order, large⟩) | (⟨-, untold⟩ | ⟨-, untold⟩ | ⟨-,
      first, second, order, unsaid⟩ | - | ⟨deep, -⟩))
    · exact .left (lost_iff.2 (Or.inl misled))
    · exact .right (lost_iff.2 (Or.inl misled))
    · exact .between first second order (large.imp_right Or.inl)
    · exact .left (lost_iff.2 (Or.inr untold))
    · exact .right (lost_iff.2 (Or.inr untold))
    · exact .between first second order (Or.inr (Or.inr unsaid))
    · omega

/-- There is no verdict just if the evaluation comes to a condition that derails or about which a
note cannot be shown. -/
theorem stuck_iff {depth : Nat} {c : Condition} :
    s.Stuck (.int n) depth c ↔ ∃ d p, s.Reaches n depth c d p ∧
      (d ≤ n ∧ s.Derails p ∨ s.Mute n d p) := by
  constructor
  · intro stuck
    induction stuck with
    | comparison within clash =>
      rw [within_iff] at within
      exact ⟨_, _, .here, ((clashes_iff within).1 clash).imp_left fun derails => ⟨within, derails⟩⟩
    | and within hold _ ih =>
      obtain ⟨d, p, reaches, blocked⟩ := ih
      exact ⟨d, p, .and (within_iff.1 within) hold reaches, blocked⟩
    | or within fall _ ih =>
      obtain ⟨d, p, reaches, blocked⟩ := ih
      exact ⟨d, p, .or (within_iff.1 within) fall reaches, blocked⟩
    | not within _ ih =>
      obtain ⟨d, p, reaches, blocked⟩ := ih
      exact ⟨d, p, .not (within_iff.1 within) reaches, blocked⟩
    | unknown within long => exact ⟨_, _, .here, Or.inr (.unknown (within_iff.1 within) long)⟩
    | beyond deep long => exact ⟨_, _, .here, Or.inr (.limit (deep_iff.1 deep) long)⟩
  · rintro ⟨d, p, reaches, blocked⟩
    induction reaches with
    | @here depth c =>
      rcases Nat.lt_or_ge n depth with deep | within
      · rcases blocked with ⟨within, -⟩ | mute
        · omega
        · cases mute with
          | limit _ long => exact .beyond (deep_iff.2 deep) long
          | _ => omega
      · cases c with
        | comparison op l r =>
          exact .comparison (within_iff.2 within)
            ((clashes_iff within).2 (blocked.imp_left And.right))
        | logical op cs =>
          -- Within the limit a combination is never in the way itself.
          rcases blocked with ⟨-, ⟨⟩⟩ | ⟨deep, -⟩
          omega
        | unknown op extras =>
          rcases blocked with ⟨-, ⟨⟩⟩ | mute
          cases mute with
          | unknown _ long => exact .unknown (within_iff.2 within) long
          | limit deep _ => omega
    | and within hold _ ih => exact .and (within_iff.2 within) hold (ih blocked)
    | or within fall _ ih => exact .or (within_iff.2 within) fall (ih blocked)
    | not within _ ih => exact .not (within_iff.2 within) (ih blocked)

end

/-! ### Limits that are not reached -/

section

variable {s : Store} {n depth : Nat}

theorem answers_congr {f g : Condition → Noted Bool} {c : Condition}
    (each : ∀ p ∈ c.parts, f p = g p) : s.answers f c = s.answers g c := by
  cases c with
  | logical op cs =>
    cases op with
    | and | or => exact goOn_congr each
    | not =>
      cases cs with
      | nil => rfl
      | cons c cs => rw [answers, answers, each c List.mem_cons_self]
  | _ => rfl

/-- Limits that a condition does not go beyond make no difference. -/
theorem holds_limit {c : Condition} {m : Nat} (low : depth + c.height ≤ n)
    (low' : depth + c.height ≤ m) : s.holds (.int n) depth c = s.holds (.int m) depth c := by
  induction c using Condition.induct generalizing depth with
  | step c ih =>
    rw [holds_eq, holds_eq, withinDepth_of_le (by omega), withinDepth_of_le (by omega)]
    refine answers_congr fun p part => ?_
    have lower := height_lt part
    exact ih p part (by omega) (by omega)

/-- The message of a note about conditions nested beyond a limit. -/
def TellsDepth (message : String) : Prop := "Condition nesting exceeds ".toList <+: message.toList

/-- The only note about a reference is that its path is no text. -/
theorem leaves_pathNote (v : Value) :
    Leaves (· = "Reference path must be a string") (s.resolve v) := by
  cases v with
  | map m es =>
    rw [resolve]
    split
    next => exact leaves_ofExcept _ _
    next => exact Leaves.bind (Leaves.note rfl) fun _ => leaves_pure _ _
    next => exact leaves_pure _ _
  | _ => exact leaves_pure _ _

theorem leaves_resolve (v : Value) : Leaves (¬TellsDepth ·) (s.resolve v) := by
  intro e mem
  rw [leaves_pathNote v e mem]
  simp [TellsDepth]

theorem leaves_compare (op : CompareOp) (x y : Value) :
    Leaves (¬TellsDepth ·) (compare op x y) := by
  by_cases order : ordering op = true
  · rw [compare_order order]
    refine Leaves.bind (leaves_ofExcept _ _) fun a => Leaves.bind (leaves_ofExcept _ _) fun b => ?_
    split
    · refine Leaves.bind (Leaves.note ?_) fun _ => leaves_pure _ _
      simp [TellsDepth, toString]
    · exact leaves_pure _ _
  · cases op with
    | equals | notEquals => exact leaves_pure _ _
    | _ => exact absurd rfl order

theorem leaves_answers {inner : Condition → Noted Bool} {c : Condition}
    (each : ∀ p ∈ c.parts, Leaves (¬TellsDepth ·) (inner p)) :
    Leaves (¬TellsDepth ·) (s.answers inner c) := by
  cases c with
  | comparison op left right =>
    exact (leaves_resolve left).bind fun x => (leaves_resolve right).bind fun y =>
      leaves_compare op x y
  | logical op cs =>
    cases op with
    | and | or => exact leaves_goOn each
    | not =>
      cases cs with
      | nil => exact leaves_pure _ false
      | cons c cs => exact (each c List.mem_cons_self).bind fun first => leaves_pure _ !first
  | unknown op extras =>
    refine Leaves.bind (Leaves.note ?_) fun _ => leaves_pure _ _
    simp [TellsDepth, toString]

/-- A condition that does not go beyond the limit leaves no note about that. -/
theorem leaves_holds {c : Condition} (low : depth + c.height ≤ n) :
    Leaves (¬TellsDepth ·) (s.holds (.int n) depth c) := by
  induction c using Condition.induct generalizing depth with
  | step c ih =>
    rw [holds_eq, withinDepth_of_le (by omega)]
    refine leaves_answers fun p part => ?_
    have lower := height_lt part
    exact ih p part (by omega)

/-- A value is read and then evaluated as the condition that it writes. -/
theorem holdsValue_eq {v : Value} {c : Condition} (read : Condition.ofValue v = .ok c) :
    s.holdsValue (.int n) v = s.holds (.int n) 0 c := by
  rw [s.holdsValue_of_ok _ read, withinDepth_of_le (Nat.zero_le n)]

/-- What evaluation answers and leaves, where every path can be followed and every number is one.
The answer is the meaning of the condition down to the limit, unless the evaluation comes to
something of which a note cannot be shown. A limit that the condition does not go beyond makes no
difference and leaves no note, a value makes the same as the condition that it writes, and in a
session only the log changes. -/
theorem evaluation_means (s : Store) (n : Nat) (c : Condition)
    (sound : ∀ d p, s.Reaches n 0 c d p → d ≤ n → ¬s.Derails p) :
    ((s.holds (.int n) 0 c).result = .ok ((c.cut (n + 1)).means s.decides) ↔
        ∀ d p, s.Reaches n 0 c d p → ¬s.Mute n d p) ∧
      (c.height ≤ n → c.cut (n + 1) = c ∧ Leaves (¬TellsDepth ·) (s.holds (.int n) 0 c) ∧
        ∀ m : Nat, c.height ≤ m → s.holds (.int m) 0 c = s.holds (.int n) 0 c) ∧
      (∀ v, Condition.ofValue v = .ok c → s.holdsValue (.int n) v = s.holds (.int n) 0 c) ∧
      ∀ (η : Type) (q : Session η), ∃ log, (Session.ask (fun t _ => t.holds (.int n) 0 c) q).2 =
        { q with log } := by
  refine ⟨?_, fun low => ⟨cut_of_height_le low, leaves_holds (by omega), fun m low' => ?_⟩,
    fun v => holdsValue_eq, ?_⟩
  · rw [holds_means_iff, holds_fails_iff, stuck_iff]
    constructor
    · intro verdict d p reaches mute
      exact verdict ⟨d, p, reaches, Or.inr mute⟩
    · rintro told ⟨d, p, reaches, ⟨within, derails⟩ | mute⟩
      · exact sound d p reaches within derails
      · exact told d p reaches mute
  · exact holds_limit (by omega) (by omega)
  · intro η q
    exact ⟨_, Session.ask_snd _ q⟩

def denial : Condition :=
  .logical .not [.logical .not [.logical .not [.comparison .equals .null .null]]]

theorem evaluation_means_denial :
    (∀ d p, empty.Reaches 1 0 denial d p → d ≤ 1 → ¬empty.Derails p) ∧
      (empty.holds (.int 1) 0 denial).result = .ok false := by
  have reached (d : Nat) (p : Condition) (reaches : empty.Reaches 1 0 denial d p) : ∃ cs, p =
      .logical .not cs := by
    rcases reaches with - | - | - | ⟨-, - | - | - | ⟨-, - | - | - | ⟨within, -⟩⟩⟩
    · exact ⟨_, rfl⟩
    · exact ⟨_, rfl⟩
    · exact ⟨_, rfl⟩
    · omega
  have sound (d : Nat) (p : Condition) (reaches : empty.Reaches 1 0 denial d p) (_ : d ≤ 1) :
      ¬empty.Derails p := by
    obtain ⟨cs, rfl⟩ := reached d p reaches
    nofun
  refine ⟨sound, (evaluation_means empty 1 denial sound).1.2 fun d p reaches mute => ?_⟩
  obtain ⟨cs, rfl⟩ := reached d p reaches
  cases mute with
  | limit _ long => exact absurd long (by decide +kernel)

def garbled : Condition := .unknown "matches" [("x", .int (Nat.pow 10 4300))]

/-- An operator of no meaning is not false, but fails, where the note about it cannot be shown. -/
theorem evaluation_falters :
    (∀ d p, empty.Reaches 64 0 garbled d p → d ≤ 64 → ¬empty.Derails p) ∧
      garbled.means empty.decides = false ∧
      (empty.holds (.int 64) 0 garbled).result ≠ .ok false := by
  have long : garbled.dump.holdsLong = true := by decide +kernel
  refine ⟨fun d p reaches _ => ?_, rfl, fun answer => ?_⟩
  · obtain ⟨op, extras, rfl⟩ : ∃ op extras, p = .unknown op extras := by
      cases reaches
      exact ⟨_, _, rfl⟩
    nofun
  · obtain ⟨e, failure⟩ := (holds_fails_iff empty 64 0 garbled).2 (.unknown (beyond_int 64 0) long)
    cases answer.symm.trans failure

end

end Store

end SceneCourse
