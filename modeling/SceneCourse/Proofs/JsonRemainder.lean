import SceneCourse.Proofs.JsonWritten

/-! What a reader of JSON takes from a text. Each part of a reader takes a piece off the head of the
text and leaves the rest to the next part. Proved: in what is read no container holds itself, and an
integer is only refused for a row of digits in the text that is longer than integers may be. -/

namespace SceneCourse.Json

/-! ### The rest of a text -/

theorem skipSpace_suffix (cs : List Char) : skipSpace cs <:+ cs := List.dropWhile_suffix _

theorem append_wholePart (cs : List Char) : (wholePart cs).1 ++ (wholePart cs).2 = cs := by
  unfold wholePart
  split
  next => rfl
  next => exact List.takeWhile_append_dropWhile

theorem suffix_of_digitRun {cs ds rest : List Char} (run : digitRun cs = (ds, rest)) :
    rest <:+ cs := by
  have same : rest = cs.dropWhile Char.isDigit := (congrArg Prod.snd run).symm
  rw [same]
  exact List.dropWhile_suffix _

theorem fraction_suffix (cs : List Char) : (fraction cs).2 <:+ cs := by
  unfold fraction
  split
  next rest =>
    split
    next => exact List.suffix_refl _
    next run => exact (suffix_of_digitRun run).trans (List.suffix_cons _ _)
  next => exact List.suffix_refl _

theorem exponent_suffix (cs : List Char) : (exponent cs).2 <:+ cs := by
  unfold exponent
  split
  next c rest =>
    split
    next =>
      dsimp only
      split
      next => exact List.suffix_refl _
      next run =>
        -- the digits begin behind the sign, if there is one
        split at run
        next => exact (suffix_of_digitRun run).trans ⟨[c, '-'], rfl⟩
        next => exact (suffix_of_digitRun run).trans ⟨[c, '+'], rfl⟩
        next => exact (suffix_of_digitRun run).trans (List.suffix_cons _ _)
    next => exact List.suffix_refl _
  next => exact List.suffix_refl _

/-- The cases are those of the reader; each character, escape or pair of escapes is taken off the
head. -/
theorem suffix_of_stringBody {pairs : Bool} {lead : Option Nat} {cs s rest : List Char}
    (found : stringBody pairs lead cs = some (s, rest)) : rest <:+ cs := by
  fun_induction stringBody pairs lead cs generalizing s rest with
  | case1 lead a b c d tail whole half =>
    obtain ⟨n, -, found⟩ := Option.bind_eq_some_iff.mp found
    suffices later : rest <:+ tail from later.trans ⟨['\\', 'u', a, b, c, d], rfl⟩
    repeat' split at found
    all_goals first
      | cases found
      | exact half n found
      | (obtain ⟨_, read, same⟩ := Option.bind_eq_some_iff.mp found
         cases same
         first | exact whole read | exact half n read)
  | case3 lead c tail _ _ whole =>
    obtain ⟨e, -, found⟩ := Option.bind_eq_some_iff.mp found
    obtain ⟨_, read, same⟩ := Option.bind_eq_some_iff.mp found
    cases same
    exact (whole read).trans ⟨['\\', c], rfl⟩
  | case4 | case6 =>
    cases found
    exact List.suffix_cons _ _
  | case8 lead c tail _ _ _ _ whole =>
    obtain ⟨_, read, same⟩ := Option.bind_eq_some_iff.mp found
    cases same
    exact (whole read).trans (List.suffix_cons c tail)
  | case2 | case5 | case7 | case9 => cases found

/-! ### Readings of a piece -/

/-- The refusal counts a row of more digits than an integer may have, which stands in the text. -/
def LongRun (cause : Numeral.NoInteger) (cs : List Char) : Prop :=
  ∃ ds, ds <:+: cs ∧ (∀ d ∈ ds, d.isDigit = true) ∧ Numeral.mostDigits < ds.length ∧
    cause = .tooLong ds.length

section

variable {α β : Type} {good : α → Prop} {cs rest : List Char}

/-- Something good is read off the head of the text, or the text is refused for its form or for a
long row of digits. -/
def Takes (good : α → Prop) (cs : List Char) : Except Refusal (α × List Char) → Prop
  | .ok (a, rest) => good a ∧ rest <:+ cs
  | .error .syntaxError => True
  | .error (.badInteger cause) => LongRun cause cs

theorem Takes.later {r : Except Refusal (α × List Char)} (h : Takes good rest r)
    (suffix : rest <:+ cs) : Takes good cs r :=
  match r, h with
  | .ok _, ⟨fine, after⟩ => ⟨fine, after.trans suffix⟩
  | .error .syntaxError, _ => trivial
  | .error (.badInteger _), ⟨ds, run, digits, long, cause⟩ =>
    ⟨ds, run.trans suffix.isInfix, digits, long, cause⟩

/-- One reading after the other. -/
theorem Takes.bind {better : β → Prop} {x : Except Refusal (α × List Char)}
    {f : α × List Char → Except Refusal (β × List Char)} (first : Takes good cs x)
    (next : ∀ a rest, good a → rest <:+ cs → Takes better cs (f (a, rest))) :
    Takes better cs (x >>= f) :=
  match x, first with
  | .ok (a, rest), ⟨fine, suffix⟩ => next a rest fine suffix
  | .error .syntaxError, _ => trivial
  | .error (.badInteger _), run => run

theorem Takes.map {better : β → Prop} {x : Except Refusal (α × List Char)} (h : Takes good cs x)
    (f : α → β) (each : ∀ a, good a → better (f a)) :
    Takes better cs (x.map fun (a, rest) => (f a, rest)) :=
  match x, h with
  | .ok _, ⟨fine, suffix⟩ => ⟨each _ fine, suffix⟩
  | .error .syntaxError, _ => trivial
  | .error (.badInteger _), run => run

theorem Takes.ite {c : Prop} [Decidable c] {x y : Except Refusal (α × List Char)}
    (yes : c → Takes good cs x) (no : ¬c → Takes good cs y) :
    Takes good cs (if c then x else y) := by
  split
  next h => exact yes h
  next h => exact no h

theorem takes_readText (pairs : Bool) (cs : List Char) :
    Takes (fun _ => True) cs (readText pairs cs) := by
  unfold readText
  split
  next s rest found => exact ⟨trivial, suffix_of_stringBody found⟩
  next => trivial

end

def Acyclic (v : Value) : Prop := v.isCyclic = false

theorem takes_readNumber (rules : Rules) (negative : Bool) (cs : List Char) :
    Takes Acyclic cs (readNumber rules negative cs) := by
  have digits := isDigit_of_mem_wholePart cs
  have whole := append_wholePart cs
  unfold readNumber
  generalize wholePart cs = parts at digits whole ⊢
  obtain ⟨ds, after⟩ := parts
  have rest : (exponent (fraction after).2).2 <:+ cs :=
    ((exponent_suffix _).trans (fraction_suffix _)).trans ⟨ds, whole⟩
  dsimp only at digits ⊢
  refine .ite (fun _ => trivial) fun _ => .ite
    (fun _ => .ite (fun long => ?_) fun _ => ⟨rfl, rest⟩) fun _ => ⟨rfl, rest⟩
  exact ⟨ds, ⟨[], after, whole⟩, digits, long, rfl⟩

/-! ### Readings of a text -/

/-- Every reading with so much fuel takes a piece off its text, of a value, of items, and of members
behind others. -/
structure ReadsOn (rules : Rules) (fuel : Nat) : Prop where
  value (depth : Option Nat) (cs : List Char) : Takes Acyclic cs (readValue rules depth fuel cs)
  items (depth : Option Nat) (cs : List Char) : Takes (∀ x ∈ ·, Acyclic x) cs
    (readItems rules depth fuel cs)
  members (depth : Option Nat) {es : Entries Value} (each : ∀ e ∈ es, Acyclic e.2)
    (cs : List Char) :
    Takes Acyclic cs (readMembers rules depth fuel es cs)

theorem acyclic_ofList {xs : List Value} (each : ∀ x ∈ xs, Acyclic x) : Acyclic (.ofList xs) := by
  induction xs with
  | nil => rfl
  | cons x xs ih =>
    rw [List.forall_mem_cons] at each
    have later : Value.anyCyclic xs = false := ih each.2
    show (x.isCyclic || Value.anyCyclic xs) = false
    rw [later, each.1]
    rfl

theorem acyclic_ofEntries {es : List (Key × Value)} (each : ∀ e ∈ es, Acyclic e.2) :
    Acyclic (.ofEntries es) := by
  induction es with
  | nil => rfl
  | cons e es ih =>
    rw [List.forall_mem_cons] at each
    have later : Value.anyCyclicEntry es = false := ih each.2
    show (e.2.isCyclic || Value.anyCyclicEntry es) = false
    rw [later, each.1]
    rfl

section

variable {rules : Rules} {fuel : Nat}

theorem takes_deeper {α : Type} {good : α → Prop} {depth : Option Nat} {cs : List Char}
    {f : Option Nat → Except Refusal (α × List Char)} (each : ∀ inner, Takes good cs (f inner)) :
    Takes good cs (deeper depth >>= f) := by
  unfold deeper
  split
  next => exact each _
  next => trivial
  next => exact each _

theorem suffix_of_skipSpace {cs rest : List Char} {c : Char} (skipped : skipSpace cs = c :: rest) :
    rest <:+ cs :=
  (List.suffix_cons c rest).trans (skipped ▸ skipSpace_suffix cs)

theorem ReadsOn.succ_value (h : ReadsOn rules fuel) (depth : Option Nat) (cs : List Char) :
    Takes Acyclic cs (readValue rules depth (fuel + 1) cs) := by
  unfold readValue
  split
  case h_1 rest =>
    exact ((takes_readText _ rest).map Value.str fun _ _ => rfl).later (List.suffix_cons _ rest)
  case h_2 rest =>
    split
    next after closed => exact ⟨rfl, (suffix_of_skipSpace closed).trans (List.suffix_cons _ rest)⟩
    next =>
      have next : skipSpace rest <:+ '[' :: rest :=
        (skipSpace_suffix rest).trans (List.suffix_cons _ rest)
      refine takes_deeper fun inner => Takes.later ?_ next
      exact (h.items inner _).bind fun xs after each suffix => ⟨acyclic_ofList each, suffix⟩
  case h_3 rest =>
    split
    next after closed => exact ⟨rfl, (suffix_of_skipSpace closed).trans (List.suffix_cons _ rest)⟩
    next =>
      refine takes_deeper fun inner => (h.members inner (by simp) (skipSpace rest)).later ?_
      exact (skipSpace_suffix rest).trans (List.suffix_cons _ rest)
  case h_4 rest => exact ⟨rfl, ['n', 'u', 'l', 'l'], rfl⟩
  case h_5 rest => exact ⟨rfl, ['t', 'r', 'u', 'e'], rfl⟩
  case h_6 rest => exact ⟨rfl, ['f', 'a', 'l', 's', 'e'], rfl⟩
  case h_7 rest => exact ⟨rfl, ['N', 'a', 'N'], rfl⟩
  case h_8 rest => exact ⟨rfl, ['I', 'n', 'f', 'i', 'n', 'i', 't', 'y'], rfl⟩
  case h_9 rest => exact ⟨rfl, ['-', 'I', 'n', 'f', 'i', 'n', 'i', 't', 'y'], rfl⟩
  case h_10 rest _ => exact (takes_readNumber rules true rest).later (List.suffix_cons _ rest)
  case h_11 => exact takes_readNumber rules false _

theorem ReadsOn.succ_items (h : ReadsOn rules fuel) (depth : Option Nat) (cs : List Char) :
    Takes (∀ x ∈ ·, Acyclic x) cs (readItems rules depth (fuel + 1) cs) := by
  unfold readItems
  refine (h.value depth cs).bind fun x rest fine suffix => Takes.later ?_ suffix
  dsimp only
  split
  next after comma =>
    have next := (skipSpace_suffix after).trans (suffix_of_skipSpace comma)
    refine Takes.later (Takes.bind (h.items depth _) fun xs _ each later => ?_) next
    exact ⟨List.forall_mem_cons.mpr ⟨fine, each⟩, later⟩
  next after closed => exact ⟨List.forall_mem_singleton.mpr fine, suffix_of_skipSpace closed⟩
  next => trivial

theorem ReadsOn.succ_members (h : ReadsOn rules fuel) (depth : Option Nat) {es : Entries Value}
    (each : ∀ e ∈ es, Acyclic e.2) (cs : List Char) :
    Takes Acyclic cs (readMembers rules depth (fuel + 1) es cs) := by
  unfold readMembers
  split
  next rest =>
    refine Takes.later (Takes.bind (takes_readText _ rest) fun name after _ suffix =>
      Takes.later ?_ suffix)
      (List.suffix_cons _ rest)
    dsimp only
    split
    next after' colon =>
      have next := (skipSpace_suffix after').trans (suffix_of_skipSpace colon)
      refine Takes.later (Takes.bind (h.value depth _) fun v behind fine suffix' => Takes.later
        ?_ suffix') next
      have more : ∀ e ∈ es.set (.str name) v, Acyclic e.2 := by
        intro e mem
        rcases Entries.mem_set mem with new | old
        · rw [new]
          exact fine
        · exact each e old
      dsimp only
      split
      next after'' comma =>
        exact (h.members depth more _).later
          ((skipSpace_suffix after'').trans (suffix_of_skipSpace comma))
      next closed => exact ⟨acyclic_ofEntries more, suffix_of_skipSpace closed⟩
      next => trivial
    next => trivial
  next => trivial

theorem readsOn (rules : Rules) (fuel : Nat) : ReadsOn rules fuel := by
  induction fuel with
  | zero => exact ⟨fun _ _ => trivial, fun _ _ => trivial, fun _ _ _ _ => trivial⟩
  | succ fuel ih =>
    exact ⟨ih.succ_value, ih.succ_items, fun depth _ each => ih.succ_members depth each⟩

/-- What a JSON text writes is held at no place inside itself. -/
theorem acyclic_parse {text : String} {v : Value} (read : parse rules text = .ok v) :
    v.isCyclic = false := by
  obtain ⟨⟨w, rest⟩, found, read⟩ := bind_eq_ok read
  have taken := (readsOn rules (2 * text.toList.length + 2)).value rules.depth
    (skipSpace text.toList)
  rw [found] at taken
  dsimp only at read
  split at read <;> cases read
  exact taken.1

/-- Only for digits that stand in it is a text refused otherwise than for its form. -/
theorem longRun_parse {text : String} {cause : Numeral.NoInteger}
    (refused : parse rules text = .error (.badInteger cause)) : LongRun cause text.toList := by
  have taken := (readsOn rules (2 * text.toList.length + 2)).value rules.depth
    (skipSpace text.toList)
  unfold parse at refused
  cases found : readValue rules rules.depth (2 * text.toList.length + 2)
    (skipSpace text.toList) with
  | error e =>
    rw [found] at taken
    dsimp only at refused
    rw [found] at refused
    cases refused
    obtain ⟨ds, run, digits, long, same⟩ := taken
    exact ⟨ds, run.trans (skipSpace_suffix _).isInfix, digits, long, same⟩
  | ok r =>
    dsimp only at refused
    rw [found] at refused
    simp only [bind, Except.bind] at refused
    split at refused <;> cases refused

end

end SceneCourse.Json
