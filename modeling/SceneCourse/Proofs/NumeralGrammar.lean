import Mathlib.Computability.Language
import SceneCourse.State.Truth

/-! The texts that count as numbers. A text is read as a number between the blanks around it: as
zero if nothing is left, as a number if what is left is a numeral of the grammar below, and as what
is not a number otherwise. Proved for all texts, with the digits and the blanks of every script. -/

namespace SceneCourse

namespace Numeral

open Text

/-! ### The grammar -/

def digitRows : Language Char := {cs | ∀ c ∈ cs, isDecimal c = true}

def digitRuns : Language Char := {cs | cs ≠ [] ∧ cs ∈ digitRows}

/-- A text of a language, or nothing. -/
def optional (l : Language Char) : Language Char := 1 + l

def signs : Language Char := {['+'], ['-']}

def points : Language Char := {['.']}

/-- Digits that a point and more digits may follow, or a point and the digits behind it. -/
def mantissas : Language Char := digitRuns * optional (points * digitRows) + points * digitRuns

def exponents : Language Char := {['e'], ['E']} * (optional signs * digitRuns)

/-- The numerals: an optional sign, and either the name of the infinite or digits with an optional
exponent. -/
def numerals : Language Char :=
  optional signs * ({"Infinity".toList} + mantissas * optional exponents)

theorem mem_optional {l : Language Char} {cs : List Char} : cs ∈ optional l ↔ cs = [] ∨ cs ∈ l :=
  Iff.rfl

/-! ### Digits and signs -/

/-- A text that does not go on with a digit. -/
def Halts (cs : List Char) : Prop := ∀ c ∈ cs.head?, isDecimal c = false

theorem digits_append {ds rest : List Char} (row : ds ∈ digitRows) (halts : Halts rest) :
    digits (ds ++ rest) = (ds.filterMap decimalValue?, rest) := by
  have none : rest.takeWhile isDecimal = [] ∧ rest.dropWhile isDecimal = rest := by
    cases rest with
    | nil => exact ⟨rfl, rfl⟩
    | cons c rest =>
      have other : isDecimal c = false := halts c rfl
      simp [other]
  rw [digits, List.takeWhile_append_of_pos row, List.dropWhile_append_of_pos row, none.1, none.2,
    List.append_nil]

theorem values_eq_nil_iff {ds : List Char} (row : ds ∈ digitRows) :
    ds.filterMap decimalValue? = [] ↔ ds = [] := by
  cases ds with
  | nil => simp
  | cons c ds =>
    obtain ⟨value, known⟩ := Option.isSome_iff_exists.1 (row c List.mem_cons_self)
    simp [known]

/-- A text is cut behind its first digits. -/
theorem exists_digits (cs : List Char) :
    ∃ ds ∈ digitRows, ∃ rest, Halts rest ∧ cs = ds ++ rest := by
  refine ⟨cs.takeWhile isDecimal, fun c => ?_, cs.dropWhile isDecimal, fun c first => ?_,
    List.takeWhile_append_dropWhile.symm⟩
  · exact fun member => List.all_eq_true.1 List.all_takeWhile c member
  · have other := List.head?_dropWhile_not isDecimal cs
    rw [first] at other
    exact other

theorem mem_digitRuns_iff {cs : List Char} :
    cs ∈ digitRuns ↔ (digits cs).1 ≠ [] ∧ (digits cs).2 = [] := by
  obtain ⟨ds, row, rest, halts, rfl⟩ := exists_digits cs
  rw [digits_append row halts, ne_eq, values_eq_nil_iff row]
  constructor
  · rintro ⟨some, all⟩
    have nothing : rest = [] := by
      cases rest with
      | nil => rfl
      | cons c rest =>
        have digit := all c (by simp)
        rw [halts c rfl] at digit
        cases digit
    simpa [nothing] using some
  · rintro ⟨some, rfl⟩
    rw [List.append_nil]
    exact ⟨some, row⟩

theorem exists_sign (cs : List Char) : ∃ sg ∈ optional signs, cs = sg ++ (sign cs).2 := by
  unfold sign
  split
  · exact ⟨['-'], Or.inr (Or.inr rfl), rfl⟩
  · exact ⟨['+'], Or.inr (Or.inl rfl), rfl⟩
  · exact ⟨[], Or.inl rfl, rfl⟩

/-- A sign is taken off what does not begin with another one. -/
theorem sign_append {sg body : List Char} (optional : sg ∈ optional signs)
    (plain : ∀ c ∈ body.head?, c ≠ '+' ∧ c ≠ '-') : (sign (sg ++ body)).2 = body := by
  rcases optional with rfl | rfl | rfl
  · rw [List.nil_append]
    unfold sign
    split
    · exact absurd rfl (plain _ rfl).2
    · exact absurd rfl (plain _ rfl).1
    · rfl
  · rfl
  · rfl

theorem plain_of_digit {c : Char} (digit : isDecimal c = true) : c ≠ '+' ∧ c ≠ '-' := by
  constructor <;> (rintro rfl; cases digit)

theorem plain_of_run {ds : List Char} (run : ds ∈ digitRuns) : ∀ c ∈ ds.head?, c ≠ '+' ∧ c ≠ '-' :=
  fun c first => plain_of_digit (run.2 c (List.mem_of_mem_head? first))

/-! ### Exponents -/

theorem exponent?_cons_isSome {c : Char} {cs : List Char} :
    (exponent? (c :: cs)).isSome = true ↔ (c = 'e' ∨ c = 'E') ∧ (sign cs).2 ∈ digitRuns := by
  rw [exponent?, mem_digitRuns_iff]
  split
  next mark =>
    have mark : c = 'e' ∨ c = 'E' := by simpa using mark
    simp only [mark, true_and]
    split
    next none => simp [none]
    next some row => simpa [row] using some
    next none more =>
      refine iff_of_false (by simp) fun run => more _ (Prod.ext rfl run.2)
  next other =>
    have other : ¬(c = 'e' ∨ c = 'E') := by simpa using other
    simp [other]

theorem exponent?_isSome_iff {cs : List Char} :
    (exponent? cs).isSome = true ↔ cs ∈ optional exponents := by
  rw [mem_optional, exponents, Language.mem_mul]
  cases cs with
  | nil => simp [exponent?]
  | cons c cs =>
    rw [exponent?_cons_isSome]
    constructor
    · rintro ⟨mark, run⟩
      obtain ⟨sg, optional, same⟩ := exists_sign cs
      refine Or.inr ⟨[c], ?_, cs, Language.mem_mul.2 ⟨sg, optional, _, run, same.symm⟩, rfl⟩
      rcases mark with rfl | rfl
      · exact Or.inl rfl
      · exact Or.inr rfl
    · rintro (empty | ⟨mark, either, rest, power, same⟩)
      · cases empty
      obtain ⟨sg, optional, ds, run, rfl⟩ := Language.mem_mul.1 power
      rcases either with rfl | rfl <;> cases same
      · exact ⟨Or.inl rfl, (sign_append optional (plain_of_run run)).symm ▸ run⟩
      · exact ⟨Or.inr rfl, (sign_append optional (plain_of_run run)).symm ▸ run⟩

/-- An exponent begins with a letter, so digits and a point are no part of it. -/
theorem head_of_exponent {cs : List Char} (power : cs ∈ optional exponents) :
    ∀ c ∈ cs.head?, c = 'e' ∨ c = 'E' := by
  rw [← exponent?_isSome_iff] at power
  cases cs with
  | nil => nofun
  | cons c cs =>
    rintro _ ⟨⟩
    exact (exponent?_cons_isSome.1 power).1

theorem halts_of_exponent {cs : List Char} (power : cs ∈ optional exponents) : Halts cs := by
  intro c first
  rcases head_of_exponent power c first with rfl | rfl <;> decide

/-! ### Mantissas -/

theorem exists_values {ds : List Char} (run : ds ∈ digitRuns) :
    ∃ v vs, ds.filterMap decimalValue? = v :: vs :=
  List.exists_cons_of_ne_nil (mt (values_eq_nil_iff run.2).1 run.1)

theorem mantissa?_run {ds rest : List Char} (run : ds ∈ digitRuns) (halts : Halts rest)
    (noPoint : rest.head? ≠ some '.') :
    ∃ whole, mantissa? (ds ++ rest) = some (whole, [], rest) := by
  obtain ⟨v, vs, values⟩ := exists_values run
  refine ⟨v :: vs, ?_⟩
  rw [mantissa?, digits_append run.2 halts, values]
  split
  next same => cases same
  next same => cases same
  next same => exact absurd (by rw [(Prod.mk.inj same).2]; rfl) noPoint
  next same =>
    cases same
    rfl

theorem mantissa?_run_point {ds fraction rest : List Char} (run : ds ∈ digitRuns)
    (row : fraction ∈ digitRows) (halts : Halts rest) :
    ∃ whole behind, mantissa? (ds ++ '.' :: (fraction ++ rest)) = some (whole, behind, rest) := by
  obtain ⟨v, vs, values⟩ := exists_values run
  have point : Halts ('.' :: (fraction ++ rest)) := by
    rintro _ ⟨⟩
    decide
  refine ⟨v :: vs, fraction.filterMap decimalValue?, ?_⟩
  simp only [mantissa?, digits_append run.2 point, values, digits_append row halts]

theorem mantissa?_point {fraction rest : List Char} (run : fraction ∈ digitRuns)
    (halts : Halts rest) :
    ∃ behind, mantissa? ('.' :: (fraction ++ rest)) = some ([], behind, rest) := by
  obtain ⟨v, vs, values⟩ := exists_values run
  have none : digits ('.' :: (fraction ++ rest)) = ([], '.' :: (fraction ++ rest)) := rfl
  refine ⟨v :: vs, ?_⟩
  simp only [mantissa?, none, digits_append run.2 halts, values]

/-- What is read of a mantissa and what follows it. -/
theorem mantissa?_append {m rest : List Char} (mantissa : m ∈ mantissas) (halts : Halts rest)
    (noPoint : rest.head? ≠ some '.') :
    ∃ whole behind, mantissa? (m ++ rest) = some (whole, behind, rest) := by
  rcases mantissa with ⟨ds, run, tail, none | ⟨point, rfl, fraction, row, rfl⟩, rfl⟩ | ⟨point, rfl,
    fraction, run, rfl⟩
  · obtain rfl : tail = [] := none
    obtain ⟨whole, read⟩ := mantissa?_run run halts noPoint
    exact ⟨whole, [], by simpa using read⟩
  · obtain ⟨whole, behind, read⟩ := mantissa?_run_point run row halts
    exact ⟨whole, behind, by simpa using read⟩
  · obtain ⟨behind, read⟩ := mantissa?_point run halts
    exact ⟨[], behind, by simpa using read⟩

/-- Without digits in front there must be a point and digits behind it. -/
theorem exists_point {cs : List Char} {whole behind : List Nat} {rest : List Char}
    (halts : Halts cs) (read : mantissa? cs = some (whole, behind, rest)) :
    ∃ fraction ∈ digitRuns, cs = '.' :: (fraction ++ rest) := by
  have none : digits cs = ([], cs) := @digits_append [] cs nofun halts
  rw [mantissa?, none] at read
  split at read
  next after same =>
    cases same
    obtain ⟨fraction, row, rest', halts', rfl⟩ := exists_digits after
    rw [digits_append row halts'] at read
    split at read
    next => cases read
    next some same =>
      cases same
      cases read
      exact ⟨fraction, ⟨mt (values_eq_nil_iff row).2 some, row⟩, rfl⟩
  next => cases read
  next => simp_all
  next => simp_all

theorem exists_mantissa {cs : List Char} {whole behind : List Nat} {rest : List Char}
    (read : mantissa? cs = some (whole, behind, rest)) : ∃ m ∈ mantissas, cs = m ++ rest := by
  obtain ⟨ds, row, tail, halts, rfl⟩ := exists_digits cs
  by_cases nil : ds = []
  · subst nil
    obtain ⟨fraction, run, rfl⟩ := exists_point halts read
    exact ⟨'.' :: fraction, Or.inr ⟨_, rfl, fraction, run, rfl⟩, rfl⟩
  have run : ds ∈ digitRuns := ⟨nil, row⟩
  by_cases point : tail.head? = some '.'
  · obtain ⟨after, rfl⟩ := List.head?_eq_some_iff.1 point
    obtain ⟨fraction, row', tail', halts', rfl⟩ := exists_digits after
    obtain ⟨_, _, read'⟩ := mantissa?_run_point run row' halts'
    cases read.symm.trans read'
    refine ⟨ds ++ '.' :: fraction, Or.inl ⟨ds, run, '.' :: fraction,
      Or.inr ⟨_, rfl, fraction, row', rfl⟩, rfl⟩, ?_⟩
    rw [List.append_assoc, List.cons_append]
  · obtain ⟨_, read'⟩ := mantissa?_run run halts point
    cases read.symm.trans read'
    exact ⟨ds, Or.inl ⟨ds, run, [], Or.inl rfl, List.append_nil ds⟩, rfl⟩

/-! ### Numerals -/

theorem unsigned?_isSome_iff (negative : Bool) {cs : List Char} :
    (unsigned? negative cs).isSome = true ↔ cs ∈ mantissas * optional exponents := by
  have parts : (unsigned? negative cs).isSome = true ↔
      ∃ whole behind rest, mantissa? cs = some (whole, behind, rest) ∧
          (exponent? rest).isSome = true := by
    rw [unsigned?]
    cases mantissa? cs with
    | none => simp
    | some read =>
      obtain ⟨whole, behind, rest⟩ := read
      simp only [Option.bind_eq_bind, Option.bind_some, Option.some.injEq, Prod.mk.injEq,
        ↓existsAndEq, true_and]
      cases exponent? rest <;> rfl
  rw [parts, Language.mem_mul]
  constructor
  · rintro ⟨whole, behind, rest, read, power⟩
    obtain ⟨m, mantissa, rfl⟩ := exists_mantissa read
    exact ⟨m, mantissa, rest, exponent?_isSome_iff.1 power, rfl⟩
  · rintro ⟨m, mantissa, rest, power, rfl⟩
    have noPoint : rest.head? ≠ some '.' := by
      intro point
      rcases head_of_exponent power '.' point with same | same <;> cases same
    obtain ⟨whole, behind, read⟩ := mantissa?_append mantissa (halts_of_exponent power) noPoint
    exact ⟨whole, behind, rest, read, exponent?_isSome_iff.2 power⟩

theorem head_of_mantissa {m : List Char} (mantissa : m ∈ mantissas) :
    ∃ c cs, m = c :: cs ∧ (isDecimal c = true ∨ c = '.') := by
  rcases mantissa with ⟨ds, run, tail, -, rfl⟩ | ⟨point, rfl, fraction, -, rfl⟩
  · obtain ⟨d, ds, rfl⟩ := List.exists_cons_of_ne_nil run.1
    exact ⟨d, ds ++ tail, rfl, Or.inl (run.2 d List.mem_cons_self)⟩
  · exact ⟨'.', fraction, rfl, Or.inr rfl⟩

theorem read?_isSome_iff {cs : List Char} : (read? cs).isSome = true ↔ cs ∈ numerals := by
  have body : (read? cs).isSome = true ↔
      (sign cs).2 ∈ ({"Infinity".toList} + mantissas * optional exponents : Language Char) := by
    rw [read?, Language.mem_add, ← unsigned?_isSome_iff (sign cs).1]
    dsimp only
    split
    next infinite => exact iff_of_true rfl (Or.inl (beq_iff_eq.1 infinite))
    next other => exact (or_iff_right (mt beq_iff_eq.2 other)).symm
  rw [body, numerals, Language.mem_mul]
  constructor
  · intro unsigned
    obtain ⟨sg, optional, same⟩ := exists_sign cs
    exact ⟨sg, optional, _, unsigned, same.symm⟩
  · rintro ⟨sg, optional, unsigned, member, rfl⟩
    have plain : ∀ c ∈ unsigned.head?, c ≠ '+' ∧ c ≠ '-' := by
      rcases member with rfl | ⟨m, mantissa, power, -, rfl⟩
      · rintro _ ⟨⟩
        decide
      · obtain ⟨c, cs, rfl, digit | rfl⟩ := head_of_mantissa mantissa
        · rintro _ ⟨⟩
          exact plain_of_digit digit
        · rintro _ ⟨⟩
          decide
    rwa [sign_append optional plain]

theorem isNaN_ofQuotient (negative : Bool) (num den : Nat) :
    (Binary64.ofQuotient negative num den).isNaN = false := by
  rw [Binary64.ofQuotient]
  dsimp only
  split
  · rfl
  · split <;> split <;> rfl

theorem isNaN_ofDecimal (negative : Bool) (ds : Nat) (power : Int) :
    (Binary64.ofDecimal negative ds power).isNaN = false := by
  rw [Binary64.ofDecimal]
  split
  · rfl
  split
  · rfl
  split
  · rfl
  split
  · exact isNaN_ofQuotient ..
  · exact isNaN_ofQuotient ..

theorem isNaN_of_read? {cs : List Char} {x : Binary64} (read : read? cs = some x) :
    x.isNaN = false := by
  rw [read?] at read
  dsimp only at read
  split at read
  · cases read
    rfl
  · rw [unsigned?] at read
    simp only [Option.bind_eq_bind, Option.bind_eq_some_iff, Option.some.injEq] at read
    obtain ⟨-, -, power, -, rfl⟩ := read
    exact isNaN_ofDecimal ..

end Numeral

open Text Numeral

/-- Every text has a number. With the blanks at its ends taken off, in the one way there is, it is
zero if nothing is left, a number if a numeral is left, and not a number otherwise. -/
theorem toNumber_text (s : String) : ∃ t x, Strips s.toList t ∧ (∀ u, Strips s.toList u → u = t) ∧
    (Value.str s).toNumber = .ok x ∧ (t = [] → x = .zero) ∧ (t ∈ numerals → x.isNaN = false) ∧
    (t ≠ [] → t ∉ numerals → x.isNaN = true) := by
  have number : (Value.str s).toNumber =
      .ok (if (stripList s.toList).isEmpty then .zero
        else (read? (stripList s.toList)).getD (.nan 0)) := rfl
  refine ⟨stripList s.toList, _, strips_stripList s.toList,
    fun _ strips => strips.eq_stripList, number, ?_⟩
  generalize stripList s.toList = t
  refine ⟨fun nil => by rw [nil]; rfl, fun numeral => ?_, fun some other => ?_⟩
  · obtain ⟨x, read⟩ := Option.isSome_iff_exists.1 (read?_isSome_iff.2 numeral)
    rw [read, Option.getD_some]
    split
    · rfl
    · exact isNaN_of_read? read
  · have none : read? t = none := by
      rwa [← Option.not_isSome_iff_eq_none, read?_isSome_iff]
    rw [none, if_neg (by simpa using some)]
    rfl

end SceneCourse
