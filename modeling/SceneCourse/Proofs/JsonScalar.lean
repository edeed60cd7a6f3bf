import Mathlib.Algebra.Group.Nat.Defs
import Mathlib.Logic.Basic
import SceneCourse.Json.Reader
import SceneCourse.Json.Text

/-! Texts and integers in JSON text, read again. Proved, for every text and every layout: its
escapes, pairs of units included, give back its characters. An integer gives back itself, unless its
digits and its minus are more characters than a strict reader takes; then they are no number. -/

namespace SceneCourse.Json

/-! ### Blanks -/

theorem skipSpace_append {blanks : List Char} (blank : ∀ c ∈ blanks, isSpace c = true)
    (cs : List Char) : skipSpace (blanks ++ cs) = skipSpace cs := List.dropWhile_append_of_pos blank

theorem skipSpace_cons {c : Char} (h : isSpace c = false) (cs : List Char) :
    skipSpace (c :: cs) = c :: cs := by
  rw [skipSpace, List.dropWhile_cons_of_neg (by simp [h])]

/-! ### Code units -/

theorem hexDigits_four {n : Nat} (small : n < 65536) :
    Text.hexDigits 4 n =
      [(n / 4096).digitChar, (n / 256 % 16).digitChar, (n / 16 % 16).digitChar,
        (n % 16).digitChar] := by
  have digits (m : Nat) : Nat.toDigits 16 m =
      if m < 16 then [m.digitChar] else Nat.toDigits 16 (m / 16) ++ [(m % 16).digitChar] :=
    Nat.toDigits_eq_if (by decide)
  have zero : '0' = (0 : Nat).digitChar := rfl
  have second : n / 16 / 16 = n / 256 := Nat.div_div_eq_div_mul ..
  have first : n / 256 / 16 = n / 4096 := Nat.div_div_eq_div_mul ..
  rw [Text.hexDigits, zero]
  by_cases one : n < 16
  · have none₁ : n / 4096 = 0 := by omega
    have none₂ : n / 256 = 0 := by omega
    have none₃ : n / 16 = 0 := by omega
    simp [digits n, one, none₁, none₂, none₃, Nat.mod_eq_of_lt one, List.replicate]
  by_cases two : n / 16 < 16
  · have none₁ : n / 4096 = 0 := by omega
    have none₂ : n / 256 = 0 := by omega
    simp [digits n, digits (n / 16), one, two, none₁, none₂, Nat.mod_eq_of_lt two, List.replicate]
  by_cases three : n / 256 < 16
  · have none₁ : n / 4096 = 0 := by omega
    simp [digits n, digits (n / 16), digits (n / 256), second, one, two, three, none₁,
      Nat.mod_eq_of_lt three]
  · have four : n / 4096 < 16 := by omega
    simp [digits n, digits (n / 16), digits (n / 256), digits (n / 4096), second, first, one,
      two, three, four]

theorem hexValue?_digitChar {d : Nat} (small : d < 16) : hexValue? d.digitChar = some d := by
  have all : ∀ d < 16, hexValue? (Nat.digitChar d) = some d := by decide
  exact all d small

theorem unit?_digitChar {n : Nat} (small : n < 65536) :
    unit? (n / 4096).digitChar (n / 256 % 16).digitChar (n / 16 % 16).digitChar
      (n % 16).digitChar = some n := by
  have first := hexValue?_digitChar (d := n / 4096) (by omega)
  have second := hexValue?_digitChar (d := n / 256 % 16) (by omega)
  have third := hexValue?_digitChar (d := n / 16 % 16) (by omega)
  have fourth := hexValue?_digitChar (d := n % 16) (by omega)
  simp only [unit?, first, second, third, fourth, Option.bind_eq_bind, Option.bind_some,
    Option.some.injEq]
  omega

/-! ### Texts -/

def after (c : Char) : List Char × List Char → List Char × List Char := Prod.map (c :: ·) id

section

variable {pairs : Bool}

theorem stringBody_unitEscape {n : Nat} (small : n < 65536)
    (whole : isLead n = false ∧ isTrail n = false) (rest : List Char) :
    stringBody pairs none (unitEscape n ++ rest) = (stringBody pairs none rest).map
      (after (Char.ofNat n)) := by
  rw [unitEscape, hexDigits_four small]
  simp only [List.cons_append, List.nil_append]
  rw [stringBody, unit?_digitChar small]
  simp only [Option.bind_eq_bind, Option.bind_some, whole.1, whole.2]
  cases stringBody pairs none rest <;> rfl

/-- Two halves make one character. -/
theorem stringBody_pair {high low : Nat} (lead : isLead high = true) (trail : isTrail low = true)
    (rest : List Char) :
    stringBody pairs none (unitEscape high ++ (unitEscape low ++ rest)) =
      (stringBody pairs none rest).map
        (after (Char.ofNat (0x10000 + (high - 0xd800) * 0x400 + (low - 0xdc00)))) := by
  have smallHigh : high < 65536 := by
    simp only [isLead, Bool.and_eq_true, decide_eq_true_eq] at lead
    omega
  have smallLow : low < 65536 := by
    simp only [isTrail, Bool.and_eq_true, decide_eq_true_eq] at trail
    omega
  rw [unitEscape, hexDigits_four smallHigh, unitEscape, hexDigits_four smallLow]
  simp only [List.cons_append, List.nil_append]
  rw [stringBody, unit?_digitChar smallHigh]
  simp only [Option.bind_eq_bind, Option.bind_some, lead, if_true]
  rw [stringBody, unit?_digitChar smallLow]
  simp only [Option.bind_eq_bind, Option.bind_some, trail]
  cases stringBody pairs none rest <;> rfl

theorem stringBody_escape (c : Char) (rest : List Char) :
    stringBody pairs none (escape c ++ rest) = (stringBody pairs none rest).map (after c) := by
  have valid : c.toNat < 0xd800 ∨ 0xdfff < c.toNat ∧ c.toNat < 0x110000 := c.valid
  rw [escape]
  split
  next small =>
    have whole : isLead c.toNat = false ∧ isTrail c.toNat = false := by
      simp only [isLead, isTrail, Bool.and_eq_false_iff, decide_eq_false_iff_not]
      omega
    rw [stringBody_unitEscape small whole, Char.ofNat_toNat]
  next large =>
    have lead : isLead (0xd800 + (c.toNat - 0x10000) / 0x400) = true := by
      simp only [isLead, Bool.and_eq_true, decide_eq_true_eq]
      omega
    have trail : isTrail (0xdc00 + (c.toNat - 0x10000) % 0x400) = true := by
      simp only [isTrail, Bool.and_eq_true, decide_eq_true_eq]
      omega
    have whole : 0x10000 + (0xd800 + (c.toNat - 0x10000) / 0x400 - 0xd800) * 0x400 +
        (0xdc00 + (c.toNat - 0x10000) % 0x400 - 0xdc00) = c.toNat := by omega
    simp only [List.append_assoc]
    rw [stringBody_pair lead trail, whole, Char.ofNat_toNat]

theorem stringBody_charText (ascii : Bool) (c : Char) (rest : List Char) :
    stringBody pairs none (charText ascii c ++ rest) = (stringBody pairs none rest).map
      (after c) := by
  have short {letter e : Char} (named : shortEscape? letter = some e) (noUnit : letter ≠ 'u') :
      stringBody pairs none ('\\' :: letter :: rest) =
          (stringBody pairs none rest).map (after e) := by
    rw [stringBody]
    · simp only [Option.isSome_none, Bool.false_and, named, Option.bind_eq_bind, Option.bind_some]
      cases stringBody pairs none rest <;> rfl
    · rintro a b c d rest' rfl
      exact absurd rfl noUnit
  simp only [charText, beq_iff_eq]
  iterate 7
    split
    · subst c
      exact short rfl (by decide)
  split
  · exact stringBody_escape c rest
  next noQuote noSlash _ _ _ _ _ plain =>
    have printed : ¬c.toNat < 32 := by
      intro low
      simp [low] at plain
    rw [List.cons_append, List.nil_append, stringBody]
    · simp only [noSlash, beq_iff_eq, printed, decide_false, Option.isSome_none, Bool.false_and,
        Bool.or_false]
      cases stringBody pairs none rest <;> rfl
    all_goals simp_all

theorem stringBody_stringText (ascii : Bool) (cs rest : List Char) :
    stringBody pairs none (cs.flatMap (charText ascii) ++ '"' :: rest) = some (cs, rest) := by
  induction cs with
  | nil => rw [List.flatMap_nil, List.nil_append, stringBody]
  | cons c cs ih =>
    rw [List.flatMap_cons, List.append_assoc, stringBody_charText, ih]
    rfl

/-- A text is read again, whatever follows it. -/
theorem readText_stringText (ascii : Bool) (s : String) (rest : List Char) :
    readText pairs (s.toList.flatMap (charText ascii) ++ '"' :: rest) = .ok (s, rest) := by
  rw [readText, stringBody_stringText]
  exact congrArg (fun t => Except.ok (t, rest)) String.ofList_toList

end

/-! ### Integers -/

/-- What may follow a number: nothing that goes on with it. -/
def Ends (cs : List Char) : Prop :=
  ∀ c ∈ cs.head?, c.isDigit = false ∧ c ≠ '.' ∧ c ≠ 'e' ∧ c ≠ 'E'

/-- An integer has no more digits than are written, nor than a strict reader takes. -/
def IsShort (n : Int) : Prop := n.natAbs < leastLong

instance : DecidablePred IsShort := fun n => inferInstanceAs (Decidable (n.natAbs < leastLong))

theorem length_toDigits_le_iff {m : Nat} :
    (Nat.toDigits 10 m).length ≤ Numeral.mostDigits ↔ m < leastLong := by
  rw [leastLong, Nat.length_toDigits_le_iff (by decide) (by decide)]
  exact Iff.rfl

theorem isShort_of_lt {n : Int} {digits : Nat} (small : n.natAbs < 10 ^ digits)
    (fits : digits ≤ Numeral.mostDigits) : IsShort n :=
  Nat.lt_of_lt_of_le small (Nat.pow_le_pow_right (by decide) fits)

theorem toList_toString_natCast (m : Nat) : (toString (m : Int)).toList = Nat.toDigits 10 m := by
  have same : toString (m : Int) = toString m := rfl
  rw [same, Nat.toString_eq_ofList_toDigits, String.toList_ofList]

theorem toList_toString_negSucc (m : Nat) :
    (toString (Int.negSucc m)).toList = '-' :: Nat.toDigits 10 (m + 1) := by
  have same : toString (Int.negSucc m) = "-" ++ toString (m + 1) := rfl
  rw [same, String.toList_append, Nat.toString_eq_ofList_toDigits, String.toList_ofList,
    String.toList_ofList]
  rfl

theorem naturalOf_toDigits (m : Nat) : naturalOf (Nat.toDigits 10 m) = m := by
  have folded : naturalOf (Nat.toDigits 10 m) = Nat.ofDigitChars 10 (Nat.toDigits 10 m) 0 :=
    Nat.ofDigitChars_eq_foldl.symm
  rw [folded, Nat.ofDigitChars_ten_toDigits]

theorem head?_toDigits {m : Nat} (positive : 0 < m) : (Nat.toDigits 10 m).head? ≠ some '0' := by
  induction m using Nat.strongRecOn with
  | ind m ih =>
    by_cases small : m < 10
    · rw [Nat.toDigits_of_lt_base small]
      simp only [List.head?_cons, ne_eq, Option.some.injEq, Nat.digitChar_eq_zero]
      omega
    · have before := ih (m / 10) (by omega) (by omega)
      rw [Nat.toDigits_of_base_le (by decide) (by omega), List.head?_append]
      cases first : (Nat.toDigits 10 (m / 10)).head? with
      | none => exact absurd (List.head?_eq_none_iff.mp first) Nat.toDigits_ne_nil
      | some c =>
        rw [first] at before
        exact before

theorem isDigit_of_mem_toDigits (m : Nat) : ∀ d ∈ Nat.toDigits 10 m, d.isDigit = true :=
  fun _ mem => Nat.isDigit_of_mem_toDigits (by decide) (by decide) mem

theorem digitRun_append {ds rest : List Char} (digits : ∀ d ∈ ds, d.isDigit = true)
    (ends : Ends rest) : digitRun (ds ++ rest) = (ds, rest) := by
  have none_ : rest.takeWhile Char.isDigit = [] ∧ rest.dropWhile Char.isDigit = rest := by
    cases rest with
    | nil => exact ⟨rfl, rfl⟩
    | cons c rest =>
      have other := (ends c rfl).1
      simp [other]
  rw [digitRun, List.takeWhile_append_of_pos digits, List.dropWhile_append_of_pos digits,
    none_.1, none_.2,
    List.append_nil]

theorem fraction_eq {rest : List Char} (ends : Ends rest) : fraction rest = ([], rest) := by
  unfold fraction
  split
  next => exact absurd rfl (ends _ rfl).2.1
  next => rfl

theorem exponent_eq {rest : List Char} (ends : Ends rest) : exponent rest = (none, rest) := by
  unfold exponent
  split
  next c rest =>
    obtain ⟨-, -, small, capital⟩ := ends c rfl
    simp [small, capital]
  next => rfl

theorem wholePart_toDigits (m : Nat) {rest : List Char} (ends : Ends rest) :
    wholePart (Nat.toDigits 10 m ++ rest) = (Nat.toDigits 10 m, rest) := by
  rcases Nat.eq_zero_or_pos m with rfl | positive
  · rfl
  · have run := digitRun_append (isDigit_of_mem_toDigits m) ends
    obtain ⟨d, ds, digits⟩ := List.exists_cons_of_ne_nil (Nat.toDigits_ne_nil (b := 10) (n := m))
    have first := head?_toDigits positive
    rw [digits] at first run ⊢
    rw [List.cons_append, wholePart]
    · exact run
    · rintro rest' same
      cases same
      exact first rfl

/-- A row of digits is read as it was written, if it is not too long. -/
theorem readNumber_toDigits {rules : Rules} (strict : rules.strict = true) (negative : Bool)
    (m : Nat) {rest : List Char} (ends : Ends rest) :
    readNumber rules negative (Nat.toDigits 10 m ++ rest) =
      if m < leastLong then .ok (.int (if negative then -(m : Int) else m), rest)
      else .error .syntaxError := by
  have some_ : (Nat.toDigits 10 m).isEmpty = false := by simp [Nat.toDigits_ne_nil]
  rw [readNumber, wholePart_toDigits m ends]
  simp only [some_, strict, fraction_eq ends, exponent_eq ends, naturalOf_toDigits]
  by_cases fits : m < leastLong
  · simp [fits, Nat.not_lt_of_le (length_toDigits_le_iff.mpr fits)]
  · simp [fits, Nat.lt_of_not_le (mt length_toDigits_le_iff.mp fits)]

section

variable {rules : Rules} {depth : Option Nat} {fuel : Nat} {d : Char}

theorem readValue_digit (digit : d.isDigit = true) (cs : List Char) :
    readValue rules depth (fuel + 1) (d :: cs) = readNumber rules false (d :: cs) := by
  rw [readValue]
  all_goals
    rintro rest same
    cases same
    simp at digit

theorem readValue_minus (digit : d.isDigit = true) (cs : List Char) :
    readValue rules depth (fuel + 1) ('-' :: d :: cs) = readNumber rules true (d :: cs) := by
  rw [readValue]
  rintro rest same
  cases same
  simp at digit

/-- An integer is read again if it is short, and is no number otherwise. -/
theorem readValue_toString (strict : rules.strict = true) (n : Int) {rest : List Char}
    (ends : Ends rest) :
    readValue rules depth (fuel + 1) ((toString n).toList ++ rest) =
      if IsShort n then .ok (.int n, rest) else .error .syntaxError := by
  cases n with
  | ofNat m =>
    have read : readValue rules depth (fuel + 1) (Nat.toDigits 10 m ++ rest) =
        readNumber rules false (Nat.toDigits 10 m ++ rest) := by
      obtain ⟨d, ds, digits⟩ := List.exists_cons_of_ne_nil (Nat.toDigits_ne_nil (b := 10) (n := m))
      rw [digits]
      exact readValue_digit (isDigit_of_mem_toDigits m d (digits ▸ List.mem_cons_self)) _
    rw [Int.ofNat_eq_natCast, toList_toString_natCast, read,
      readNumber_toDigits strict false m ends]
    rfl
  | negSucc m =>
    have read : readValue rules depth (fuel + 1) ('-' :: Nat.toDigits 10 (m + 1) ++ rest) =
        readNumber rules true (Nat.toDigits 10 (m + 1) ++ rest) := by
      obtain ⟨d, ds, digits⟩ := List.exists_cons_of_ne_nil
          (Nat.toDigits_ne_nil (b := 10) (n := m + 1))
      rw [digits]
      exact readValue_minus (isDigit_of_mem_toDigits (m + 1) d (digits ▸ List.mem_cons_self)) _
    rw [toList_toString_negSucc, read, readNumber_toDigits strict true (m + 1) ends]
    rfl

end

end SceneCourse.Json
