import SceneCourse.Proofs.JsonData
import SceneCourse.Proofs.JsonScalar

/-! The text of data, read by a strict reader. Proved for every layout that puts only blanks between
the parts: what is read is what a reader of the data sees, and nothing else. The reading fails for
two reasons only: an integer is longer than the reader takes, or the data have more levels than it
has room for. -/

namespace SceneCourse

namespace JsonStyle

/-- Parts are separated by a comma and a colon, and by blanks. -/
structure Plain (style : JsonStyle) : Prop where
  comma : ∃ blanks, style.comma.toList = ',' :: blanks ∧ ∀ c ∈ blanks, Json.isSpace c = true
  colon : ∃ blanks, style.colon.toList = ':' :: blanks ∧ ∀ c ∈ blanks, Json.isSpace c = true

theorem plain_ofIndent (ascii : Bool) (indent : Option Nat) : (ofIndent ascii indent).Plain := by
  have comma : ", ".toList = [',', ' '] := by decide
  have tight : ",".toList = [','] := by decide
  have colon : ": ".toList = [':', ' '] := by decide
  have blank : ∀ c ∈ [' '], Json.isSpace c = true := List.forall_mem_singleton.mpr rfl
  cases indent with
  | none => exact ⟨⟨[' '], comma, blank⟩, ⟨[' '], colon, blank⟩⟩
  | some n => exact ⟨⟨[], tight, List.forall_mem_nil _⟩, ⟨[' '], colon, blank⟩⟩

end JsonStyle

namespace Json

open Value

/-! ### What follows a part -/

theorem isSpace_lineBreak (style : JsonStyle) (depth : Nat) :
    ∀ c ∈ lineBreak style depth, isSpace c = true := by
  intro c mem
  unfold lineBreak at mem
  split at mem
  · cases mem
  · rcases List.mem_cons.mp mem with rfl | blank
    · rfl
    · rw [List.eq_of_mem_replicate blank]
      rfl

theorem ends_of_isSpace {c : Char} (blank : isSpace c = true) (cs : List Char) :
    Ends (c :: cs) := by
  intro d first
  cases first
  simp only [isSpace, Bool.or_eq_true, beq_iff_eq] at blank
  rcases blank with ((rfl | rfl) | rfl) | rfl <;> decide

theorem ends_append {blanks : List Char} (blank : ∀ c ∈ blanks, isSpace c = true) {cs : List Char}
    (ends : Ends cs) : Ends (blanks ++ cs) := by
  cases blanks with
  | nil => exact ends
  | cons c blanks => exact ends_of_isSpace (blank c List.mem_cons_self) _

theorem ends_cons {c : Char} (other : c.isDigit = false ∧ c ≠ '.' ∧ c ≠ 'e' ∧ c ≠ 'E')
    (cs : List Char) : Ends (c :: cs) := by
  intro d first
  cases first
  exact other

theorem ends_nil : Ends [] := by
  intro c first
  cases first

/-- Between two parts stand a comma and blanks. -/
theorem separator {style : JsonStyle} (plain : style.Plain) (depth : Nat) :
    ∃ gap, style.comma.toList ++ lineBreak style depth = ',' :: gap ∧
      ∀ c ∈ gap, isSpace c = true := by
  obtain ⟨⟨blanks, comma, blank⟩, -⟩ := plain
  refine ⟨blanks ++ lineBreak style depth, by rw [comma, List.cons_append], ?_⟩
  exact List.forall_mem_append.mpr ⟨blank, isSpace_lineBreak style depth⟩

/-! ### Room -/

/-- Data for which a strict reader has the room: its integers are short, and no more levels are
inside each other. -/
def Fits (room : Option Nat) (v : Value) : Prop :=
  (∀ n ∈ v.integers, IsShort n) ∧ ∀ most ∈ room, v.levels ≤ most + 1

instance (room : Option Nat) (v : Value) : Decidable (Fits room v) :=
  inferInstanceAs (Decidable (_ ∧ _))

/-- What is inside a list or a mapping must fit in what room is left there. -/
theorem fits_iff_of_inner {room : Option Nat} {v : Value} (parts : List Value) (some_ : parts ≠ [])
    (levels : ∀ most, v.levels ≤ most + 1 ↔ ∀ x ∈ parts, x.levels ≤ most)
    (integers : (∀ n ∈ v.integers, IsShort n) ↔ ∀ x ∈ parts, ∀ n ∈ x.integers, IsShort n) :
    Fits room v ↔ ∃ inner, deeper room = .ok inner ∧ ∀ x ∈ parts, Fits inner x := by
  rw [Fits, integers]
  match room with
  | none => simp [deeper, Fits]
  | some 0 =>
    obtain ⟨x, others, rfl⟩ := List.exists_cons_of_ne_nil some_
    have high := levels_pos x
    simp [deeper, levels]
    omega
  | some (most + 1) =>
    simp [deeper, Fits, levels, forall_and]

theorem fits_list {room : Option Nat} {mark : Nat} {x : Value} {xs : List Value} :
    Fits room (.list mark (x :: xs)) ↔ ∃ inner, deeper room = .ok inner ∧
      ∀ y ∈ x :: xs, Fits inner y := by
  apply fits_iff_of_inner (x :: xs) (List.cons_ne_nil x xs)
  · intro most
    rw [levels, Nat.add_le_add_iff_right, itemsLevels_le_iff]
  · rw [integers, forall_itemsIntegers]

theorem fits_map {room : Option Nat} {mark : Nat} {f : String × Value}
    {fields : List (String × Value)} :
    Fits room (.map mark (keyed (f :: fields))) ↔
      ∃ inner, deeper room = .ok inner ∧ ∀ g ∈ f :: fields, Fits inner g.2 := by
  rw [fits_iff_of_inner ((f :: fields).map (·.2)) (by simp)]
  · simp only [List.forall_mem_map]
  · intro most
    rw [levels, Nat.add_le_add_iff_right, entriesLevels_le_iff, List.forall_mem_map,
      forall_keyed (p := (·.levels ≤ most))]
  · rw [integers, forall_entriesIntegers, List.forall_mem_map,
      forall_keyed (p := fun v => ∀ n ∈ v.integers, IsShort n)]

/-! ### Parts of a text -/

section

variable {style : JsonStyle} {v : Value}

/-- The text of data begins with a character that is no blank and closes nothing. -/
theorem chars_eq_cons (style : JsonStyle) (data : v.IsData) (depth : Nat) :
    ∃ c cs, chars style depth v = c :: cs ∧ isSpace c = false ∧ c ≠ ']' := by
  cases data with
  | null => exact ⟨_, _, rfl, by decide⟩
  | bool b => cases b <;> exact ⟨_, _, rfl, by decide⟩
  | int n =>
    cases n with
    | ofNat m =>
      obtain ⟨d, ds, digits⟩ := List.exists_cons_of_ne_nil (Nat.toDigits_ne_nil (b := 10) (n := m))
      have digit := isDigit_of_mem_toDigits m d (digits ▸ List.mem_cons_self)
      refine ⟨d, ds, (toList_toString_natCast m).trans digits, ?_, ?_⟩
      · cases blank : isSpace d with
        | false => rfl
        | true =>
          have other := (ends_of_isSpace blank [] d rfl).1
          simp [digit] at other
      · rintro rfl
        exact absurd digit (by decide)
    | negSucc m => exact ⟨_, _, toList_toString_negSucc m, by decide⟩
  | str s => exact ⟨_, _, rfl, by decide⟩
  | @list mark xs _ => cases xs <;> exact ⟨_, _, rfl, by decide⟩
  | @map mark fields _ _ => cases fields <;> exact ⟨_, _, rfl, by decide⟩

theorem skipSpace_chars (data : v.IsData) (depth : Nat) (cs : List Char) :
    skipSpace (chars style depth v ++ cs) = chars style depth v ++ cs := by
  obtain ⟨c, rest, text, visible, -⟩ := chars_eq_cons style data depth
  rw [text]
  exact skipSpace_cons visible _

/-- A strict reader gets out of the text of a value just what a reader of the value sees, if it
fits. -/
def Rereadable (rules : Rules) (style : JsonStyle) (v : Value) : Prop :=
  ∀ (room : Option Nat) (depth fuel : Nat) (rest : List Char), (chars style depth v).length ≤
    fuel → Ends rest →
    readValue rules room fuel (chars style depth v ++ rest) =
      if Fits room v then .ok (v.plain, rest) else .error .syntaxError

end

section

variable {rules : Rules} {style : JsonStyle} (inner : Option Nat)

theorem readItems_eq (plain : style.Plain) {depth fuel : Nat} {x : Value} {xs : List Value}
    {blanks : List Char} (rest : List Char) (blank : ∀ c ∈ blanks, isSpace c = true)
    (data : ∀ y ∈ x :: xs, y.IsData) (each : ∀ y ∈ x :: xs, Rereadable rules style y)
    (enough : (chars style depth x).length + (items style depth xs).length < fuel) :
    readItems rules inner fuel
      (chars style depth x ++ (items style depth xs ++ (blanks ++ ']' :: rest))) =
      if ∀ y ∈ x :: xs, Fits inner y then .ok ((x :: xs).map Value.plain, rest)
        else .error .syntaxError := by
  obtain ⟨gap, separated, gapBlank⟩ := separator plain depth
  -- every item takes one step of fuel at least, and has one character at least
  induction xs generalizing x fuel with
  | nil =>
    obtain ⟨fuel, rfl⟩ : ∃ n, fuel = n + 1 := ⟨fuel - 1, by omega⟩
    have ends : Ends (blanks ++ ']' :: rest) := ends_append blank (ends_cons (by decide) rest)
    have short : (chars style depth x).length ≤ fuel := by omega
    rw [items, List.nil_append, readItems, each x List.mem_cons_self inner depth fuel _ short ends]
    refine bind_guard (r := Fits inner) ?_
    dsimp only
    rw [skipSpace_append blank, skipSpace_cons (by decide)]
    rfl
  | cons y ys ih =>
    obtain ⟨fuel, rfl⟩ : ∃ n, fuel = n + 1 := ⟨fuel - 1, by omega⟩
    have text (tail : List Char) : items style depth (y :: ys) ++ tail =
        ',' :: (gap ++ (chars style depth y ++ (items style depth ys ++ tail))) := by
      rw [items, separated]
      simp only [List.append_assoc, List.cons_append]
    have longer := congrArg List.length (text [])
    simp only [List.append_nil, List.length_cons, List.length_append] at longer
    have dataLater := (List.forall_mem_cons.mp data).2
    have later := ih dataLater (List.forall_mem_cons.mp each).2 (show _ < fuel by omega)
    have ends := ends_cons (c := ',') (by decide)
      (gap ++ (chars style depth y ++ (items style depth ys ++
      (blanks ++ ']' :: rest))))
    have short : (chars style depth x).length ≤ fuel := by omega
    rw [text, readItems, each x List.mem_cons_self inner depth fuel _ short ends]
    refine bind_guard (r := Fits inner) ?_
    dsimp only
    rw [skipSpace_cons (by decide)]
    show (readItems rules inner fuel (skipSpace (gap ++ _)) >>=
      fun r => pure (x.plain :: r.1, r.2)) = _
    rw [skipSpace_append gapBlank, skipSpace_chars (dataLater y List.mem_cons_self), later]
    exact map_guard

def memberText (style : JsonStyle) (depth : Nat) (f : String × Value) : List Char :=
  stringText style.ascii f.1 ++ style.colon.toList ++ chars style depth f.2

theorem skipSpace_memberText (style : JsonStyle) (depth : Nat) (f : String × Value)
    (cs : List Char) :
    skipSpace (memberText style depth f ++ cs) = memberText style depth f ++ cs :=
  skipSpace_cons (by decide) _

/-- What is made of a member's value, and of what follows it. -/
def afterMember (rules : Rules) (inner : Option Nat) (fuel : Nat) (es : Entries Value)
    (name : String) (r : Value × List Char) : Except Refusal (Value × List Char) :=
  let es := es.set (.str name) r.1
  match skipSpace r.2 with
  | ',' :: rest => readMembers rules inner fuel es (skipSpace rest)
  | '\x7d' :: rest => return (.ofEntries es, rest)
  | _ => .error .syntaxError

theorem readMembers_step (plain : style.Plain) {depth fuel : Nat} {f : String × Value}
    (data : f.2.IsData) (rereadable : Rereadable rules style f.2)
    (enough : (memberText style depth f).length ≤ fuel) (es : Entries Value) {tail : List Char}
    (ends : Ends tail) :
    readMembers rules inner (fuel + 1) es (memberText style depth f ++ tail) =
      (if Fits inner f.2 then .ok (f.2.plain, tail) else .error .syntaxError) >>=
        afterMember rules inner fuel es f.1 := by
  obtain ⟨-, colonBlanks, colon, colonBlank⟩ := plain
  have text : memberText style depth f ++ tail =
      '"' :: (f.1.toList.flatMap (charText style.ascii) ++
      '"' :: ':' :: (colonBlanks ++ (chars style depth f.2 ++ tail))) := by
    rw [memberText, stringText, colon]
    simp only [List.cons_append, List.append_assoc, List.nil_append]
  have short : (chars style depth f.2).length ≤ fuel := by
    rw [memberText, List.length_append] at enough
    omega
  rw [text, readMembers, readText_stringText]
  dsimp only [bind, Except.bind]
  rw [skipSpace_cons (by decide)]
  show (readValue rules inner fuel (skipSpace (colonBlanks ++ _)) >>=
    afterMember rules inner fuel es f.1) = _
  rw [skipSpace_append colonBlank, skipSpace_chars data,
    rereadable inner depth fuel tail short ends]
  rfl

theorem readMembers_eq (plain : style.Plain) {depth fuel : Nat} {f : String × Value}
    {fields before : List (String × Value)} {blanks : List Char} (rest : List Char)
    (blank : ∀ c ∈ blanks, isSpace c = true) (names : ((before ++ f :: fields).map (·.1)).Nodup)
    (data : ∀ g ∈ f :: fields, g.2.IsData) (each : ∀ g ∈ f :: fields, Rereadable rules style g.2)
    (enough : (memberText style depth f).length +
      (members style depth (keyed fields)).length < fuel) :
    readMembers rules inner fuel (keyed before)
        (memberText style depth f ++ (members style depth (keyed fields) ++
          (blanks ++ '\x7d' :: rest))) =
      if ∀ g ∈ f :: fields, Fits inner g.2 then
        .ok (.ofEntries (keyed (before ++ mapFields Value.plain (f :: fields))), rest)
      else .error .syntaxError := by
  obtain ⟨gap, separated, gapBlank⟩ := separator plain depth
  -- no name comes twice, so every member is added behind those before
  induction fields generalizing f before fuel with
  | nil =>
    obtain ⟨fuel, rfl⟩ : ∃ n, fuel = n + 1 := ⟨fuel - 1, by omega⟩
    have ends : Ends (blanks ++ '\x7d' :: rest) := ends_append blank (ends_cons (by decide) rest)
    have short : (memberText style depth f).length ≤ fuel := by omega
    have here := List.mem_cons_self (a := f) (l := [])
    rw [show members style depth (keyed []) = [] from rfl, List.nil_append,
      readMembers_step inner plain (data f here) (each f here) short _ ends]
    refine bind_guard (r := fun g : String × Value => Fits inner g.2) ?_
    rw [afterMember, skipSpace_append blank, skipSpace_cons (by decide),
      set_keyed (not_mem_names names)]
    rfl
  | cons g fields ih =>
    obtain ⟨fuel, rfl⟩ : ∃ n, fuel = n + 1 := ⟨fuel - 1, by omega⟩
    have text (tail : List Char) : members style depth (keyed (g :: fields)) ++ tail =
        ',' :: (gap ++ (memberText style depth g ++
            (members style depth (keyed fields) ++ tail))) := by
      simp only [keyed, List.map_cons, members, separated, keyText, memberText, List.append_assoc,
        List.cons_append]
    have longer := congrArg List.length (text [])
    simp only [List.append_nil, List.length_cons, List.length_append] at longer
    have names' : (((before ++ [(f.1, f.2.plain)]) ++ g :: fields).map (·.1)).Nodup := by
      simpa using names
    have later := ih names' (List.forall_mem_cons.mp data).2 (List.forall_mem_cons.mp each).2
      (show _ < fuel by omega)
    have ends := ends_cons (c := ',') (by decide) (gap ++ (memberText style depth g ++
      (members style depth (keyed fields) ++ (blanks ++ '\x7d' :: rest))))
    have short : (memberText style depth f).length ≤ fuel := by omega
    have here := List.mem_cons_self (a := f) (l := g :: fields)
    rw [text, readMembers_step inner plain (data f here) (each f here) short _ ends]
    refine bind_guard (r := fun g : String × Value => Fits inner g.2) ?_
    rw [afterMember, skipSpace_cons (by decide), set_keyed (not_mem_names names)]
    show readMembers rules inner fuel (keyed (before ++ [(f.1, f.2.plain)]))
      (skipSpace (gap ++ _)) = _
    rw [skipSpace_append gapBlank, skipSpace_memberText, later, List.append_assoc]
    rfl

/-! ### Whole values -/

section

variable {room : Option Nat} {fuel : Nat} {c : Char} {cs tail : List Char}

theorem readValue_bracket (skipped : skipSpace cs = c :: tail) (open_ : c ≠ ']') :
    readValue rules room (fuel + 1) ('[' :: cs) =
      deeper room >>= fun inner => readItems rules inner fuel (c :: tail) >>= fun r => pure
        (.ofList r.1, r.2) := by
  rw [readValue, skipped]
  split
  next closes =>
    cases closes
    exact absurd rfl open_
  next => rfl

theorem readValue_brace (skipped : skipSpace cs = c :: tail) (open_ : c ≠ '\x7d') :
    readValue rules room (fuel + 1) ('\x7b' :: cs) =
      deeper room >>= fun inner => readMembers rules inner fuel [] (c :: tail) := by
  rw [readValue, skipped]
  split
  next closes =>
    cases closes
    exact absurd rfl open_
  next => rfl

end

/-- What fails without room succeeds under a condition if it does so with what room is left. -/
theorem deeper_guard {α : Type} {room : Option Nat} {v : Value} {f : Option Nat → Except Refusal α}
    {a : α} {fits : Option Nat → Prop} [∀ inner, Decidable (fits inner)]
    (inner : Fits room v ↔ ∃ inner, deeper room = .ok inner ∧ fits inner)
    (next : ∀ inner, f inner = if fits inner then .ok a else .error .syntaxError) :
    deeper room >>= f = if Fits room v then .ok a else .error .syntaxError := by
  match room with
  | none =>
    have same : Fits none v ↔ fits none := by
      rw [inner]
      simp [deeper]
    exact (next none).trans (if_congr same.symm rfl rfl)
  | some 0 =>
    have never : ¬Fits (some 0) v := by
      rw [inner]
      simp [deeper]
    rw [if_neg never]
    rfl
  | some (most + 1) =>
    have same : Fits (some (most + 1)) v ↔ fits (some most) := by
      rw [inner]
      simp [deeper]
    exact (next (some most)).trans (if_congr same.symm rfl rfl)

theorem fits_of_leaf {room : Option Nat} {v : Value} (short : ∀ n ∈ v.integers, IsShort n)
    (leaf : v.levels = 1) : Fits room v := ⟨short, fun most _ => by omega⟩

/-- No text is empty, so there is a step to take. -/
theorem Rereadable.of_succ {v : Value} (data : v.IsData)
    (step : ∀ (room : Option Nat) (depth fuel : Nat) (rest : List Char),
      (chars style depth v).length ≤ fuel + 1 → Ends rest →
      readValue rules room (fuel + 1) (chars style depth v ++ rest) = if Fits room v
      then .ok (v.plain, rest) else .error .syntaxError) : Rereadable rules style v := by
  intro room depth fuel rest enough ends
  obtain ⟨c, cs, text, -⟩ := chars_eq_cons style data depth
  cases fuel with
  | zero => simp [text] at enough
  | succ fuel => exact step room depth fuel rest enough ends

theorem rereadable_list (plain : style.Plain) (mark : Nat) {x : Value} {xs : List Value}
    (data : ∀ y ∈ x :: xs, y.IsData) (each : ∀ y ∈ x :: xs, Rereadable rules style y) :
    Rereadable rules style (.list mark (x :: xs)) := by
  refine .of_succ (.list mark data) fun room depth fuel rest enough _ => ?_
  obtain ⟨c, cs, head, visible, open_⟩ :=
    chars_eq_cons style (data x List.mem_cons_self) (depth + 1)
  have text (tail : List Char) : chars style depth (.list mark (x :: xs)) ++ tail =
      '[' :: (lineBreak style (depth + 1) ++
        (chars style (depth + 1) x ++ (items style (depth + 1) xs ++
        (lineBreak style depth ++ ']' :: tail)))) := by
    simp only [chars, List.append_assoc, List.cons_append, List.nil_append]
  have longer := congrArg List.length (text [])
  simp only [List.append_nil, List.length_cons, List.length_append] at longer
  have skipped (tail : List Char) : skipSpace
      (lineBreak style (depth + 1) ++ (chars style (depth + 1) x ++ tail)) =
      c :: (cs ++ tail) := by
    rw [skipSpace_append (isSpace_lineBreak style (depth + 1)), head]
    exact skipSpace_cons visible _
  have shorter : (chars style (depth + 1) x).length + (items style (depth + 1) xs).length <
      fuel := by omega
  rw [text, readValue_bracket (skipped _) open_]
  refine deeper_guard fits_list fun inner => ?_
  have read := readItems_eq inner plain rest (isSpace_lineBreak style depth) data each shorter
  rw [head] at read
  rw [← List.cons_append, read, Value.plain, plainItems_eq_map]
  exact map_guard

theorem rereadable_map (plain : style.Plain) (mark : Nat) {f : String × Value}
    {fields : List (String × Value)} (names : ((f :: fields).map (·.1)).Nodup)
    (data : ∀ g ∈ f :: fields, g.2.IsData) (each : ∀ g ∈ f :: fields, Rereadable rules style g.2) :
    Rereadable rules style (.map mark (keyed (f :: fields))) := by
  refine .of_succ (.map mark names data) fun room depth fuel rest enough _ => ?_
  have text (tail : List Char) : chars style depth (.map mark (keyed (f :: fields))) ++ tail =
      '\x7b' :: (lineBreak style (depth + 1) ++ (memberText style (depth + 1) f ++
        (members style (depth + 1) (keyed fields) ++
            (lineBreak style depth ++ '\x7d' :: tail)))) := by
    simp only [keyed, List.map_cons, chars, keyText, memberText, List.append_assoc,
      List.cons_append, List.nil_append]
  have longer := congrArg List.length (text [])
  simp only [List.append_nil, List.length_cons, List.length_append] at longer
  have skipped (tail : List Char) : skipSpace
      (lineBreak style (depth + 1) ++ (memberText style (depth + 1) f ++ tail)) =
      memberText style (depth + 1) f ++ tail := by
    rw [skipSpace_append (isSpace_lineBreak style (depth + 1)), skipSpace_memberText]
  have shorter : (memberText style (depth + 1) f).length +
      (members style (depth + 1) (keyed fields)).length < fuel := by
    omega
  rw [text, readValue_brace (skipped _) (by decide)]
  refine deeper_guard fits_map fun inner => ?_
  have read : readMembers rules inner fuel (keyed []) _ = _ :=
    readMembers_eq inner plain rest (isSpace_lineBreak style depth) names data each shorter
  rw [Value.plain, plainEntries_keyed]
  exact read

theorem rereadable (strict : rules.strict = true) (plain : style.Plain) {v : Value}
    (data : v.IsData) : Rereadable rules style v := by
  induction data with
  | null =>
    refine .of_succ .null fun room depth fuel rest _ _ => ?_
    rw [if_pos (fits_of_leaf (by simp [integers]) rfl)]
    rfl
  | bool b =>
    refine .of_succ (.bool b) fun room depth fuel rest _ _ => ?_
    rw [if_pos (fits_of_leaf (by simp [integers]) rfl)]
    cases b <;> rfl
  | int n =>
    refine .of_succ (.int n) fun room depth fuel rest _ ends => ?_
    have fits : Fits room (.int n) ↔ IsShort n := by simp [Fits, integers, levels]
    rw [if_congr fits rfl rfl]
    exact readValue_toString strict n ends
  | str s =>
    refine .of_succ (.str s) fun room depth fuel rest _ _ => ?_
    rw [if_pos (fits_of_leaf (by simp [integers]) rfl), chars, stringText, List.cons_append,
      List.append_assoc,
      List.singleton_append, readValue, readText_stringText]
    rfl
  | @list mark xs data each =>
    cases xs with
    | nil =>
      refine .of_succ (.list mark data) fun room depth fuel rest _ _ => ?_
      rw [if_pos (fits_of_leaf (by simp [integers, itemsIntegers]) rfl)]
      rfl
    | cons x xs => exact rereadable_list plain mark data each
  | @map mark fields names data each =>
    cases fields with
    | nil =>
      refine .of_succ (.map mark names data) fun room depth fuel rest _ _ => ?_
      rw [if_pos (fits_of_leaf (by simp [integers, entriesIntegers, keyed]) rfl)]
      rfl
    | cons f fields => exact rereadable_map plain mark names data each

end

/-- What a strict reader gets out of the text of data is what a reader of the data sees, if they
fit. -/
theorem parse_print {rules : Rules} (strict : rules.strict = true) {style : JsonStyle}
    (plain : style.Plain) {v : Value} (data : v.IsData) :
    parse rules (print style v) = if Fits rules.depth v then .ok v.plain
      else .error .syntaxError := by
  have text : (print style v).toList = chars style 0 v ++ [] := by
    rw [print, String.toList_ofList, List.append_nil]
  have read := rereadable strict plain data rules.depth 0
    (2 * (chars style 0 v ++ []).length + 2) []
    (by simp only [List.length_append]; omega) ends_nil
  rw [parse, text, skipSpace_chars data, read]
  split <;> rfl

end Json

end SceneCourse
