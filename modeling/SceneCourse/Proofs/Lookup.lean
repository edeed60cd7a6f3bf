import SceneCourse.Proofs.JsonData
import SceneCourse.Proofs.ReadOverWrite
import SceneCourse.Proofs.StrictEquality
import SceneCourse.Proofs.Substitution

/-! Paths that cannot be followed. The items of a list are addressed by what looks like digits, but
numbers are read from decimal digits only, and not from too many of them. Proved: looking up a path
fails just where it comes to a list with a segment that is the one and not the other. References,
texts and values with both fail just where one of their paths does, or where an integer that is too
long would have to be written. -/

namespace SceneCourse

open Text

/-! ### Digits that are no integer -/

namespace Numeral

def blankPoints : List Nat :=
  List.range' 9 5 ++ List.range' 28 5 ++ [0x85, 0xa0, 0x1680] ++ List.range' 0x2000 11 ++
    [0x2028, 0x2029, 0x202f, 0x205f, 0x3000]

theorem not_blank_of_mark {c : Char} (mark : isDigitMark c = true) : isBlank c = false := by
  have none : ∀ n ∈ blankPoints, isDigitMark (Char.ofNat n) = false := by decide +kernel
  refine eq_false_of_ne_true fun blank => ?_
  have point : c.toNat ∈ blankPoints := by
    simp [isBlank] at blank
    simp [blankPoints, List.mem_range'_1]
    omega
  have other := none c.toNat point
  rw [Char.ofNat_toNat, mark] at other
  cases other

theorem trim_of_marks {cs : List Char} (marks : ∀ c ∈ cs, isDigitMark c = true) : trim cs = cs := by
  have kept {ds : List Char} (part : ds ⊆ cs) : ds.dropWhile isSpace = ds := by
    refine dropWhile_of_head? fun c first => ?_
    rw [isSpace, not_blank_of_mark (marks c (part (List.mem_of_mem_head? first))), Bool.false_and]
  rw [trim, kept (List.Subset.refl cs), kept fun c member => List.mem_reverse.1 member,
    List.reverse_reverse]

theorem sign_of_marks {cs : List Char} (marks : ∀ c ∈ cs, isDigitMark c = true) :
    sign cs = (false, cs) := by
  unfold sign
  split
  · exact absurd (marks '-' List.mem_cons_self) (by decide)
  · exact absurd (marks '+' List.mem_cons_self) (by decide)
  · rfl

theorem decimalValue?_lt {c : Char} {d : Nat} (value : decimalValue? c = some d) : d < 10 := by
  unfold decimalValue? at value
  split at value
  next digit =>
    obtain rfl := Option.some.inj value
    have row : c.toNat ≤ 57 := (Char.isDigit_iff_toNat.1 digit).2
    omega
  next =>
    split at value
    next => cases value
    next =>
      obtain ⟨z, zero, rfl⟩ := Option.map_eq_some_iff.1 value
      have row := List.find?_some zero
      simp only [Bool.and_eq_true, decide_eq_true_eq] at row
      omega

/-- In base ten the digits are the decimal ones. -/
theorem digitIn?_isSome_iff (c : Char) : (digitIn? 10 c).isSome = true ↔ isDecimal c = true := by
  rw [digitIn?, isDecimal]
  cases value : decimalValue? c with
  | some d => simp [decimalValue?_lt value]
  | none =>
    -- the letters stand for ten and more
    have lower : 'a' ≤ c → 97 ≤ c.toNat := fun le => UInt32.le_iff_toNat_le.1 (Char.le_def.1 le)
    have upper : 'A' ≤ c → 65 ≤ c.toNat := fun le => UInt32.le_iff_toNat_le.1 (Char.le_def.1 le)
    grind

theorem grouped?_isSome_iff {cs : List Char} (whole : '_' ∉ cs) :
    (grouped? 10 cs).isSome = true ↔ cs ≠ [] ∧ ∀ c ∈ cs, isDecimal c = true := by
  induction cs with
  | nil => simp [grouped?]
  | cons c cs ih =>
    rw [List.mem_cons, not_or] at whole
    cases cs with
    | nil => simp [grouped?, digitIn?_isSome_iff]
    | cons d cs =>
      have next : d ≠ '_' := fun same => whole.2 (same ▸ List.mem_cons_self)
      have both : (grouped? 10 (c :: d :: cs)).isSome =
          ((digitIn? 10 c).isSome && (grouped? 10 (d :: cs)).isSome) := by
        rw [grouped?]
        · cases digitIn? 10 c <;> cases grouped? 10 (d :: cs) <;> rfl
        · simp
        · simp [next]
      rw [both, Bool.and_eq_true, ih whole.2, digitIn?_isSome_iff]
      simp

theorem leadingDigits_of_decimal {cs : List Char} (decimal : ∀ c ∈ cs, isDecimal c = true) :
    leadingDigits cs = cs.length := by
  have whole : '_' ∉ cs := fun member => absurd (decimal '_' member) (by decide)
  have run : cs.takeWhile (fun c => isDecimal c || c == '_') = cs := by
    have each : ∀ c ∈ cs, (isDecimal c || c == '_') = true :=
      fun c member => by rw [decimal c member, Bool.true_or]
    simpa using @List.takeWhile_append_of_pos _ _ cs [] each
  have pairs : ('_', '_') ∉ cs.zip cs.tail := fun member => whole (List.of_mem_zip member).1
  have first : cs.head? ≠ some '_' := fun first => whole (List.mem_of_mem_head? first)
  have last : cs.getLast? ≠ some '_' := fun last => whole (List.mem_of_getLast? last)
  have all : cs.filter (· != '_') = cs := List.filter_eq_self.2 fun c member =>
    bne_iff_ne.2 fun same => whole (same ▸ member)
  rw [leadingDigits, run, all, if_neg]
  simp [pairs, first, last]

/-- What looks like digits is no integer if one of them is not decimal, or if they are too many. -/
theorem integer_fails_iff {seg : String} (digits : isIndexText seg = true) :
    (∃ cause, integer seg = .error cause) ↔
    (∃ c ∈ seg.toList, isDecimal c = false) ∨ mostDigits < seg.toList.length := by
  obtain ⟨some, marks⟩ : seg.toList ≠ [] ∧ ∀ c ∈ seg.toList, isDigitMark c = true := by
    simpa [isIndexText] using digits
  have whole : '_' ∉ seg.toList := fun member => absurd (marks '_' member) (by decide)
  have base : dropBaseMark 10 seg.toList = seg.toList := by
    unfold dropBaseMark
    split
    · rfl
    · rfl
  rw [integer, integerIn, trim_of_marks marks, sign_of_marks marks]
  dsimp only
  rw [base]
  have grouped := grouped?_isSome_iff whole
  by_cases decimal : ∀ c ∈ seg.toList, isDecimal c = true
  · have none : ¬∃ c ∈ seg.toList, isDecimal c = false := by
      rintro ⟨c, member, other⟩
      rw [decimal c member] at other
      cases other
    obtain ⟨ds, read⟩ := Option.isSome_iff_exists.1 (grouped.2 ⟨some, decimal⟩)
    rw [leadingDigits_of_decimal decimal, or_iff_right none, read]
    split
    next long => simpa using long
    next short => simpa using short
  · have unread : grouped? 10 seg.toList = none :=
      Option.not_isSome_iff_eq_none.1 fun read => decimal (grouped.1 read).2
    have other : ∃ c ∈ seg.toList, isDecimal c = false := by simpa using decimal
    refine iff_of_true ?_ (Or.inl other)
    rw [unread]
    split
    next => exact ⟨_, rfl⟩
    next => exact ⟨_, rfl⟩

end Numeral

/-- A segment that looks like digits but is no integer: some digit in it is not decimal, or they are
too many. -/
def Misleads (seg : String) : Prop :=
  isIndexText seg = true ∧ ((∃ c ∈ seg.toList, isDecimal c = false) ∨
    Numeral.mostDigits < seg.toList.length)

theorem misleads_iff {seg : String} (digits : isIndexText seg = true) :
    Misleads seg ↔ ∃ cause, Numeral.integer seg = .error cause := by
  rw [Numeral.integer_fails_iff digits]
  exact and_iff_right digits

/-! ### Paths -/

namespace Value

theorem lookup_list_cons {m : Nat} {xs : List Value} {seg : String} {i : Int}
    (digits : isIndexText seg = true) (index : Numeral.integer seg = .ok i) (rest : List String) :
    lookup (.list m xs) (seg :: rest) = lookup (xs[i.toNat]?.getD .null) rest := by
  rw [lookup, if_pos digits, index]
  dsimp only
  split
  next missing => rw [missing, Option.getD_none, lookup_null]
  next nothing => rw [nothing, Option.getD_some, lookup_null]
  next v _ there => rw [there, Option.getD_some]

/-- A path trips where it has led to a list and goes on with a segment that misleads. -/
theorem trips_iff {v : Value} {segs : List String} : v.Trips segs ↔ ∃ before seg rest m xs,
    segs = before ++ seg :: rest ∧ v.lookup before = .ok (.list m xs) ∧ Misleads seg := by
  constructor
  · intro trips
    induction trips with
    | here digits noInteger =>
      exact ⟨[], _, _, _, _, rfl, rfl, (misleads_iff digits).2 ⟨_, noInteger⟩⟩
    | item digits index found _ ih =>
      obtain ⟨before, seg, rest, m, xs, rfl, there, misleads⟩ := ih
      refine ⟨_ :: before, seg, rest, m, xs, rfl, ?_, misleads⟩
      rw [lookup_list_cons digits index, found, Option.getD_some, there]
    | entry found _ ih =>
      obtain ⟨before, seg, rest, m, xs, rfl, there, misleads⟩ := ih
      refine ⟨_ :: before, seg, rest, m, xs, rfl, ?_, misleads⟩
      rw [lookup_map_cons, found, Option.getD_some, there]
  · rintro ⟨before, seg, rest, m, xs, rfl, there, misleads⟩
    induction before generalizing v with
    | nil =>
      obtain rfl := Except.ok.inj there
      obtain ⟨cause, noInteger⟩ := (misleads_iff misleads.1).1 misleads
      exact .here misleads.1 noInteger
    | cons s before ih =>
      have nowhere : lookup null before ≠ .ok (.list m xs) := by
        rw [lookup_null]
        nofun
      cases v with
      | map n es =>
        rw [lookup_map_cons] at there
        cases found : Entries.get? (.str s) es with
        | none => exact absurd (by rwa [found] at there) nowhere
        | some w =>
          rw [found] at there
          exact .entry found (ih there)
      | list n ys =>
        by_cases digits : isIndexText s = true
        · cases index : Numeral.integer s with
          | error cause =>
            rw [lookup, if_pos digits, index] at there
            cases there
          | ok i =>
            rw [lookup_list_cons digits index] at there
            cases found : ys[i.toNat]? with
            | none => exact absurd (by rwa [found] at there) nowhere
            | some w =>
              rw [found] at there
              exact .item digits index found (ih there)
        · rw [lookup, if_neg digits] at there
          cases there
      | _ => cases there

theorem anyHoldsLong_eq_false_iff {xs : List Value} :
    anyHoldsLong xs = false ↔ ∀ x ∈ xs, x.holdsLong = false := by
  induction xs with
  | nil => simp [anyHoldsLong]
  | cons x xs ih => rw [anyHoldsLong, Bool.or_eq_false_iff, ih, List.forall_mem_cons]

theorem anyEntryHoldsLong_eq_false_iff {fields : List (String × Value)} :
    anyEntryHoldsLong (keyed fields) = false ↔ ∀ f ∈ fields, f.2.holdsLong = false := by
  induction fields with
  | nil => simp [keyed, anyEntryHoldsLong]
  | cons f fields ih =>
    have more : anyEntryHoldsLong (keyed (f :: fields)) =
        (f.2.holdsLong || anyEntryHoldsLong (keyed fields)) := rfl
    rw [more, Bool.or_eq_false_iff, ih, List.forall_mem_cons]

theorem fault?_eq_none_iff {v : Value} (json : v.IsJson) :
    Json.fault? v = none ↔ v.holdsLong = false := by
  induction json with
  | int n => simp [Json.fault?, holdsLong]
  | list m _ ih =>
    rw [Json.fault?, Json.itemsFault?_eq_none_iff, holdsLong, anyHoldsLong_eq_false_iff]
    exact forall₂_congr ih
  | map m _ _ ih =>
    rw [Json.fault?, Json.entriesFault?_eq_none_iff, holdsLong, anyEntryHoldsLong_eq_false_iff]
    exact forall₂_congr ih
  | _ => exact iff_of_true rfl rfl

/-- A JSON value has a text unless an integer in it is too long. -/
theorem unwritten_iff {v : Value} (json : v.IsJson) : v.Unwritten ↔ v.holdsLong = true := by
  constructor
  · rintro (⟨-, fault⟩ | ⟨-, long⟩)
    · refine eq_true_of_ne_false fun short => ?_
      cases fault.symm.trans ((fault?_eq_none_iff json).2 short)
    · exact long
  · intro long
    cases container : v.isContainer with
    | false => exact .long container long
    | true =>
      cases fault : Json.fault? v with
      | none => cases long.symm.trans ((fault?_eq_none_iff json).1 fault)
      | some e => exact .container container fault

end Value

namespace Store

/-- A path that leads to a list and goes on there with a segment that misleads. -/
def Stumbles (s : Store) (path : String) : Prop := ∃ before seg rest m xs,
  segments path = before ++ seg :: rest ∧ (s.opened (segments path)).lookup before =
    .ok (.list m xs) ∧ Misleads seg

theorem get_fails_iff_stumbles (s : Store) (path : String) :
    (∃ e, s.get path = .error e) ↔ s.Stumbles path :=
  (get_fails_iff s path).trans Value.trips_iff

theorem resolve_fails_iff_stumbles (s : Store) (v : Value) : (s.resolve v).Fails ↔
    (∃ path, v.field? "ref" = some (.str path) ∧ s.Stumbles path) ∨ Untold v := by
  rw [resolve_fails_iff, lost_iff]
  refine or_congr_left ⟨?_, ?_⟩
  · rintro ⟨m, es, path, rfl, ref, trips⟩
    exact ⟨path, ref, Value.trips_iff.1 trips⟩
  · rintro ⟨path, ref, stumbles⟩
    cases v with
    | map m es => exact ⟨m, es, path, rfl, ref, Value.trips_iff.2 stumbles⟩
    | _ => cases ref

theorem interpolate_fails_iff_stumbles (s : Store) (text : String) :
    (∃ e, s.interpolate text = .error e) ↔
    ∃ inner, .slot inner ∈ pieces 0 text.toList ∧ (s.Stumbles (.ofList (stripList inner)) ∨
      ∃ u, s.get (.ofList (stripList inner)) = .ok u ∧ u.Unwritten) := by
  rw [interpolate_fails_iff]
  constructor
  · rintro (⟨slot, trips⟩ | ⟨slot, found, bad⟩)
    · exact ⟨_, slot, Or.inl (Value.trips_iff.1 trips)⟩
    · exact ⟨_, slot, Or.inr ⟨_, found, bad⟩⟩
  · rintro ⟨inner, slot, stumbles | ⟨u, found, bad⟩⟩
    · exact .trips slot (Value.trips_iff.2 stumbles)
    · exact .unwritten slot found bad

theorem balks_iff_fails {s : Store} {v : Value} :
    s.Balks v ↔ (s.resolve v).Fails ∨ ∃ text, v = .str text ∧
      ∃ e, s.interpolate text = .error e := by
  simp only [resolve_fails_iff, interpolate_fails_iff]
  constructor
  · rintro (unfilled | lost)
    · exact Or.inr ⟨_, rfl, unfilled⟩
    · exact Or.inl lost
  · rintro (lost | ⟨text, rfl, unfilled⟩)
    · exact .reference lost
    · exact .text unfilled

/-- A value is kept from being resolved by a reference or a text in it that is, within the limit, or
by a limit that cannot be shown. -/
theorem resolveWhole_fails_iff_within (s : Store) (n : Int) {v : Value}
    (tree : v.isCyclic = false) :
    (s.resolveWhole (.int n) v).Fails ↔
      (∃ d < (n + 1).toNat, ∃ w ∈ v.atDepth d,
        (s.resolve w).Fails ∨ ∃ text, w = .str text ∧ ∃ e, s.interpolate text = .error e) ∨
      (v.atDepth (n + 1).toNat ≠ [] ∧ (Value.int n).holdsLong = true) := by
  have whole : unfolded (.int n) v = v := by
    rw [unfolded, tree]
    rfl
  rw [resolveWhole_fails_iff, whole, unresolved_iff (Nat.add_zero _)]
  simp only [← balks_iff_fails]
  constructor
  · intro stuck
    by_cases sound : ∀ d < (n + 1).toNat, ∀ w ∈ v.atDepth d, ¬s.Balks w
    · refine Or.inr (Classical.byContradiction fun fine => stuck ⟨sound, fun some => ?_⟩)
      exact eq_false_of_ne_true fun long => fine ⟨some, long⟩
    · simp only [not_forall, not_not, exists_prop] at sound
      exact Or.inl sound
  · rintro (⟨d, below, w, deep, balks⟩ | ⟨some, long⟩) replaceable
    · exact replaceable.sound d below w deep balks
    · cases long.symm.trans (replaceable.shown some)

/-- When looking up fails. A path cannot be followed just if it stumbles. A reference cannot be
resolved if its path stumbles, or is no text and cannot be shown, and a text cannot be filled if the
path of a placeholder stumbles or leads to a value without a text; JSON values have one unless an
integer in them is too long. A value cannot be resolved if that is so for a reference or a text
within the limit, or if something lies deeper and the limit cannot be shown. -/
theorem lookups_fail_iff (s : Store) (n : Int) {v : Value} (tree : v.isCyclic = false) :
    (∀ path, (∃ e, s.get path = .error e) ↔ s.Stumbles path) ∧
      (∀ w, (s.resolve w).Fails ↔ (∃ path, w.field? "ref" = some (.str path) ∧ s.Stumbles path) ∨
        Untold w) ∧
      (∀ text, (∃ e, s.interpolate text = .error e) ↔
        ∃ inner, .slot inner ∈ pieces 0 text.toList ∧ (s.Stumbles (.ofList (stripList inner)) ∨
          ∃ u, s.get (.ofList (stripList inner)) = .ok u ∧ u.Unwritten)) ∧
      ((s.resolveWhole (.int n) v).Fails ↔
        (∃ d < (n + 1).toNat, ∃ w ∈ v.atDepth d,
          (s.resolve w).Fails ∨ ∃ text, w = .str text ∧ ∃ e, s.interpolate text = .error e) ∨
        (v.atDepth (n + 1).toNat ≠ [] ∧ (Value.int n).holdsLong = true)) ∧
      ∀ u : Value, u.IsJson → (u.Unwritten ↔ u.holdsLong = true) :=
  ⟨get_fails_iff_stumbles s, resolve_fails_iff_stumbles s, interpolate_fails_iff_stumbles s,
    resolveWhole_fails_iff_within s n tree, fun _ => Value.unwritten_iff⟩

def row : Store := (empty.set "globals.vars.xs" (.ofList [.int 1])).1

theorem row_stumbles : row.Stumbles "globals.vars.xs.²" :=
  ⟨["globals", "vars", "xs"], "²", [], 0, [.int 1], rfl, rfl, by decide,
    Or.inl ⟨'²', by decide, by decide⟩⟩

def superscript : Value := .object [("ref", .str "globals.vars.xs.²")]

theorem lookups_fail_iff_superscript :
    (Value.ofList [superscript]).isCyclic = false ∧
      (row.resolveWhole (.int 64) (.ofList [superscript])).Fails := by
  obtain ⟨-, reference, -, whole, -⟩ := lookups_fail_iff row 64 (v := .ofList [superscript]) rfl
  have lost : (row.resolve superscript).Fails :=
    (reference superscript).2 (Or.inl ⟨_, rfl, row_stumbles⟩)
  exact ⟨rfl, whole.2 (Or.inl ⟨1, by decide, superscript, List.mem_cons_self, Or.inl lost⟩)⟩

theorem isJson_row : row.root.IsJson := by
  have none {m : Nat} : (Value.map m (keyed [])).IsJson := .map m List.nodup_nil nofun
  have one {m : Nat} {k : String} {v : Value} (json : v.IsJson) :
      (Value.map m (keyed [(k, v)])).IsJson :=
    .map m (List.nodup_singleton k) (List.forall_mem_singleton.2 json)
  have list : (Value.ofList [.int 1]).IsJson := .list 0 (List.forall_mem_singleton.2 (.int 1))
  have tiers : row.root =
      .map 0
      (keyed [("globals", .map 1 (keyed [("vars", .map 2 (keyed [("xs", .ofList [.int 1])]))])),
      ("scene", .map 3 (keyed [("vars", .map 4 (keyed []))])), ("nodes", .map 5 (keyed []))]) := rfl
  rw [tiers]
  refine .map 0 (by decide +kernel) ?_
  exact List.forall_mem_cons.2 ⟨one (one list),
    List.forall_mem_cons.2 ⟨one none, List.forall_mem_singleton.2 none⟩⟩

/-- A state of JSON values in which a path cannot be followed, nor what refers to it be resolved. -/
theorem lookups_stumble : row.root.IsJson ∧ (∃ e, row.get "globals.vars.xs.²" = .error e) ∧
    (row.resolve superscript).Fails ∧
    (∃ e, row.interpolate "\x7b\x7bglobals.vars.xs.²\x7d\x7d" = .error e) ∧
    (row.resolveWhole (.int 64) superscript).Fails := by
  have lost : (row.resolve superscript).Fails :=
    (resolve_fails_iff_stumbles row _).2 (Or.inl ⟨_, rfl, row_stumbles⟩)
  refine ⟨isJson_row, (get_fails_iff_stumbles row _).2 row_stumbles, lost, ?_, ?_⟩
  · exact (interpolate_fails_iff_stumbles row _).2
      ⟨"globals.vars.xs.²".toList, by decide, Or.inl row_stumbles⟩
  · exact (resolveWhole_fails_iff_within row 64 rfl).2
      (Or.inl ⟨0, by decide, _, List.mem_cons_self, Or.inl lost⟩)

end Store

end SceneCourse
