import SceneCourse.Proofs.ConditionReading
import SceneCourse.Proofs.RecordReading

/-! Conditions and actions that are read, written and read again. Each comes back as the variant
that it was, with the tag that it had, and no field and no kept entry is lost, renamed or changed. A
tag that was no text has become one, and that text is never the name of a variant that means
something. -/

namespace SceneCourse

/-! ### Tags that are no texts -/

/-- A text that is not made of letters only. -/
def HasMark (t : String) : Prop := ∃ c ∈ t.toList, c.isAlpha = false

theorem hasMark_append_left {s t : String} (h : HasMark s) : HasMark (s ++ t) := by
  obtain ⟨c, mem, other⟩ := h
  exact ⟨c, by simp [mem], other⟩

theorem hasMark_append_right {s t : String} (h : HasMark t) : HasMark (s ++ t) := by
  obtain ⟨c, mem, other⟩ := h
  exact ⟨c, by simp [mem], other⟩

theorem isAlpha_of_isDigit {c : Char} (h : c.isDigit = true) : c.isAlpha = false := by
  unfold Char.isDigit at h
  unfold Char.isAlpha Char.isUpper Char.isLower
  simp only [Bool.and_eq_true, decide_eq_true_eq] at h ⊢
  simp only [Bool.or_eq_false_iff, Bool.and_eq_false_iff, decide_eq_false_iff_not]
  simp only [UInt32.le_iff_toNat_le] at h ⊢
  simp at h ⊢
  omega

theorem hasMark_natural (n : Nat) : HasMark (toString n) := by
  obtain ⟨d, ds, digits⟩ := List.exists_cons_of_ne_nil (Nat.toDigits_ne_nil (n := n) (b := 10))
  have mem : d ∈ Nat.toDigits 10 n := by simp [digits]
  have digit := Nat.isDigit_of_mem_toDigits (by decide) (by decide) mem
  refine ⟨d, ?_, isAlpha_of_isDigit digit⟩
  show d ∈ (Nat.repr n).toList
  simp [Nat.repr, mem]

theorem hasMark_integer (n : Int) : HasMark (toString n) := by
  cases n with
  | ofNat n => exact hasMark_natural n
  | negSucc n =>
    show HasMark ("-" ++ Nat.repr (n + 1))
    exact hasMark_append_left ⟨'-', by decide, by decide⟩

theorem hasMark_ofList {cs : List Char} {c : Char} (mem : c ∈ cs) (other : c.isAlpha = false) :
    HasMark (.ofList cs) :=
  ⟨c, by simpa using mem, other⟩

theorem exists_mark_positional (ds : List Char) (point : Int) :
    ∃ c ∈ Binary64.positional ds point, c.isAlpha = false := by
  refine ⟨'.', ?_, by decide⟩
  rw [Binary64.positional]
  split
  · simp
  · split <;> simp

theorem exists_mark_scientific (width : Nat) (ds : List Char) (power : Int) :
    ∃ c ∈ Binary64.scientific width ds power, c.isAlpha = false := by
  rw [Binary64.scientific]
  by_cases negative : power < 0
  · exact ⟨'-', by simp [negative], by decide⟩
  · exact ⟨'+', by simp [negative], by decide⟩

theorem hasMark_float (x : Binary64) : HasMark x.text ∨ x.text = "nan" ∨ x.text = "inf" := by
  cases x with
  | nan n => exact Or.inr (Or.inl rfl)
  | infinite negative =>
    cases negative with
    | true => exact Or.inl (hasMark_ofList (c := '-') (by decide) (by decide))
    | false => exact Or.inr (Or.inr rfl)
  | finite negative m e =>
    have laidOut (ds : List Char) (point : Int) : ∃ c ∈ (if Binary64.plainStyle.least ≤ point - 1 ∧
        point - 1 < Binary64.plainStyle.past then Binary64.positional ds point
        else Binary64.scientific Binary64.plainStyle.exponentWidth ds (point - 1)),
            c.isAlpha = false := by
      split
      · obtain ⟨c, mem, other⟩ := exists_mark_positional ds point
        exact ⟨c, mem, other⟩
      · obtain ⟨c, mem, other⟩ := exists_mark_scientific Binary64.plainStyle.exponentWidth
          ds (point - 1)
        exact ⟨c, mem, other⟩
    obtain ⟨c, mem, other⟩ := laidOut _ _
    exact Or.inl (hasMark_ofList (List.mem_append_right _ mem) other)

theorem hasMark_moment (t : Moment) (separator : String) : HasMark (t.text separator) := by
  have day (d : Day) : HasMark (Moment.dayText d) :=
    hasMark_append_left (hasMark_append_left
      (hasMark_append_left (hasMark_append_right ⟨'-', by decide, by decide⟩)))
  cases t with
  | day d => exact day d
  | time d clock offset =>
    exact hasMark_append_left (hasMark_append_left (hasMark_append_left (day d)))

theorem hasMark_shownBytes (bs : List UInt8) : HasMark (shownBytes bs) := by
  simp only [shownBytes]
  split
  · exact hasMark_ofList (c := '"') (by simp) (by decide)
  · exact hasMark_ofList (c := '\'') (by simp) (by decide)

def shownWords : List String := ["None", "True", "False", "nan", "inf"]

def isUnshown (name : String) : Bool := name.toList.all Char.isAlpha && !shownWords.contains name

/-- The text that shows a value which is no text is hardly ever a word. -/
theorem Value.hasMark_shown {v : Value} (noText : ∀ s, v ≠ .str s) :
    HasMark v.shown ∨ v.shown ∈ shownWords := by
  cases v with
  | null => exact Or.inr (by decide)
  | bool b => cases b <;> exact Or.inr (by decide)
  | int n => exact Or.inl (hasMark_integer n)
  | float x =>
    show HasMark x.text ∨ x.text ∈ _
    rcases hasMark_float x with mark | nan | inf
    · exact Or.inl mark
    · exact Or.inr (by rw [nan]; decide)
    · exact Or.inr (by rw [inf]; decide)
  | str s => exact absurd rfl (noText s)
  | moment t => exact Or.inl (hasMark_moment t " ")
  | bytes bs => exact Or.inl (hasMark_shownBytes bs)
  | set ks =>
    cases ks with
    | nil => exact Or.inl ⟨'(', by decide, by decide⟩
    | cons k ks =>
      exact Or.inl (hasMark_append_left (hasMark_append_left ⟨'\x7b', by decide, by decide⟩))
  | pair a b =>
    exact Or.inl (hasMark_append_left (hasMark_append_left (hasMark_append_left (hasMark_append_left
      ⟨'(', by decide, by decide⟩))))
  | list m xs =>
    exact Or.inl (hasMark_append_left (hasMark_append_left ⟨'[', by decide, by decide⟩))
  | map m es =>
    exact Or.inl (hasMark_append_left (hasMark_append_left ⟨'\x7b', by decide, by decide⟩))
  | again m mapping =>
    cases mapping with
    | true => exact Or.inl (show HasMark "\x7b...\x7d" from ⟨'.', by decide, by decide⟩)
    | false => exact Or.inl (show HasMark "[...]" from ⟨'.', by decide, by decide⟩)

/-- A tag that is no text does not become the name of anything by being shown. -/
theorem Value.told_ne {v : Value} {t name : String} (told : v.told = .ok t)
    (noText : ∀ s, v ≠ .str s) (unshown : isUnshown name = true) : t ≠ name := by
  rw [isUnshown, Bool.and_eq_true, List.all_eq_true, Bool.not_eq_true'] at unshown
  rw [Value.told] at told
  split at told
  · cases told
  · cases told
    rintro rfl
    rcases Value.hasMark_shown noText with ⟨c, mem, mark⟩ | constant
    · simp [unshown.1 c mem] at mark
    · simp [constant] at unshown

/-! ### Parts of what is written -/

namespace Value

theorem inside_unmarked {v : Value} (unmarked : v.mark = 0) (around : List Value) :
    inside around v = around :=
  if_pos unmarked

theorem entriesOf_nil (es : List (Key × Value)) : (es.map fun (k, v) => (k, partOf [] v)) = es :=
  List.map_id es

end Value

/-! ### Conditions -/

namespace Condition

open Checked

theorem exists_of_readUnknown {op : String} {es : List (Key × Value)} {c : Condition}
    (h : readUnknown op es = .ok c) :
    ∃ extras, c = unknown op extras ∧ Unclaimed [["op"]] extras := by
  rw [readUnknown] at h
  cases read : readExtras (Entries.set (.str "op") (.str op) es) [["op"]] with
  | ok extras =>
    rw [read] at h
    cases h
    exact ⟨extras, rfl, unclaimed_of_readExtras read⟩
  | faulty cs =>
    rw [read] at h
    cases h
  | stopped e =>
    rw [read] at h
    cases h

theorem readUnknown_keyed {op : String} {extras : List (String × Value)}
    (unclaimed : Unclaimed [["op"]] extras) :
    readUnknown op (keyed (("op", .str op) :: extras)) = .ok (unknown op extras) := by
  have again : Entries.set (.str "op") (.str op) (keyed (("op", .str op) :: extras)) =
      keyed ([("op", .str op)] ++ extras) := by
    simp [keyed, Entries.set]
  rw [readUnknown, again, readExtras_keyed rfl unclaimed]
  rfl

theorem ofName?_told {v : Value} {op : String} (told : v.told = .ok op) (noText : ∀ s, v ≠ .str s) :
    CompareOp.ofName? op = none ∧ LogicOp.ofName? op = none := by
  have never (name : String) (unshown : isUnshown name = true) : op ≠ name :=
    Value.told_ne told noText unshown
  constructor
  · unfold CompareOp.ofName?
    split
    · exact absurd rfl (never "equals" rfl)
    · exact absurd rfl (never "notEquals" rfl)
    · exact absurd rfl (never "gt" rfl)
    · exact absurd rfl (never "gte" rfl)
    · exact absurd rfl (never "lt" rfl)
    · exact absurd rfl (never "lte" rfl)
    · rfl
  · unfold LogicOp.ofName?
    split
    · exact absurd rfl (never "and" rfl)
    · exact absurd rfl (never "or" rfl)
    · exact absurd rfl (never "not" rfl)
    · rfl

theorem ofValue_unknown {op : String} {extras : List (String × Value)}
    (noComparison : CompareOp.ofName? op = none) (noLogic : LogicOp.ofName? op = none)
    (unclaimed : Unclaimed [["op"]] extras) :
    ofValue (dump (unknown op extras)) = .ok (unknown op extras) := by
  show ofPart [] (.map 0 (keyed (("op", .str op) :: extras))) = _
  rw [ofPart]
  dsimp only
  rw [Value.inside_unmarked rfl, Value.entriesOf_nil, get?_keyed, List.lookup_cons_self]
  simp only [Option.getD_some, Value.partOf_nil, noComparison, noLogic]
  exact readUnknown_keyed unclaimed

theorem readEach_dumpAll {cs : List Condition} (h : ∀ c ∈ cs, ofValue c.dump = .ok c) (i : Nat) :
    readEach [] i (dumpAll cs) = .ok cs := by
  induction cs generalizing i with
  | nil => rw [dumpAll, readEach]
  | cons c cs ih =>
    have here : ofPart [] c.dump = .ok c := h c List.mem_cons_self
    rw [dumpAll, readEach, here, ih fun d mem => h d (List.mem_cons_of_mem _ mem)]
    rfl

theorem ofValue_logical {op : LogicOp} {cs : List Condition}
    (h : ∀ c ∈ cs, ofValue c.dump = .ok c) :
    ofValue (dump (logical op cs)) = .ok (logical op cs) := by
  have noComparison : CompareOp.ofName? op.name = none := by cases op <;> rfl
  have children : readChildren []
      (keyed [("op", .str op.name), ("conditions", .ofList (dumpAll cs))]) = .ok cs := by
    show readChildren [] [(.str "op", _), (.str "conditions", .list 0 (dumpAll cs))] = _
    rw [readChildren, if_neg (by simp), readChildren, if_pos (by simp), readNested,
      Value.inside_unmarked rfl]
    exact inside_eq_ok.mpr (readEach_dumpAll h 0)
  rw [dump]
  show ofPart [] (.map 0 (keyed [("op", .str op.name), ("conditions", .ofList (dumpAll cs))])) = _
  rw [ofPart]
  dsimp only
  rw [Value.inside_unmarked rfl, get?_keyed, List.lookup_cons_self]
  simp only [Option.getD_some, Value.partOf_nil, noComparison, LogicOp.ofName?_name]
  rw [children]
  rfl

mutual

/-- The cases are those of the reader: an operator with a meaning, one without, and one that is no
text. -/
theorem ofValue_dump_of_ofPart {around : List Value} {v : Value} {c : Condition}
    (h : ofPart around v = .ok c) : ofValue c.dump = .ok c := by
  cases v with
  | map m es =>
    rw [ofPart] at h
    dsimp only at h
    split at h
    next => cases h
    next => cases h
    next => cases h
    next => cases h
    next s _ =>
      split at h
      next op _ =>
        cases h
        exact ofValue_comparison op _ _
      next op _ _ =>
        obtain ⟨cs, children, rfl⟩ := map_eq_ok (show _ <$> _ = _ from toExcept_eq_ok.mp h)
        exact ofValue_logical (ofValue_dump_of_readChildren children)
      next noComparison noLogic =>
        obtain ⟨extras, rfl, unclaimed⟩ := exists_of_readUnknown h
        exact ofValue_unknown noComparison noLogic unclaimed
    next noText =>
      obtain ⟨op, told, h⟩ := bind_eq_ok h
      obtain ⟨extras, rfl, unclaimed⟩ := exists_of_readUnknown h
      obtain ⟨noComparison, noLogic⟩ := ofName?_told told noText
      exact ofValue_unknown noComparison noLogic unclaimed
  | again m mapping => cases mapping <;> simp [ofPart] at h
  | _ => simp [ofPart] at h
termination_by structural v

theorem ofValue_dump_of_readChildren {around : List Value} {es : List (Key × Value)}
    {cs : List Condition} (h : readChildren around es = .ok cs) :
    ∀ c ∈ cs, ofValue c.dump = .ok c := by
  cases es with
  | nil =>
    rw [readChildren] at h
    cases h
    simp
  | cons e es =>
    obtain ⟨k, v⟩ := e
    rw [readChildren] at h
    split at h
    next => exact ofValue_dump_of_readNested (inside_eq_ok.mp h)
    next => exact ofValue_dump_of_readChildren h
termination_by structural es

theorem ofValue_dump_of_readNested {around : List Value} {v : Value} {cs : List Condition}
    (h : readNested around v = .ok cs) : ∀ c ∈ cs, ofValue c.dump = .ok c := by
  cases v with
  | list m vs =>
    rw [readNested] at h
    exact ofValue_dump_of_readEach h
  | set ks =>
    rw [readNested] at h
    intro c mem
    obtain ⟨_, -, refused⟩ := exists_of_mem_readItems h c mem
    cases refused
  | again m mapping => cases mapping <;> simp [readNested, complain] at h
  | _ => simp [readNested, complain] at h
termination_by structural v

theorem ofValue_dump_of_readEach {around : List Value} {i : Nat} {vs : List Value}
    {cs : List Condition} (h : readEach around i vs = .ok cs) :
    ∀ c ∈ cs, ofValue c.dump = .ok c := by
  cases vs with
  | nil =>
    rw [readEach] at h
    cases h
    simp
  | cons v vs =>
    rw [readEach] at h
    obtain ⟨g, ds, first, rest, rfl⟩ := seq_eq_ok h
    obtain ⟨d, here, rfl⟩ := map_eq_ok first
    intro c mem
    rcases List.mem_cons.mp mem with rfl | later
    · exact ofValue_dump_of_ofPart (ofExcept_eq_ok.mp (inside_eq_ok.mp here))
    · exact ofValue_dump_of_readEach rest c later
termination_by structural vs

end

end Condition

/-! ### Actions -/

namespace Action

open Checked

def meaningful : List String :=
  ["gotoScene", "setVar", "incVar", "addScore", "toast", "modal", "resetNode", "delay",
    "sequence", "parallel"]

/-- A tag that is no text with a meaning does not become one by being shown. -/
theorem not_meaningful_of_told {v : Value} {tag : String} (told : v.told = .ok tag)
    (other : ∀ t ∈ meaningful, v ≠ .str t) : tag ∉ meaningful := by
  intro mem
  by_cases noText : ∀ s, v ≠ .str s
  · have words : meaningful.all isUnshown = true := rfl
    exact Value.told_ne told noText (List.all_eq_true.mp words tag mem) rfl
  · simp only [ne_eq, Classical.not_forall, Classical.not_not] at noText
    obtain ⟨s, rfl⟩ := noText
    cases told
    exact other _ mem rfl

theorem exists_of_readUnknown {tag : String} {es : List (Key × Value)} {a : Action}
    (h : readUnknown tag es = .ok a) :
    ∃ params, a = unknown tag params ∧ Unclaimed [["action"]] params := by
  obtain ⟨params, read, rfl⟩ := map_eq_ok (show _ <$> _ = _ from toExcept_eq_ok.mp h)
  exact ⟨params, rfl, unclaimed_of_readExtras read⟩

theorem readUnknown_keyed {tag : String} {params : List (String × Value)}
    (unclaimed : Unclaimed [["action"]] params) :
    readUnknown tag (keyed (("action", .str tag) :: params)) = .ok (unknown tag params) := by
  have again : Entries.set (.str "action") (.str tag) (keyed (("action", .str tag) :: params)) =
      keyed ([("action", .str tag)] ++ params) := by
    simp [keyed, Entries.set]
  rw [readUnknown, again, readExtras_keyed rfl unclaimed]
  rfl

/-- What is written of an action is read by its entries. -/
theorem ofValue_dump (a : Action) :
    ofValue a.dump = ofEntries (keyed (("action", .str a.tag) :: a.fields))
    (readChildren [] (keyed (("action", .str a.tag) :: a.fields))) := by
  show ofPart [] (.map 0 (keyed (("action", .str a.tag) :: a.fields))) = _
  rw [ofPart, Value.inside_unmarked rfl, Value.entriesOf_nil]

theorem ofEntries_unknown {tag : String} {fields : List (String × Value)} (other : tag ∉ meaningful)
    (children : Checked (List Action)) :
    ofEntries (keyed (("action", .str tag) :: fields)) children =
      readUnknown tag (keyed (("action", .str tag) :: fields)) := by
  rw [ofEntries, get?_keyed, List.lookup_cons_self, Option.getD_some]
  split
  all_goals first
    | rfl
    | next same =>
      cases same
      exact absurd (by decide) other

theorem readEach_dumpAll {as : List Action} (h : ∀ a ∈ as, ofValue a.dump = .ok a) (i : Nat) :
    readEach [] i (dumpAll as) = .ok as := by
  induction as generalizing i with
  | nil => rw [dumpAll, readEach]
  | cons a as ih =>
    have here : ofPart [] a.dump = .ok a := h a List.mem_cons_self
    rw [dumpAll, readEach]
    rw [show Value.object _ = a.dump from rfl, here,
      ih fun b mem => h b (List.mem_cons_of_mem _ mem)]
    rfl

theorem readChildren_dumpAll {as : List Action} (h : ∀ a ∈ as, ofValue a.dump = .ok a)
    (tag : String) :
    readChildren [] (keyed [("action", .str tag), ("actions", .ofList (dumpAll as))]) = .ok as := by
  show readChildren [] [(.str "action", _), (.str "actions", .list 0 (dumpAll as))] = _
  rw [readChildren, if_neg (by simp), readChildren, if_pos (by simp), readNested,
    Value.inside_unmarked rfl]
  exact inside_eq_ok.mpr (readEach_dumpAll h 0)

/-- A presented action is read again from its text and its kept entries. -/
theorem readPresented_keyed {make : String → List (String × Value) → Action}
    {es : List (Key × Value)} {a : Action} (h : readPresented make es = .ok a) :
    ∃ text extras, a = make text extras ∧
      ∀ tag, readPresented make (keyed (("action", tag) :: ("text", .str text) :: extras)) =
        .ok a := by
  obtain ⟨g, extras, first, kept, rfl⟩ := seq_eq_ok h
  obtain ⟨text, found, rfl⟩ := map_eq_ok first
  refine ⟨text, extras, rfl, fun tag => ?_⟩
  have again : readExtras (keyed ([("action", tag), ("text", .str text)] ++ extras))
      [["action"], ["text"]] =
      .ok extras :=
    readExtras_keyed rfl (unclaimed_of_readExtras kept)
  exact congrArg (make <$> Checked.ok text <*> ·) again

def parts : Action → List Action
  | sequence actions => actions
  | parallel actions => actions
  | _ => []

theorem preorder_eq (a : Action) : preorder a = a :: preorderAll a.parts := by
  cases a <;> rfl

/-- Only a tag of no meaning is kept with an action of no meaning. -/
def Honest (a : Action) : Prop := ∀ tag params, a = unknown tag params → tag ∉ meaningful

/-- What entries write: an honest action whose parts, if it has any, are the actions under its
entry, and which is read again if its parts are. The cases are the tags that mean something, and
then all others. -/
theorem of_ofEntries {es : List (Key × Value)} {children : Checked (List Action)} {a : Action}
    (h : ofEntries es children = .ok a) : a.Honest ∧ (a.parts = [] ∨ children = .ok a.parts) ∧
      ((∀ b ∈ a.parts, ofValue b.dump = .ok b) → ofValue a.dump = .ok a) := by
  rw [ofEntries] at h
  split at h
  next =>
    obtain ⟨g, transition, first, -, rfl⟩ := seq_eq_ok (toExcept_eq_ok.mp h)
    obtain ⟨sceneId, -, rfl⟩ := map_eq_ok first
    refine ⟨nofun, .inl rfl, fun _ => ?_⟩
    rw [ofValue_dump]
    rfl
  next =>
    obtain ⟨g, value, first, -, rfl⟩ := seq_eq_ok (toExcept_eq_ok.mp h)
    obtain ⟨path, -, rfl⟩ := map_eq_ok first
    refine ⟨nofun, .inl rfl, fun _ => ?_⟩
    rw [ofValue_dump]
    rfl
  next =>
    obtain ⟨g, amount, first, -, rfl⟩ := seq_eq_ok (toExcept_eq_ok.mp h)
    obtain ⟨path, -, rfl⟩ := map_eq_ok first
    refine ⟨nofun, .inl rfl, fun _ => ?_⟩
    rw [ofValue_dump]
    cases amount <;> rfl
  next =>
    obtain ⟨value, -, rfl⟩ := map_eq_ok (toExcept_eq_ok.mp h)
    refine ⟨nofun, .inl rfl, fun _ => ?_⟩
    rw [ofValue_dump]
    cases value <;> rfl
  next =>
    obtain ⟨text, extras, rfl, again⟩ := readPresented_keyed (toExcept_eq_ok.mp h)
    refine ⟨nofun, .inl rfl, fun _ => ?_⟩
    rw [ofValue_dump]
    exact toExcept_eq_ok.mpr (again _)
  next =>
    obtain ⟨text, extras, rfl, again⟩ := readPresented_keyed (toExcept_eq_ok.mp h)
    refine ⟨nofun, .inl rfl, fun _ => ?_⟩
    rw [ofValue_dump]
    exact toExcept_eq_ok.mpr (again _)
  next =>
    obtain ⟨nodeId, -, rfl⟩ := map_eq_ok (toExcept_eq_ok.mp h)
    refine ⟨nofun, .inl rfl, fun _ => ?_⟩
    rw [ofValue_dump]
    rfl
  next =>
    obtain ⟨duration, -, rfl⟩ := map_eq_ok (toExcept_eq_ok.mp h)
    refine ⟨nofun, .inl rfl, fun _ => ?_⟩
    rw [ofValue_dump]
    cases duration <;> rfl
  next =>
    obtain ⟨as, read, rfl⟩ := map_eq_ok (show _ <$> _ = _ from toExcept_eq_ok.mp h)
    refine ⟨nofun, .inr read, fun (inside : ∀ b ∈ as, _) => ?_⟩
    rw [ofValue_dump, tag, fields, readChildren_dumpAll inside]
    rfl
  next =>
    obtain ⟨as, read, rfl⟩ := map_eq_ok (show _ <$> _ = _ from toExcept_eq_ok.mp h)
    refine ⟨nofun, .inr read, fun (inside : ∀ b ∈ as, _) => ?_⟩
    rw [ofValue_dump, tag, fields, readChildren_dumpAll inside]
    rfl
  next =>
    obtain ⟨tag, told, h⟩ := bind_eq_ok h
    obtain ⟨params, rfl, unclaimed⟩ := exists_of_readUnknown h
    have other : tag ∉ meaningful := by
      refine not_meaningful_of_told told ?_
      simp only [meaningful, List.forall_mem_cons]
      and_intros <;> first | assumption | nofun
    refine ⟨?_, .inl rfl, fun _ => ?_⟩
    · rintro _ _ ⟨⟩
      exact other
    · rw [ofValue_dump, Action.tag, fields, ofEntries_unknown other]
      exact readUnknown_keyed unclaimed

/-- What holds of every action that entries write if it holds of the parts of that action. -/
def Inherited (P : Action → Prop) : Prop :=
  ∀ es children a, ofEntries es children = .ok a → (∀ b ∈ a.parts, P b) → P a

section

variable {P : Action → Prop}

mutual

/-- Induction on what is read. The cases are those of the reader. -/
theorem Inherited.of_ofPart (step : Inherited P) {around : List Value} {v : Value} {a : Action}
    (h : ofPart around v = .ok a) : P a := by
  cases v with
  | map m es =>
    rw [ofPart] at h
    refine step _ _ a h ?_
    rcases (of_ofEntries h).2.1 with none | children
    · simp [none]
    · exact step.of_readChildren children
  | again m mapping => cases mapping <;> simp [ofPart] at h
  | _ => simp [ofPart] at h
termination_by structural v

theorem Inherited.of_readChildren (step : Inherited P) {around : List Value}
    {es : List (Key × Value)} {as : List Action} (h : readChildren around es = .ok as) :
    ∀ a ∈ as, P a := by
  cases es with
  | nil =>
    rw [readChildren] at h
    cases h
    simp
  | cons e es =>
    obtain ⟨k, v⟩ := e
    rw [readChildren] at h
    split at h
    next => exact step.of_readNested (inside_eq_ok.mp h)
    next => exact step.of_readChildren h
termination_by structural es

theorem Inherited.of_readNested (step : Inherited P) {around : List Value} {v : Value}
    {as : List Action} (h : readNested around v = .ok as) : ∀ a ∈ as, P a := by
  cases v with
  | list m vs =>
    rw [readNested] at h
    exact step.of_readEach h
  | set ks =>
    rw [readNested] at h
    intro a mem
    obtain ⟨_, -, refused⟩ := exists_of_mem_readItems h a mem
    cases refused
  | again m mapping => cases mapping <;> simp [readNested, complain] at h
  | _ => simp [readNested, complain] at h
termination_by structural v

theorem Inherited.of_readEach (step : Inherited P) {around : List Value} {i : Nat} {vs : List Value}
    {as : List Action} (h : readEach around i vs = .ok as) : ∀ a ∈ as, P a := by
  cases vs with
  | nil =>
    rw [readEach] at h
    cases h
    simp
  | cons v vs =>
    rw [readEach] at h
    obtain ⟨g, bs, first, rest, rfl⟩ := seq_eq_ok h
    obtain ⟨b, here, rfl⟩ := map_eq_ok first
    intro a mem
    rcases List.mem_cons.mp mem with rfl | later
    · exact step.of_ofPart (ofExcept_eq_ok.mp (inside_eq_ok.mp here))
    · exact step.of_readEach rest a later
termination_by structural vs

end

theorem Inherited.ensures (step : Inherited P) : Ensures read P :=
  fun _ _ h => step.of_ofPart (ofExcept_eq_ok.mp h)

end

theorem preorderAll_eq_flatMap (as : List Action) : preorderAll as = as.flatMap preorder := by
  induction as with
  | nil => rfl
  | cons a as ih => rw [preorderAll, ih, List.flatMap_cons]

/-- Whatever is inside an action that was read is honest. -/
theorem ensures_honest : Ensures read fun a => ∀ b ∈ preorder a, b.Honest := by
  refine Inherited.ensures fun es children a h inside => ?_
  rw [preorder_eq, List.forall_mem_cons]
  refine ⟨(of_ofEntries h).1, fun b mem => ?_⟩
  rw [preorderAll_eq_flatMap, List.mem_flatMap] at mem
  obtain ⟨c, part, within⟩ := mem
  exact inside c part b within

end Action

theorem Condition.rereads : Rereads read dump := fun _ _ h =>
  Checked.ofExcept_eq_ok.mpr (ofValue_dump_of_ofPart (Checked.ofExcept_eq_ok.mp h))

theorem Action.rereads : Rereads read dump := fun v a h =>
  have step : Inherited fun a => ofValue a.dump = .ok a :=
    fun _ _ _ written inside => (of_ofEntries written).2.2 inside
  Checked.ofExcept_eq_ok.mpr (step.ensures v a h)

end SceneCourse
