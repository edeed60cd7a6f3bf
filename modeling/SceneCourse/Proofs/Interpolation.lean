import Mathlib.Data.Nat.Find
import SceneCourse.Proofs.Resolution

/-! Placeholders of a text. A text is cut in one way only into placeholders and what stands between
them, if each placeholder is the first one behind the one before it. Filling a text replaces these
placeholders and nothing else, and what is put in their place is not looked at again. It fails just
where a path cannot be followed or a value that is found there has no text. -/

namespace SceneCourse

open Text

/-! ### Placeholders -/

/-- A placeholder at a place of a text: two opening braces, one or more characters that are no
closing braces, and two closing braces. -/
def SlotAt (cs : List Char) (i : Nat) (inner : List Char) : Prop :=
  inner ≠ [] ∧ '\x7d' ∉ inner ∧ (Piece.slot inner).chars <+: cs.drop i

theorem length_slot (inner : List Char) : (Piece.slot inner).chars.length = inner.length + 4 := by
  simp [Piece.chars]

theorem placeholder?_eq_some_iff {cs inner : List Char} :
    placeholder? cs = some inner ↔ SlotAt cs 0 inner := by
  rw [SlotAt, List.drop_zero]
  constructor
  · intro found
    unfold placeholder? at found
    split at found
    next cs =>
      have whole := List.takeWhile_append_dropWhile (p := (· != '\x7d')) (l := cs)
      dsimp only at found
      split at found
      next rest close =>
        split at found
        next => cases found
        next some =>
          cases found
          refine ⟨by simpa using some, fun closed => ?_, rest, ?_⟩
          · simpa using List.all_eq_true.1 List.all_takeWhile _ closed
          · rw [close] at whole
            simp [Piece.chars, whole]
      next => cases found
    next => cases found
  · rintro ⟨some, closed, rest, rfl⟩
    have row : ∀ c ∈ inner, (c != '\x7d') = true :=
      fun c member => bne_iff_ne.2 fun same => closed (same ▸ member)
    simp [Piece.chars, placeholder?, List.takeWhile_append_of_pos row,
      List.dropWhile_append_of_pos row, some]

theorem slotAt_iff {cs inner : List Char} {i : Nat} :
    SlotAt cs i inner ↔ placeholder? (cs.drop i) = some inner := by
  rw [placeholder?_eq_some_iff, SlotAt, SlotAt, List.drop_zero]

/-- There is one placeholder at most at a place. -/
theorem SlotAt.unique {cs inner other : List Char} {i : Nat} (h : SlotAt cs i inner)
    (h' : SlotAt cs i other) : inner = other :=
  Option.some.inj ((slotAt_iff.1 h).symm.trans (slotAt_iff.1 h'))

/-! ### Cuts -/

/-- A text is cut into gaps, each with what stands between the braces of the placeholder behind it,
and a tail. Every placeholder is the first in what is left of the text there, and there is none in
the tail. -/
inductive Cuts : List Char → List (List Char × List Char) → List Char → Prop where
  | done {cs : List Char} (none : ∀ i inner, ¬SlotAt cs i inner) : Cuts cs [] cs
  | slot {gap inner rest tail : List Char} {gaps : List (List Char × List Char)}
    (here : SlotAt (gap ++ ((Piece.slot inner).chars ++ rest)) gap.length inner)
    (first : ∀ i < gap.length, ∀ other, ¬SlotAt (gap ++ ((Piece.slot inner).chars ++ rest)) i other)
    (later : Cuts rest gaps tail) : Cuts (gap ++ ((Piece.slot inner).chars ++ rest))
      ((gap, inner) :: gaps) tail

theorem exists_cuts (cs : List Char) : ∃ gaps tail, Cuts cs gaps tail := by
  induction size : cs.length using Nat.strong_induction_on generalizing cs with
  | _ n ih =>
    by_cases holds : ∃ i inner, SlotAt cs i inner
    · classical
      -- the first place of a placeholder ends the gap, and the rest behind it is shorter
      obtain ⟨inner, here⟩ := Nat.find_spec holds
      have first (i : Nat) (before : i < Nat.find holds) (other : List Char) : ¬SlotAt cs i other :=
        fun slot => Nat.find_min holds before ⟨other, slot⟩
      generalize Nat.find holds = i at here first
      obtain ⟨rest, behind⟩ := here.2.2
      have inside : i ≤ cs.length := by
        have := congrArg List.length behind
        rw [List.length_append, length_slot, List.length_drop] at this
        omega
      have spelled : cs = cs.take i ++ ((Piece.slot inner).chars ++ rest) := by
        rw [behind, List.take_append_drop]
      have length : (cs.take i).length = i := List.length_take_of_le inside
      generalize cs.take i = gap at spelled length
      subst spelled length
      obtain ⟨gaps, tail, later⟩ := ih rest.length (by simp [← size, length_slot]; omega) rest rfl
      exact ⟨_, tail, .slot here first later⟩
    · exact ⟨[], cs, .done fun i inner slot => holds ⟨i, inner, slot⟩⟩

theorem Cuts.unique {cs tail tail' : List Char} {gaps gaps' : List (List Char × List Char)}
    (cuts : Cuts cs gaps tail) (cuts' : Cuts cs gaps' tail') : gaps = gaps' ∧ tail = tail' := by
  induction cuts generalizing gaps' with
  | done none =>
    cases cuts' with
    | done => exact ⟨rfl, rfl⟩
    | slot here => exact absurd here (none _ _)
  | @slot gap inner rest tail gaps here first later ih =>
    generalize text : gap ++ ((Piece.slot inner).chars ++ rest) = cs at cuts' here first
    cases cuts' with
    | done none => exact absurd here (none _ _)
    | @slot gap' inner' rest' _ gaps' here' first' later' =>
      have length : gap.length = gap'.length := by
        rcases Nat.lt_trichotomy gap.length gap'.length with before | same | behind
        · exact absurd here (first' _ before _)
        · exact same
        · exact absurd here' (first _ behind _)
      obtain ⟨rfl, behind⟩ := List.append_inj text length
      obtain rfl := here.unique here'
      obtain rfl := List.append_cancel_left behind
      obtain ⟨rfl, rfl⟩ := ih later'
      exact ⟨rfl, rfl⟩

/-- The gaps, the placeholders behind them and the tail make up the text. -/
theorem Cuts.spelled {cs tail : List Char} {gaps : List (List Char × List Char)}
    (cuts : Cuts cs gaps tail) :
    cs = gaps.flatMap (fun g => g.1 ++ (Piece.slot g.2).chars) ++ tail := by
  induction cuts with
  | done => rfl
  | @slot gap inner rest tail gaps here first later ih => simp [← ih]

/-! ### Pieces -/

theorem pieces_eq_drop (n : Nat) (cs : List Char) : pieces n cs = pieces 0 (cs.drop n) := by
  induction cs generalizing n with
  | nil => cases n <;> simp [pieces]
  | cons c cs ih =>
    cases n with
    | zero => rfl
    | succ n => rw [pieces, ih, List.drop_succ_cons]

/-- A placeholder at the head of a text is one piece. -/
theorem pieces_slot {cs inner : List Char} (slot : SlotAt cs 0 inner) :
    pieces 0 cs = .slot inner :: pieces 0 (cs.drop (inner.length + 4)) := by
  have found := placeholder?_eq_some_iff.2 slot
  cases cs with
  | nil => cases found
  | cons c cs =>
    rw [pieces, found]
    dsimp only
    rw [pieces_eq_drop, List.drop_succ_cons]

/-- What stands before the first placeholder are single characters. -/
theorem pieces_gap {gap rest : List Char}
    (first : ∀ i < gap.length, ∀ inner, ¬SlotAt (gap ++ rest) i inner) :
    pieces 0 (gap ++ rest) = gap.map .char ++ pieces 0 rest := by
  induction gap with
  | nil => rfl
  | cons c gap ih =>
    have none : placeholder? (c :: (gap ++ rest)) = none := by
      refine Option.eq_none_iff_forall_ne_some.2 fun inner found => first 0 (by simp) inner ?_
      exact placeholder?_eq_some_iff.1 found
    rw [List.cons_append, pieces, none]
    dsimp only
    rw [List.map_cons, List.cons_append, ih]
    exact fun i before inner slot => first (i + 1) (by simpa using before) inner slot

def piecesOf (gaps : List (List Char × List Char)) (tail : List Char) : List Piece :=
  gaps.flatMap (fun (gap, inner) => gap.map .char ++ [.slot inner]) ++ tail.map .char

theorem Cuts.pieces_eq {cs tail : List Char} {gaps : List (List Char × List Char)}
    (cuts : Cuts cs gaps tail) : pieces 0 cs = piecesOf gaps tail := by
  induction cuts with
  | @done cs none =>
    have all := @pieces_gap cs [] fun i _ inner => by simpa using none i inner
    simpa [piecesOf, pieces] using all
  | @slot gap inner rest tail gaps here first later ih =>
    have slot : SlotAt ((Piece.slot inner).chars ++ rest) 0 inner := by
      simpa [SlotAt] using here
    rw [pieces_gap first, pieces_slot slot, ← length_slot, List.drop_left, ih]
    simp [piecesOf]

/-! ### Filling -/

namespace Store

/-- What is put in the place of a placeholder: the text of the value at the path between its braces,
without the blanks around it, or the placeholder itself if there is no value. -/
def standIn (s : Store) (inner : List Char) : Except Fault (List Char) := do
  let v ← s.get (.ofList (stripList inner))
  if v matches .null then return (Piece.slot inner).chars else return (← v.inText).toList

theorem fillPiece_eq_standIn (s : Store) (inner : List Char) :
    s.fillPiece (.slot inner) = s.standIn inner := by
  rw [fillPiece, standIn]
  cases s.get (.ofList (stripList inner)) with
  | error e => rfl
  | ok v => cases v <;> rfl

/-- There is something to put in the place of a placeholder if the path can be followed to a value
that has a text. -/
theorem standIn_ok_iff (s : Store) (inner : List Char) : (∃ r, s.standIn inner = .ok r) ↔
    ∃ v, s.get (.ofList (stripList inner)) = .ok v ∧ ∃ text, v.inText = .ok text := by
  rw [← fillPiece_eq_standIn]
  cases found : s.get (.ofList (stripList inner)) with
  | error e => simp [fillPiece, found, bind, Except.bind]
  | ok v =>
    simp only [Except.ok.injEq, exists_eq_left']
    by_cases null : v = .null
    · subst null
      exact iff_of_true ⟨_, by rw [fillPiece, found]; rfl⟩ ⟨_, rfl⟩
    · rw [s.fillPiece_of_some found null]
      cases v.inText <;> simp [bind, Except.bind, pure, Except.pure]

def fillGap (s : Store) (g : List Char × List Char) : Except Fault (List Char) :=
  do return g.1 ++ (← s.standIn g.2)

theorem mapM_chars (s : Store) (cs : List Char) (ps : List Piece) :
    (cs.map Piece.char ++ ps).mapM s.fillPiece = (ps.mapM s.fillPiece).map fun rs => cs.map
      ([·]) ++ rs := by
  induction cs with
  | nil =>
    rw [List.map_nil, List.nil_append]
    cases ps.mapM s.fillPiece <;> rfl
  | cons c cs ih =>
    rw [List.map_cons, List.cons_append, List.mapM_cons, ih]
    cases ps.mapM s.fillPiece <;> rfl

theorem mapM_piecesOf (s : Store) (gaps : List (List Char × List Char)) (tail : List Char) :
    ((piecesOf gaps tail).mapM s.fillPiece).map List.flatten =
      (gaps.mapM s.fillGap).map fun rs => rs.flatten ++ tail := by
  induction gaps with
  | nil =>
    have only := s.mapM_chars tail []
    rw [List.append_nil] at only
    rw [piecesOf, List.flatMap_nil, List.nil_append, only]
    show Except.ok (tail.map ([·]) ++ []).flatten = Except.ok tail
    rw [List.append_nil, ← List.flatMap_def, List.flatMap_singleton']
  | cons g gaps ih =>
    have split : piecesOf (g :: gaps) tail = g.1.map Piece.char ++
        (.slot g.2 :: piecesOf gaps tail) := by simp [piecesOf]
    rw [split, mapM_chars, List.mapM_cons, List.mapM_cons, fillPiece_eq_standIn, fillGap]
    cases s.standIn g.2 with
    | error e => rfl
    | ok r =>
      simp only [bind, Except.bind, pure, Except.pure]
      cases left : (piecesOf gaps tail).mapM s.fillPiece <;> cases right : gaps.mapM s.fillGap <;>
        simp_all [Except.map, ← List.flatMap_def]

theorem interpolate_eq (s : Store) {text : String} {gaps : List (List Char × List Char)}
    {tail : List Char} (cuts : Cuts text.toList gaps tail) :
    s.interpolate text = (gaps.mapM s.fillGap).map fun rs => .ofList (rs.flatten ++ tail) := by
  have filled := s.mapM_piecesOf gaps tail
  rw [interpolate, cuts.pieces_eq]
  cases left : (piecesOf gaps tail).mapM s.fillPiece <;> cases right : gaps.mapM s.fillGap <;>
    simp_all [Except.map, bind, Except.bind, pure, Except.pure]

theorem interpolate_ok_iff (s : Store) {text : String} {gaps : List (List Char × List Char)}
    {tail : List Char} (cuts : Cuts text.toList gaps tail) : (∃ out, s.interpolate text = .ok out) ↔
      ∀ g ∈ gaps, ∃ v, s.get (.ofList (stripList g.2)) = .ok v ∧ ∃ t, v.inText = .ok t := by
  have whole : (∃ out, s.interpolate text = .ok out) ↔ ¬∃ e, gaps.mapM s.fillGap = .error e := by
    rw [s.interpolate_eq cuts]
    cases gaps.mapM s.fillGap <;> simp [Except.map]
  have gap (g : List Char × List Char) : ¬(∃ e, s.fillGap g = .error e) ↔
      ∃ v, s.get (.ofList (stripList g.2)) = .ok v ∧ ∃ t, v.inText = .ok t := by
    rw [← standIn_ok_iff, fillGap]
    cases s.standIn g.2 <;> simp [bind, Except.bind, pure, Except.pure]
  rw [whole, mapM_fails_iff]
  simp only [not_exists, not_and] at gap ⊢
  exact forall₂_congr fun g _ => gap g

/-- A text is cut in one way, and filling it puts something in the place of each placeholder and
keeps the rest, from the first one to the last. That ends well if all paths can be followed and all
values at their ends have texts. -/
theorem interpolate_cuts (s : Store) (text : String) : ∃ gaps tail, Cuts text.toList gaps tail ∧
    (∀ gaps' tail', Cuts text.toList gaps' tail' → gaps' = gaps ∧ tail' = tail) ∧
    text.toList = gaps.flatMap (fun g => g.1 ++ (Piece.slot g.2).chars) ++ tail ∧
    s.interpolate text = (gaps.mapM s.fillGap).map (fun rs => .ofList (rs.flatten ++ tail)) ∧
    ((∃ out, s.interpolate text = .ok out) ↔
      ∀ g ∈ gaps, ∃ v, s.get (.ofList (stripList g.2)) = .ok v ∧ ∃ t, v.inText = .ok t) := by
  obtain ⟨gaps, tail, cuts⟩ := exists_cuts text.toList
  exact ⟨gaps, tail, cuts, fun _ _ other => other.unique cuts, cuts.spelled, s.interpolate_eq cuts,
    s.interpolate_ok_iff cuts⟩

def ledger : Store := ofGlobals [(.str "n", .int (Nat.pow 10 4300))]

/-- A text cannot be filled with an integer that is too long, though every path can be followed. -/
theorem interpolation_falters : (∀ path, ∃ v, ledger.get path = .ok v) ∧
    ∃ e, ledger.interpolate "\x7b\x7bglobals.vars.n\x7d\x7d" = .error e := by
  have long : (Value.int (Nat.pow 10 4300)).holdsLong = true := by decide +kernel
  have slot : .slot "globals.vars.n".toList ∈
      pieces 0 "\x7b\x7bglobals.vars.n\x7d\x7d".toList := by decide
  refine ⟨exists_get_ofGlobals (List.forall_mem_singleton.2 fun _ => nofun), ?_⟩
  exact (interpolate_fails_iff _ _).2 (.unwritten slot rfl (.long rfl long))

end Store

end SceneCourse
