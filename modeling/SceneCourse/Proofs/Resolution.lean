import SceneCourse.Proofs.Marks
import SceneCourse.Proofs.Verdict
import SceneCourse.Session.Execution

/-! When a text or a value with references cannot be read in a state. A reference is lost where
digits that write no number address the items of a list; a text also is where a value that it takes
in has no text. Following the parts of a value comes to the first part that is lost, unless it stops
before, at a limit or at a reference. -/

namespace SceneCourse

/-! ### Values that cannot be shown -/

namespace Value

mutual

/-- A reader sees which integers are too long. -/
theorem holdsLong_plain (v : Value) : v.plain.holdsLong = v.holdsLong := by
  cases v with
  | set ks =>
    have key (k : Key) : k.plain.isLong = k.isLong := by cases k <;> rfl
    simp [plain, holdsLong, List.any_map, Function.comp_def, key]
  | pair a b => simp [plain, holdsLong, holdsLong_plain a, holdsLong_plain b]
  | list m xs => simp [plain, holdsLong, anyHoldsLong_plainItems xs]
  | map m es => simp [plain, holdsLong, anyEntryHoldsLong_plainEntries es]
  | _ => rfl

theorem anyHoldsLong_plainItems (xs : List Value) :
    anyHoldsLong (plainItems xs) = anyHoldsLong xs := by
  cases xs with
  | nil => rfl
  | cons x xs => simp [plainItems, anyHoldsLong, holdsLong_plain x, anyHoldsLong_plainItems xs]

theorem anyEntryHoldsLong_plainEntries (es : List (Key × Value)) :
    anyEntryHoldsLong (plainEntries es) = anyEntryHoldsLong es := by
  cases es with
  | nil => rfl
  | cons e es =>
    have key : e.1.plain.isLong = e.1.isLong := by cases e.1 <;> rfl
    simp [plainEntries, anyEntryHoldsLong, key, holdsLong_plain e.2,
      anyEntryHoldsLong_plainEntries es]

end

/-- A value that has no text inside another text. -/
inductive Unwritten : Value → Prop where
  | container {v : Value} {e : Fault} (container : v.isContainer = true)
    (fault : Json.fault? v = some e) : Unwritten v
  | long {v : Value} (single : v.isContainer = false) (long : v.holdsLong = true) : Unwritten v

theorem inText_fails_iff (v : Value) : (∃ e, v.inText = .error e) ↔ v.Unwritten := by
  have single (other : v.isContainer = false) : v.Unwritten ↔ v.holdsLong = true := by
    constructor
    · rintro (⟨container, -⟩ | ⟨-, long⟩)
      · rw [other] at container
        cases container
      · exact long
    · exact .long other
  have container (is : v.isContainer = true) : v.Unwritten ↔
      ∃ e, Json.text (.line false) v = .error e := by
    rw [Json.text]
    constructor
    · rintro (⟨-, fault⟩ | ⟨other, -⟩)
      · exact ⟨_, by rw [fault]⟩
      · rw [is] at other
        cases other
    · rintro ⟨e, failed⟩
      split at failed
      next fault => exact .container is fault
      next => cases failed
  cases v with
  | list m xs => exact (container rfl).symm
  | map m es => exact (container rfl).symm
  | bool b => exact iff_of_false (by simp [inText]) (by simp [single rfl, holdsLong])
  | float x =>
    refine iff_of_false ?_ (by simp [single rfl, holdsLong])
    rw [inText]
    split <;> simp
  | _ => exact (told_fails_iff _).trans (single rfl).symm

/-- A mapping with texts for its keys, where bytes may count as the texts that they are. -/
def IsTextMap (v : Value) : Prop := ∃ m es, v = .map m es ∧ ∀ e ∈ es, e.1.complaint? = none

theorem keyComplaints_eq_nil_iff {complaint? : Key → Option Complaint} {es : List (Key × Value)} :
    keyComplaints complaint? es = [] ↔ ∀ e ∈ es, complaint? e.1 = none := by
  induction es with
  | nil => simp [keyComplaints]
  | cons e es ih =>
    obtain ⟨k, v⟩ := e
    rw [keyComplaints]
    split
    next none => simp [ih, none]
    next some => simp [some]

theorem readTextMap_fails_iff (v : Value) (p : Place) (record : String) :
    (∃ e, (v.readTextMap.inside p).toExcept record = .error e) ↔ ¬v.IsTextMap := by
  cases v with
  | map m es =>
    have texts : (Value.map m es).IsTextMap ↔ keyComplaints Key.complaint? es = [] := by
      rw [keyComplaints_eq_nil_iff]
      constructor
      · rintro ⟨_, _, ⟨⟩, keys⟩
        exact keys
      · exact fun keys => ⟨m, es, rfl, keys⟩
    rw [texts, readTextMap]
    split
    next none => exact iff_of_false (by simp [Checked.inside, Checked.toExcept]) (by simp [none])
    next some => exact iff_of_true ⟨_, rfl⟩ some
  | _ => exact iff_of_true ⟨_, rfl⟩ (by rintro ⟨_, _, ⟨⟩, -⟩)

theorem Trips.exists_of_map {m : Nat} {es : List (Key × Value)} {segs : List String}
    (trips : (map m es).Trips segs) : ∃ e ∈ es, ∃ rest, e.2.Trips rest := by
  cases trips with
  | entry found later =>
    obtain ⟨k, member⟩ := exists_of_get? found
    exact ⟨_, member, _, later⟩

end Value

/-! ### Texts and values with references -/

/-- Going through a list fails where one of its elements does. -/
theorem mapM_fails_iff {α β : Type} {f : α → Except Fault β} {as : List α} :
    (∃ e, as.mapM f = .error e) ↔ ∃ a ∈ as, ∃ e, f a = .error e := by
  induction as with
  | nil => simp [pure, Except.pure]
  | cons a as ih =>
    rw [List.mapM_cons]
    cases first : f a with
    | error e => exact iff_of_true ⟨e, rfl⟩ ⟨a, List.mem_cons_self, e, first⟩
    | ok b =>
      cases rest : as.mapM f with
      | error e =>
        obtain ⟨c, member, fails⟩ := ih.mp ⟨e, rest⟩
        exact iff_of_true ⟨e, rfl⟩ ⟨c, List.mem_cons_of_mem a member, fails⟩
      | ok bs =>
        refine iff_of_false (by simp [bind, Except.bind, pure, Except.pure]) ?_
        rintro ⟨c, member, fails⟩
        rcases List.mem_cons.mp member with rfl | later
        · simp [first] at fails
        · simpa [rest] using ih.mpr ⟨c, later, fails⟩

namespace Store

open Noted (fails_bind fails_ofExcept not_fails_pure)

/-- A path that comes to a list by digits that are no integer. -/
def Trips (s : Store) (path : String) : Prop := (s.opened (segments path)).Trips (segments path)

theorem get_fails_iff (s : Store) (path : String) : (∃ e, s.get path = .error e) ↔ s.Trips path :=
  Value.lookup_fails_iff _ _

def ofGlobals (vars : List (Key × Value)) : Store where
  tiers := [(.str "globals", .map 1 [(.str "vars", .map 2 vars)]),
    (.str "scene", .map 3 [(.str "vars", .map 4 [])]),
    (.str "nodes", .map 5 [])]
  next := 6

/-- Every path can be followed if that is so from the global variables on. -/
theorem exists_get_ofGlobals {vars : List (Key × Value)}
    (sound : ∀ e ∈ vars, ∀ segs, ¬e.2.Trips segs) (path : String) :
    ∃ v, (ofGlobals vars).get path = .ok v := by
  cases known : (ofGlobals vars).get path with
  | ok v => exact ⟨v, rfl⟩
  | error e =>
    have trips : (Value.map 0 (ofGlobals vars).tiers).Trips (segments path) :=
      (get_fails_iff _ path).1 ⟨e, known⟩
    obtain ⟨tier, member, rest, trips⟩ := trips.exists_of_map
    simp only [ofGlobals, List.mem_cons, List.not_mem_nil, or_false] at member
    rcases member with rfl | rfl | rfl
    · obtain ⟨entry, member, rest, trips⟩ := trips.exists_of_map
      obtain rfl := List.mem_singleton.1 member
      obtain ⟨e, member, rest, trips⟩ := trips.exists_of_map
      exact absurd trips (sound e member rest)
    · obtain ⟨entry, member, rest, trips⟩ := trips.exists_of_map
      obtain rfl := List.mem_singleton.1 member
      obtain ⟨_, ⟨⟩, -⟩ := trips.exists_of_map
    · obtain ⟨_, ⟨⟩, -⟩ := trips.exists_of_map

/-- A text with a placeholder whose path trips, or leads to a value that has no text. -/
inductive Unfilled (s : Store) (text : String) : Prop where
  | trips {inner : List Char} (slot : .slot inner ∈ pieces 0 text.toList)
    (trips : s.Trips (.ofList (Text.stripList inner))) : Unfilled s text
  | unwritten {inner : List Char} {v : Value} (slot : .slot inner ∈ pieces 0 text.toList)
    (found : s.get (.ofList (Text.stripList inner)) = .ok v) (bad : v.Unwritten) : Unfilled s text

theorem fillPiece_of_some (s : Store) {inner : List Char} {v : Value}
    (found : s.get (.ofList (Text.stripList inner)) = .ok v) (some : v ≠ .null) :
    s.fillPiece (.slot inner) = do return (← v.inText).toList := by
  rw [fillPiece, found]
  cases v with
  | null => exact absurd rfl some
  | _ => simp only [bind, Except.bind]

theorem fillPiece_fails_iff (s : Store) (p : Piece) : (∃ e, s.fillPiece p = .error e) ↔
    ∃ inner, p = .slot inner ∧ (s.Trips (.ofList (Text.stripList inner)) ∨
      ∃ v, s.get (.ofList (Text.stripList inner)) = .ok v ∧ v.Unwritten) := by
  cases p with
  | char c => simp [fillPiece]
  | slot inner =>
    simp only [Piece.slot.injEq, exists_eq_left', ← get_fails_iff, ← Value.inText_fails_iff]
    cases found : s.get (.ofList (Text.stripList inner)) with
    | error e => exact iff_of_true ⟨e, by rw [fillPiece, found]; rfl⟩ (Or.inl ⟨e, rfl⟩)
    | ok v =>
      have written : (∃ e, (do return (← v.inText).toList : Except Fault (List Char)) = .error e) ↔
          ∃ e, v.inText = .error e := by
        cases v.inText <;> simp [bind, Except.bind, pure, Except.pure]
      simp only [reduceCtorEq, exists_false, false_or, Except.ok.injEq, exists_eq_left']
      by_cases none : v = .null
      · subst none
        exact iff_of_false (by simp [fillPiece, found, pure, Except.pure, bind, Except.bind])
          fun fails => absurd ((Value.told_fails_iff .null).mp fails) (by simp [Value.holdsLong])
      · rw [s.fillPiece_of_some found none]
        exact written

theorem interpolate_fails_iff (s : Store) (text : String) :
    (∃ e, s.interpolate text = .error e) ↔ s.Unfilled text := by
  have whole : (∃ e, s.interpolate text = .error e) ↔
      ∃ e, (pieces 0 text.toList).mapM s.fillPiece = .error e := by
    rw [interpolate]
    cases (pieces 0 text.toList).mapM s.fillPiece <;> simp [bind, Except.bind, pure, Except.pure]
  rw [whole, mapM_fails_iff]
  constructor
  · rintro ⟨p, slot, fails⟩
    obtain ⟨inner, rfl, trips | ⟨v, found, bad⟩⟩ := (s.fillPiece_fails_iff p).mp fails
    · exact .trips slot trips
    · exact .unwritten slot found bad
  · rintro (⟨slot, trips⟩ | ⟨slot, found, bad⟩)
    · exact ⟨_, slot, (s.fillPiece_fails_iff _).mpr ⟨_, rfl, Or.inl trips⟩⟩
    · exact ⟨_, slot, (s.fillPiece_fails_iff _).mpr ⟨_, rfl, Or.inr ⟨_, found, bad⟩⟩⟩

mutual

/-- A value at some depth that cannot be resolved: because of the limit, or within it because of
what it is. -/
inductive Unresolved (s : Store) (limit : Value) : Nat → Value → Prop where
  | limit {depth : Nat} {v : Value} {e : Fault} (kind : beyond limit depth = .error e) :
    Unresolved s limit depth v
  | untold {depth : Nat} {v : Value} (deep : beyond limit depth = .ok true)
    (long : limit.holdsLong = true) : Unresolved s limit depth v
  | within {depth : Nat} {v : Value} (within : beyond limit depth = .ok false)
    (hitch : Hitch s limit depth v) :
    Unresolved s limit depth v

/-- What keeps a value from being resolved within the limit: a text that cannot be filled, a
reference that is lost, or a part of the value. -/
inductive Hitch (s : Store) (limit : Value) : Nat → Value → Prop where
  | text {depth : Nat} {text : String} (unfilled : s.Unfilled text) :
    Hitch s limit depth (.str text)
  | reference {depth m : Nat} {es : List (Key × Value)} (lost : s.Lost (.map m es)) :
    Hitch s limit depth (.map m es)
  | entry {depth m : Nat} {es : List (Key × Value)} {e : Key × Value}
    (plain : (Value.map m es).isReference = false) (member : e ∈ es)
    (inner : Unresolved s limit (depth + 1) e.2) : Hitch s limit depth (.map m es)
  | item {depth m : Nat} {xs : List Value} {v : Value} (member : v ∈ xs)
    (inner : Unresolved s limit (depth + 1) v) : Hitch s limit depth (.list m xs)
  | pair {depth : Nat} {a b v : Value} (either : v = a ∨ v = b)
    (inner : Unresolved s limit (depth + 1) v) :
    Hitch s limit depth (.pair a b)

end

section

variable (s : Store) (limit : Value)

theorem withinLimit_fails_iff {depth : Nat} {v : Value} {x : Noted Value}
    (own : x.Fails ↔ s.Hitch limit depth v) :
    (withinLimit limit depth v x).Fails ↔ s.Unresolved limit depth v := by
  have unresolved : s.Unresolved limit depth v ↔ (∃ e, beyond limit depth = .error e) ∨
      (beyond limit depth = .ok true ∧ limit.holdsLong = true) ∨
          (beyond limit depth = .ok false ∧ s.Hitch limit depth v) := by
    constructor
    · rintro (⟨kind⟩ | ⟨deep, long⟩ | ⟨within, hitch⟩)
      · exact Or.inl ⟨_, kind⟩
      · exact Or.inr (Or.inl ⟨deep, long⟩)
      · exact Or.inr (Or.inr ⟨within, hitch⟩)
    · rintro (⟨e, kind⟩ | ⟨deep, long⟩ | ⟨within, hitch⟩)
      · exact .limit kind
      · exact .untold deep long
      · exact .within within hitch
  rw [withinLimit, fails_bind, fails_ofExcept, unresolved, ← own]
  cases known : beyond limit depth with
  | error e => simp
  | ok deep =>
    cases deep with
    | true =>
      have noted : (Noted.ofExcept limit.told).Fails ↔
          limit.holdsLong = true := Value.told_fails_iff limit
      simp [Noted.ofExcept] at noted
      simp [Noted.ofExcept, fails_bind, noted, Value.holdsLong]
    | false => simp [Noted.ofExcept]

theorem isReference_of_lost {m : Nat} {es : List (Key × Value)} (lost : s.Lost (.map m es)) :
    (Value.map m es).isReference = true := by
  obtain ⟨ref, -⟩ | ⟨ref, -, -⟩ := lost <;> simp [Value.isReference, Entries.contains, ref]

mutual

/-- The cases are those of the resolution, which goes through all parts of a value that is no
reference. -/
theorem resolveAll_fails_iff (depth : Nat) (v : Value) :
    (s.resolveAll limit depth v).Fails ↔ s.Unresolved limit depth v := by
  cases v with
  | str text =>
    refine withinLimit_fails_iff s limit ?_
    rw [fails_bind, fails_ofExcept, interpolate_fails_iff]
    simp only [not_fails_pure, and_false, exists_false, or_false]
    exact ⟨.text, fun | .text unfilled => unfilled⟩
  | map m es =>
    refine withinLimit_fails_iff s limit ?_
    cases reference : (Value.map m es).isReference with
    | true =>
      rw [if_pos rfl, resolve_fails_iff]
      refine ⟨.reference, ?_⟩
      rintro (_ | ⟨lost⟩ | ⟨plain, -, -⟩)
      · exact lost
      · rw [reference] at plain
        cases plain
    | false =>
      rw [if_neg (by simp), fails_bind, resolveEntries_fails_iff (depth + 1) es]
      simp only [not_fails_pure, and_false, exists_false, or_false]
      constructor
      · rintro ⟨e, member, inner⟩
        exact .entry reference member inner
      · rintro (_ | ⟨lost⟩ | ⟨-, member, inner⟩)
        · rw [isReference_of_lost s lost] at reference
          cases reference
        · exact ⟨_, member, inner⟩
  | list m xs =>
    refine withinLimit_fails_iff s limit ?_
    rw [fails_bind, resolveItems_fails_iff (depth + 1) xs]
    simp only [not_fails_pure, and_false, exists_false, or_false]
    exact ⟨fun ⟨v, member, inner⟩ => .item member inner,
      fun | .item member inner => ⟨_, member, inner⟩⟩
  | pair a b =>
    refine withinLimit_fails_iff s limit ?_
    have either : s.Hitch limit depth (.pair a b) ↔
        s.Unresolved limit (depth + 1) a ∨ s.Unresolved limit (depth + 1) b := by
      constructor
      · rintro (_ | _ | _ | _ | ⟨rfl | rfl, inner⟩)
        · exact Or.inl inner
        · exact Or.inr inner
      · rintro (inner | inner)
        · exact .pair (Or.inl rfl) inner
        · exact .pair (Or.inr rfl) inner
    rw [either, ← resolveAll_fails_iff (depth + 1) a,
      ← resolveAll_fails_iff (depth + 1) b, fails_bind]
    cases left : (s.resolveAll limit (depth + 1) a).result with
    | error e => exact iff_of_true (Or.inl ⟨e, left⟩) (Or.inl ⟨e, left⟩)
    | ok c => simp [fails_bind]
  | _ => exact withinLimit_fails_iff s limit (iff_of_false (not_fails_pure _) nofun)

theorem resolveItems_fails_iff (depth : Nat) (xs : List Value) :
    (s.resolveItems limit depth xs).Fails ↔ ∃ v ∈ xs, s.Unresolved limit depth v := by
  cases xs with
  | nil => simp [resolveItems]
  | cons x xs =>
    simp only [List.mem_cons, exists_eq_or_imp]
    rw [← resolveAll_fails_iff depth x, ← resolveItems_fails_iff depth xs, resolveItems, fails_bind]
    cases first : (s.resolveAll limit depth x).result with
    | error e => exact iff_of_true (Or.inl ⟨e, first⟩) (Or.inl ⟨e, first⟩)
    | ok y => simp [fails_bind]

theorem resolveEntries_fails_iff (depth : Nat) (es : List (Key × Value)) :
    (s.resolveEntries limit depth es).Fails ↔ ∃ e ∈ es, s.Unresolved limit depth e.2 := by
  cases es with
  | nil => simp [resolveEntries]
  | cons e es =>
    simp only [List.mem_cons, exists_eq_or_imp]
    rw [← resolveAll_fails_iff depth e.2, ← resolveEntries_fails_iff depth es,
      resolveEntries, fails_bind]
    cases first : (s.resolveAll limit depth e.2).result with
    | error fault => exact iff_of_true (Or.inl ⟨fault, first⟩) (Or.inl ⟨fault, first⟩)
    | ok w => simp [fails_bind]

end

end

/-- A value as far as a limit lets look into it, if it holds itself. -/
def unfolded (limit v : Value) : Value := if v.isCyclic then v.unroll (levels limit) else v

theorem resolveWhole_fails_iff (s : Store) (limit v : Value) :
    (s.resolveWhole limit v).Fails ↔ s.Unresolved limit 0 (unfolded limit v) :=
  resolveAll_fails_iff s limit 0 _

end Store

end SceneCourse
