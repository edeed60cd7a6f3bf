import SceneCourse.Proofs.LoadedCourse

/-! Where containers stand. Several holders may hold one container, but if it is in reach of a write
at all, then all of them reach it by the same path, counted from the top of the state. Proved: this
survives whatever is copied into a state, written into it and edited in it. So an edit of a
container changes no holder but at the container's place. -/

namespace SceneCourse

open Value (Edit)

/-- The marks given out, which are those below `next`, and the paths of texts at whose ends the
mappings with these marks stand. A container that no such path leads to has no place. -/
structure Sites where
  next : Nat
  place : Nat → Option (List String)

namespace Sites

/-- More marks are given out, and no container has moved. -/
structure Grown (σ τ : Sites) : Prop where
  next : σ.next ≤ τ.next
  place : ∀ m < σ.next, τ.place m = σ.place m

/-- The mark was given to a container that stands at this place. -/
structure Given (σ : Sites) (at_ : Option (List String)) (m : Nat) : Prop where
  positive : 0 < m
  given : m < σ.next
  place : σ.place m = at_

/-- The containers that are made next stand where `f` tells. -/
def extend (σ : Sites) (next : Nat) (f : Nat → Option (List String)) : Sites :=
  ⟨next, fun m => if m < σ.next then σ.place m else f m⟩

theorem grown_extend (σ : Sites) {next : Nat} (later : σ.next ≤ next)
    (f : Nat → Option (List String)) :
    σ.Grown (σ.extend next f) := ⟨later, fun _ given => if_pos given⟩

theorem place_extend (σ : Sites) {next m : Nat} (f : Nat → Option (List String))
    (new : σ.next ≤ m) : (σ.extend next f).place m = f m := if_neg (Nat.not_lt.2 new)

theorem Grown.refl (σ : Sites) : σ.Grown σ := ⟨Nat.le_refl _, fun _ _ => rfl⟩

theorem Grown.trans {σ τ υ : Sites} (h : σ.Grown τ) (k : τ.Grown υ) : σ.Grown υ :=
  ⟨Nat.le_trans h.next k.next, fun m given => (k.place m (Nat.lt_of_lt_of_le given h.next)).trans
    (h.place m given)⟩

theorem Given.mono {σ τ : Sites} {at_ : Option (List String)} {m : Nat} (h : σ.Given at_ m)
    (grown : σ.Grown τ) : τ.Given at_ m :=
  ⟨h.positive, Nat.lt_of_lt_of_le h.given grown.next, (grown.place m h.given).trans h.place⟩

end Sites

/-- The place of an entry. The second of two entries under one text is out of reach, as is what has
no text for a key. -/
def Key.below (at_ : Option (List String)) (seen : List String) : Key → Option (List String)
  | .str s => if s ∈ seen then none else at_.map (· ++ [s])
  | _ => none

def Key.noted (seen : List String) : Key → List String
  | .str s => s :: seen
  | _ => seen

theorem Key.below_eq_some {at_ : Option (List String)} {seen : List String} {k : Key}
    {q : List String} (h : k.below at_ seen = some q) :
    ∃ p s, at_ = some p ∧ k = .str s ∧ s ∉ seen ∧ q = p ++ [s] := by
  cases k with
  | str s =>
    rw [below] at h
    split at h
    next => cases h
    next new =>
      obtain ⟨p, rfl, rfl⟩ := Option.map_eq_some_iff.1 h
      exact ⟨p, s, rfl, rfl, new, rfl⟩
  | _ => cases h

theorem Key.below_of_same {at_ : Option (List String)} {seen : List String} {k l : Key}
    (same : l.same k = true) : l.below at_ seen = k.below at_ seen := by
  cases k with
  | str s =>
    obtain rfl := Key.same_str_iff.1 same
    rfl
  | _ => cases l <;> first | rfl | simp [Key.same, Key.number?] at same

theorem Key.below_noted {at_ : Option (List String)} {seen : List String} {k l : Key}
    (other : ¬l.same k = true) : k.below at_ (l.noted seen) = k.below at_ seen := by
  cases k with
  | str s =>
    cases l with
    | str t =>
      have apart : s ≠ t := fun same => other (same ▸ beq_self_eq_true s)
      simp [noted, below, apart]
    | _ => rfl
  | _ => rfl

namespace Value

mutual

/-- A value at a place, all of whose containers stand where they stand. -/
def Sited (σ : Sites) : Option (List String) → Value → Prop
  | _, pair a b => Sited σ none a ∧ Sited σ none b
  | _, list m xs => σ.Given none m ∧ SitedItems σ xs
  | at_, map m es => σ.Given at_ m ∧ SitedEntries σ at_ [] es
  | _, _ => True

/-- Items of a list are out of reach. -/
def SitedItems (σ : Sites) : List Value → Prop
  | [] => True
  | x :: xs => Sited σ none x ∧ SitedItems σ xs

/-- Entries of a mapping at a place, behind others with certain texts for keys. -/
def SitedEntries (σ : Sites) (at_ : Option (List String)) : List String → List (Key × Value) → Prop
  | _, [] => True
  | seen, (k, v) :: es => Sited σ (k.below at_ seen) v ∧ SitedEntries σ at_ (k.noted seen) es

end

variable {σ τ : Sites} {at_ : Option (List String)} {seen p q : List String} {v w : Value} {m : Nat}
  {es : List (Key × Value)} {s : String} {e : Edit}

mutual

theorem Sited.mono (grown : σ.Grown τ) (at_ : Option (List String)) (v : Value)
    (h : Sited σ at_ v) : Sited τ at_ v := by
  cases v with
  | pair a b => exact ⟨Sited.mono grown none a h.1, Sited.mono grown none b h.2⟩
  | list m xs => exact ⟨h.1.mono grown, SitedItems.mono grown xs h.2⟩
  | map m es => exact ⟨h.1.mono grown, SitedEntries.mono grown at_ [] es h.2⟩
  | _ => trivial

theorem SitedItems.mono (grown : σ.Grown τ) (xs : List Value) (h : SitedItems σ xs) :
    SitedItems τ xs := by
  cases xs with
  | nil => trivial
  | cons x xs => exact ⟨Sited.mono grown none x h.1, SitedItems.mono grown xs h.2⟩

theorem SitedEntries.mono (grown : σ.Grown τ) (at_ : Option (List String)) (seen : List String)
    (es : List (Key × Value)) (h : SitedEntries σ at_ seen es) : SitedEntries τ at_ seen es := by
  cases es with
  | nil => trivial
  | cons e es => exact ⟨Sited.mono grown _ e.2 h.1, SitedEntries.mono grown at_ _ es h.2⟩

end

mutual

/-- A container with a place is in no value but at or above its place. -/
theorem Sited.prefix_of_mem (at_ : Option (List String)) (v : Value) (h : Sited σ at_ v)
    (inside : m ∈ marks v) (place : σ.place m = some q) : ∃ p, at_ = some p ∧ p <+: q := by
  cases v with
  | pair a b =>
    rcases List.mem_append.1 inside with left | right
    · obtain ⟨_, none, -⟩ := Sited.prefix_of_mem none a h.1 left place
      cases none
    · obtain ⟨_, none, -⟩ := Sited.prefix_of_mem none b h.2 right place
      cases none
  | list n xs =>
    rcases List.mem_cons.1 inside with rfl | inner
    · rw [h.1.place] at place
      cases place
    · exact (SitedItems.not_mem xs h.2 inner place).elim
  | map n es =>
    rcases List.mem_cons.1 inside with rfl | inner
    · exact ⟨q, h.1.place.symm.trans place, List.prefix_refl q⟩
    · obtain ⟨p, s, r, rfl, -, rfl⟩ := SitedEntries.prefix_of_mem at_ [] es h.2 inner place
      exact ⟨p, rfl, List.prefix_append _ _⟩
  | _ => cases inside

theorem SitedItems.not_mem (xs : List Value) (h : SitedItems σ xs) (inside : m ∈ marksItems xs)
    (place : σ.place m = some q) : False := by
  cases xs with
  | nil => cases inside
  | cons x xs =>
    rcases List.mem_append.1 inside with here | later
    · obtain ⟨_, none, -⟩ := Sited.prefix_of_mem none x h.1 here place
      cases none
    · exact SitedItems.not_mem xs h.2 later place

theorem SitedEntries.prefix_of_mem (at_ : Option (List String)) (seen : List String)
    (es : List (Key × Value)) (h : SitedEntries σ at_ seen es) (inside : m ∈ marksEntries es)
    (place : σ.place m = some q) : ∃ p s r, at_ = some p ∧ s ∉ seen ∧ q = p ++ s :: r := by
  cases es with
  | nil => cases inside
  | cons e es =>
    obtain ⟨k, v⟩ := e
    rcases List.mem_append.1 inside with here | later
    · obtain ⟨p', below, r, rfl⟩ := Sited.prefix_of_mem _ v h.1 here place
      obtain ⟨p, s, rfl, -, new, rfl⟩ := Key.below_eq_some below
      exact ⟨p, s, r, rfl, new, by simp⟩
    · obtain ⟨p, s, r, rfl, new, rfl⟩ := SitedEntries.prefix_of_mem at_ _ es h.2 later place
      refine ⟨p, s, r, rfl, fun old => new ?_, rfl⟩
      cases k with
      | str t => exact List.mem_cons_of_mem t old
      | _ => exact old

end

theorem SitedEntries.child (h : SitedEntries σ (some p) seen es)
    (found : Entries.get? (.str s) es = some v) (new : s ∉ seen) : Sited σ (some (p ++ [s])) v := by
  induction es generalizing seen with
  | nil => cases found
  | cons e es ih =>
    obtain ⟨k, u⟩ := e
    rw [Entries.get?] at found
    split at found
    next same =>
      obtain rfl := Key.same_str_iff.1 same
      obtain rfl := Option.some.inj found
      have here := h.1
      rwa [Key.below, if_neg new] at here
    next other =>
      refine ih h.2 found fun old => ?_
      cases k with
      | str t =>
        rcases List.mem_cons.1 old with rfl | old
        · exact other (beq_self_eq_true s)
        · exact new old
      | _ => exact new old

theorem SitedEntries.set (h : SitedEntries σ at_ seen es) {k : Key}
    (value : Sited σ (k.below at_ seen) v) : SitedEntries σ at_ seen (Entries.set k v es) := by
  induction es generalizing seen with
  | nil => exact ⟨value, trivial⟩
  | cons e es ih =>
    obtain ⟨l, u⟩ := e
    rw [Entries.set]
    split
    next same => exact ⟨by rwa [Key.below_of_same same], h.2⟩
    next other => exact ⟨h.1, ih h.2 (by rwa [Key.below_noted other])⟩

theorem SitedEntries.set_str (h : SitedEntries σ (some p) [] es)
    (value : Sited σ (some (p ++ [s])) v) :
    SitedEntries σ (some p) [] (Entries.set (.str s) v es) := h.set value

theorem SitedEntries.setAll (h : SitedEntries σ at_ [] es) {news : List (Key × Value)}
    (values : ∀ e ∈ news, Sited σ (e.1.below at_ []) e.2) :
    SitedEntries σ at_ [] (Entries.setAll news es) := by
  induction news generalizing es with
  | nil => exact h
  | cons e news ih =>
    exact ih (h.set (values e List.mem_cons_self)) fun f later =>
      values f (List.mem_cons_of_mem e later)

/-! ### Edits -/

/-- An edit of the whole state, which nobody else holds, or of a container with a place, that is put
back in its place. -/
def Edit.InPlace (σ : Sites) (e : Edit) : Prop :=
  e.mark ≠ 0 → ∃ q, σ.Given (some q) e.mark ∧ Value.Sited σ (some q) e.now

/-- An edit leaves alone whatever does not stand at or above its place. -/
theorem Sited.follow_eq_self (h : Sited σ at_ v) (place : σ.place e.mark = some q)
    (apart : ∀ p, at_ = some p → ¬p <+: q) : follow e v = v := by
  refine Value.follow_eq_self e v fun inside => ?_
  obtain ⟨p, here, above⟩ := h.prefix_of_mem at_ v inside place
  exact absurd above (apart p here)

mutual

/-- After an edit everything still stands where it stands. -/
theorem Sited.follow (place : σ.place e.mark = some q) (now : Sited σ (some q) e.now)
    (at_ : Option (List String)) (v : Value) (h : Sited σ at_ v) : Sited σ at_ (follow e v) := by
  cases v with
  | pair a b => exact ⟨Sited.follow place now none a h.1, Sited.follow place now none b h.2⟩
  | list m xs =>
    rw [Value.follow]
    split
    next edited =>
      rw [← edited.1, h.1.place] at place
      cases place
    next => exact ⟨h.1, SitedItems.follow place now xs h.2⟩
  | map m es =>
    rw [Value.follow]
    split
    next edited =>
      rw [← edited.1, h.1.place] at place
      rwa [place]
    next => exact ⟨h.1, SitedEntries.follow place now at_ [] es h.2⟩
  | _ => trivial

theorem SitedItems.follow (place : σ.place e.mark = some q) (now : Sited σ (some q) e.now)
    (xs : List Value) (h : SitedItems σ xs) : SitedItems σ (followItems e xs) := by
  cases xs with
  | nil => trivial
  | cons x xs => exact ⟨Sited.follow place now none x h.1, SitedItems.follow place now xs h.2⟩

theorem SitedEntries.follow (place : σ.place e.mark = some q) (now : Sited σ (some q) e.now)
    (at_ : Option (List String)) (seen : List String) (es : List (Key × Value))
    (h : SitedEntries σ at_ seen es) : SitedEntries σ at_ seen (followEntries e es) := by
  cases es with
  | nil => trivial
  | cons f es =>
    exact ⟨Sited.follow place now _ f.2 h.1, SitedEntries.follow place now at_ _ es h.2⟩

end

theorem Edit.InPlace.follow (edit : Edit.InPlace σ e) (h : Sited σ at_ v) :
    Sited σ at_ (follow e v) := by
  by_cases whole : e.mark = 0
  · rwa [Value.follow_eq_self e v fun _ => whole]
  · obtain ⟨q, given, now⟩ := edit whole
    exact Sited.follow given.place now at_ v h

theorem Edit.InPlace.mono (edit : Edit.InPlace σ e) (grown : σ.Grown τ) : Edit.InPlace τ e :=
  fun whole => by
  obtain ⟨q, given, now⟩ := edit whole
  exact ⟨q, given.mono grown, now.mono grown _ _⟩

theorem Edit.InPlace.followAll {edits : List Edit} (edited : ∀ e ∈ edits, Edit.InPlace σ e)
    (h : Sited σ at_ v) : Sited σ at_ (followAll edits v) := by
  induction edits generalizing v with
  | nil => exact h
  | cons e edits ih =>
    exact ih (fun f later => edited f (List.mem_cons_of_mem e later))
      ((edited e List.mem_cons_self).follow h)

/-- An edit below one entry changes that entry. -/
theorem SitedEntries.followEntries_eq_set (h : SitedEntries σ (some p) seen es)
    (place : σ.place e.mark = some (p ++ s :: q)) (new : s ∉ seen)
    (found : Entries.get? (.str s) es = some v) :
    followEntries e es = Entries.set (.str s) (Value.follow e v) es := by
  induction es generalizing seen with
  | nil => cases found
  | cons f es ih =>
    obtain ⟨k, u⟩ := f
    rw [Entries.get?] at found
    rw [followEntries, Entries.set]
    split at found
    next same =>
      obtain rfl := Key.same_str_iff.1 same
      obtain rfl := Option.some.inj found
      -- behind the entry the text is a key that was seen
      have rest : e.mark ∉ marksEntries es := fun inside => by
        obtain ⟨p', s', r, is, new', split⟩ := h.2.prefix_of_mem (some p) _ es inside place
        obtain rfl := Option.some.inj is
        obtain ⟨rfl, -⟩ := List.cons.inj (List.append_cancel_left split)
        exact new' List.mem_cons_self
      rw [if_pos same, followEntries_eq_self e es fun inside => absurd inside rest]
    next other =>
      have here : Value.follow e u = u := by
        refine h.1.follow_eq_self place fun p' below above => ?_
        obtain ⟨p'', t, is, rfl, -, rfl⟩ := Key.below_eq_some below
        obtain rfl := Option.some.inj is
        obtain ⟨rfl, -⟩ := List.cons_prefix_cons.1 ((List.prefix_append_right_inj p).1 above)
        exact other (beq_self_eq_true _)
      have new' : s ∉ k.noted seen := by
        cases k with
        | str t =>
          rintro (_ | ⟨_, old⟩)
          · exact other (beq_self_eq_true s)
          · exact new old
        | _ => exact new
      rw [if_neg other, here, ih h.2 new' found]

/-! ### Copies -/

end Value

/-- The containers with marks from one number up to another stand where `f` tells. -/
structure Sites.Follows (τ : Sites) (f : Nat → Option (List String)) (first last : Nat) : Prop where
  given : last ≤ τ.next
  place : ∀ m, first ≤ m → m < last → τ.place m = f m

/-- Told by one function up to a mark, and by another from there on. -/
def Sites.joined (mid : Nat) (f g : Nat → Option (List String)) (m : Nat) : Option (List String) :=
  if m < mid then f m else g m

theorem Sites.Follows.left {τ : Sites} {f g : Nat → Option (List String)} {first mid last : Nat}
    (h : τ.Follows (joined mid f g) first last) (within : mid ≤ last) : τ.Follows f first mid :=
  ⟨Nat.le_trans within h.given, fun m after before =>
    (h.place m after (Nat.lt_of_lt_of_le before within)).trans (if_pos before)⟩

theorem Sites.Follows.right {τ : Sites} {f g : Nat → Option (List String)} {first mid last : Nat}
    (h : τ.Follows (joined mid f g) first last) (within : first ≤ mid) : τ.Follows g mid last :=
  ⟨h.given, fun m after before => (h.place m (Nat.le_trans within after) before).trans
    (if_neg (Nat.not_lt.2 after))⟩

theorem Sites.follows_extend (σ : Sites) (f : Nat → Option (List String)) (next : Nat) :
    (σ.extend next f).Follows f σ.next next := ⟨Nat.le_refl _, fun _ new _ => σ.place_extend f new⟩

namespace Value

variable {τ : Sites}

mutual

/-- The containers of a copy can be made at any place. -/
theorem exists_sited_copy {next : Nat} (positive : 0 < next) (at_ : Option (List String))
    (v : Value) :
    ∃ f, ∀ τ : Sites, τ.Follows f next (copy next v).2 → Sited τ at_ (copy next v).1 := by
  cases v with
  | float x => refine ⟨fun _ => none, fun τ _ => ?_⟩; unfold copy; split <;> trivial
  | pair a b =>
    have first := (marks_copy next a).1
    have second := (marks_copy (copy next a).2 b).1
    obtain ⟨f, left⟩ := exists_sited_copy positive none a
    obtain ⟨g, right⟩ := exists_sited_copy (Nat.lt_of_lt_of_le positive first) none b
    exact ⟨Sites.joined (copy next a).2 f g,
      fun τ made => ⟨left τ (made.left second), right τ (made.right first)⟩⟩
  | list m xs =>
    have inner := (marks_copyItems (next + 1) xs).1
    obtain ⟨f, items⟩ := exists_sited_copyItems (Nat.succ_pos next) xs
    refine ⟨Sites.joined (next + 1) (fun _ => none) f, fun τ made => ⟨⟨positive, ?_, ?_⟩, ?_⟩⟩
    · exact Nat.lt_of_lt_of_le (Nat.lt_of_succ_le inner) made.given
    · exact (made.left inner).place next (Nat.le_refl _) (Nat.lt_succ_self _)
    · exact items τ (made.right (Nat.le_succ next))
  | map m es =>
    have inner := (marks_copyEntries (next + 1) es).1
    obtain ⟨f, entries⟩ := exists_sited_copyEntries (Nat.succ_pos next) at_ [] es
    refine ⟨Sites.joined (next + 1) (fun _ => at_) f, fun τ made => ⟨⟨positive, ?_, ?_⟩, ?_⟩⟩
    · exact Nat.lt_of_lt_of_le (Nat.lt_of_succ_le inner) made.given
    · exact (made.left inner).place next (Nat.le_refl _) (Nat.lt_succ_self _)
    · exact entries τ (made.right (Nat.le_succ next))
  | _ => exact ⟨fun _ => none, fun τ _ => trivial⟩

theorem exists_sited_copyItems {next : Nat} (positive : 0 < next) (xs : List Value) :
    ∃ f, ∀ τ : Sites, τ.Follows f next (copyItems next xs).2 → SitedItems τ
      (copyItems next xs).1 := by
  cases xs with
  | nil => exact ⟨fun _ => none, fun _ _ => trivial⟩
  | cons x xs =>
    have first := (marks_copy next x).1
    have others := (marks_copyItems (copy next x).2 xs).1
    obtain ⟨f, here⟩ := exists_sited_copy positive none x
    obtain ⟨g, later⟩ := exists_sited_copyItems (Nat.lt_of_lt_of_le positive first) xs
    exact ⟨Sites.joined (copy next x).2 f g,
      fun τ made => ⟨here τ (made.left others), later τ (made.right first)⟩⟩

theorem exists_sited_copyEntries {next : Nat} (positive : 0 < next) (at_ : Option (List String))
    (seen : List String) (es : List (Key × Value)) :
    ∃ f, ∀ τ : Sites, τ.Follows f next (copyEntries next es).2 → SitedEntries τ at_ seen
      (copyEntries next es).1 := by
  cases es with
  | nil => exact ⟨fun _ => none, fun _ _ => trivial⟩
  | cons e es =>
    obtain ⟨k, v⟩ := e
    have key := Key.next_le_copy next k
    have first := (marks_copy (k.copy next).2 v).1
    have others := (marks_copyEntries (copy (k.copy next).2 v).2 es).1
    have positive' := Nat.lt_of_lt_of_le positive key
    obtain ⟨f, here⟩ := exists_sited_copy positive' ((k.copy next).1.below at_ seen) v
    obtain ⟨g, later⟩ := exists_sited_copyEntries (Nat.lt_of_lt_of_le positive' first) at_
      ((k.copy next).1.noted seen) es
    refine ⟨Sites.joined (copy (k.copy next).2 v).2 f g, fun τ made => ⟨here τ ?_, later τ ?_⟩⟩
    · exact ⟨(made.left others).given, fun m after => (made.left others).place m
        (Nat.le_trans key after)⟩
    · exact made.right (Nat.le_trans key first)

end

/-- Copies of entries that are written one by one can be made where each of them is written. -/
theorem exists_sited_copyEach {next : Nat} (positive : 0 < next) (at_ : Option (List String))
    (es : List (Key × Value)) :
    ∃ f, ∀ τ : Sites, τ.Follows f next (copyEntries next es).2 →
      ∀ e ∈ (copyEntries next es).1, Sited τ (e.1.below at_ []) e.2 := by
  induction es generalizing next with
  | nil => exact ⟨fun _ => none, fun _ _ e member => absurd member List.not_mem_nil⟩
  | cons e es ih =>
    obtain ⟨k, v⟩ := e
    have key := Key.next_le_copy next k
    have first := (marks_copy (k.copy next).2 v).1
    have others := (marks_copyEntries (copy (k.copy next).2 v).2 es).1
    have positive' := Nat.lt_of_lt_of_le positive key
    obtain ⟨f, here⟩ := exists_sited_copy positive' ((k.copy next).1.below at_ []) v
    obtain ⟨g, later⟩ := ih (Nat.lt_of_lt_of_le positive' first)
    refine ⟨Sites.joined (copy (k.copy next).2 v).2 f g, fun τ made e member => ?_⟩
    rcases List.mem_cons.1 member with rfl | rest
    · exact here τ ⟨(made.left others).given,
        fun m after => (made.left others).place m (Nat.le_trans key after)⟩
    · exact later τ (made.right (Nat.le_trans key first)) e rest

end Value

end SceneCourse
