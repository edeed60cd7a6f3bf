import SceneCourse.Proofs.ClearStore

/-! Where containers of one kind stand in a state. Values of the kind are written at places, and
mappings of the kind stand at or below these places only, until another value takes the place; a
mapping that is made on the way inside of one of them belongs to the kind from then on. -/

namespace SceneCourse

open Value (Edit)

namespace Store

open Value

theorem mem_marks_nest {next : Nat} {segs : List String} {v : Value} {m : Nat}
    (h : m ∈ marks (nest next segs v)) : next ≤ m ∧ m < next + segs.length ∨ m ∈ marks v := by
  induction segs generalizing next with
  | nil => exact Or.inr h
  | cons s rest ih =>
    simp only [nest, marks, marksEntries, List.append_nil, List.mem_cons] at h
    rw [List.length_cons]
    rcases h with rfl | inner
    · exact Or.inl (by omega)
    · exact (ih inner).imp_left fun new => by omega

theorem mem_marks_write {next mark : Nat} {es : List (Key × Value)} {segs : List String} {v : Value}
    {m : Nat} (h : m ∈ marksEntries (write next mark es segs v).1) :
    m ∈ marksEntries es ∨ next ≤ m ∧ m < next + segs.length ∨ m ∈ marks v := by
  induction segs generalizing mark es with
  | nil => exact Or.inl h
  | cons s rest ih =>
    rw [List.length_cons]
    rcases write_cons next mark es s rest v with ⟨n, fs, -, found, written⟩ | ⟨-, written⟩
    · have inside : marks (.map n fs) ⊆ marksEntries es := marks_subset_of_get? found
      rw [written] at h
      rcases mem_marksEntries_set h with child | old
      · rcases List.mem_cons.1 child with rfl | deeper
        · exact Or.inl (inside List.mem_cons_self)
        · rcases ih deeper with old | new | value
          · exact Or.inl (inside (List.mem_cons_of_mem n old))
          · exact Or.inr (Or.inl (by omega))
          · exact Or.inr (Or.inr value)
      · exact Or.inl old
    · rw [written] at h
      rcases mem_marksEntries_set h with nested | old
      · rcases mem_marks_nest nested with new | value
        · exact Or.inr (Or.inl (by omega))
        · exact Or.inr (Or.inr value)
      · exact Or.inl old

theorem under_nest_cases {next : Nat} {segs path : List String} {v : Value} {m : Nat}
    {fs : List (Key × Value)} (h : under (nest next segs v) path = some (.map m fs)) :
    (∃ rest, path = segs ++ rest ∧ under v rest = some (.map m fs)) ∨ next ≤ m := by
  induction segs generalizing next path with
  | nil => exact Or.inl ⟨path, rfl, h⟩
  | cons s segs ih =>
    cases path with
    | nil =>
      obtain ⟨rfl, rfl⟩ := Value.map.inj (Option.some.inj h)
      exact Or.inr (Nat.le_refl _)
    | cons p path =>
      by_cases same : s = p
      · subst same
        have inner : under (nest (next + 1) segs v) path =
            some (.map m fs) := by simpa [nest, under, Entries.get?] using h
        rcases ih inner with ⟨rest, rfl, there⟩ | new
        · exact Or.inl ⟨rest, rfl, there⟩
        · exact Or.inr (by omega)
      · have none : under (nest next (s :: segs) v) (p :: path) = none :=
          under_set_of_ne next [] same (nest (next + 1) segs v) path
        rw [none] at h
        cases h

/-- The mapping that a write edits stands where what is put in its place stands afterwards. -/
theorem edit_stands (next mark : Nat) (es : List (Key × Value)) (segs : List String) (v : Value) :
    ∃ path gs, under (.map mark es) path = some (.map (write next mark es segs v).2.mark gs) ∧
      under (.map mark (write next mark es segs v).1) path = some
        (write next mark es segs v).2.now := by
  induction segs generalizing mark es with
  | nil => exact ⟨[], es, rfl, rfl⟩
  | cons s rest ih =>
    rcases write_cons next mark es s rest v with ⟨n, fs, -, found, written⟩ | ⟨-, written⟩
    · obtain ⟨path, gs, before, behind⟩ := ih n fs
      rw [written]
      refine ⟨s :: path, gs, ?_, ?_⟩
      · rw [under, found]
        exact before
      · rw [under_set_self]
        exact behind
    · rw [written]
      exact ⟨[], es, rfl, rfl⟩

/-- The mappings of one kind, below a value that stands at some place, stand at or below certain
places, and hold no other containers than those of the kind. -/
def Placed (D : Nat → Prop) (places : List String → Prop) (base : List String) (v : Value) : Prop :=
  ∀ path m fs, under v path = some (.map m fs) → D m →
    (∃ l, places l ∧ l <+: base ++ path) ∧ ∀ k ∈ marksEntries fs, D k

/-- What is left of some places when a value is written at a path. -/
def Replaced (places : List String → Prop) (path : List String) (v : Value) (l : List String) :
    Prop :=
  l = path ∧ v.isMapping = true ∨ places l ∧ ¬path <+: l

/-- The marks of one kind, and those given out from `next` on if the mapping with a certain mark is
of the kind. -/
def Extended (D : Nat → Prop) (edited next next' : Nat) (m : Nat) : Prop :=
  D m ∨ D edited ∧ next ≤ m ∧ m < next'

section

variable {D : Nat → Prop} {places : List String → Prop} {base : List String} {next next' mark : Nat}
  {es : List (Key × Value)} {s : String} {segs rest : List String} {v : Value}

theorem Placed.here (h : Placed D places base (.map mark es)) (kind : D mark) :
    (∃ l, places l ∧ l <+: base) ∧ ∀ k ∈ marksEntries es, D k := by
  obtain ⟨⟨l, taken, above⟩, inner⟩ := h [] mark es rfl kind
  rw [List.append_nil] at above
  exact ⟨⟨l, taken, above⟩, inner⟩

theorem Placed.child (h : Placed D places base (.map mark es))
    (found : Entries.get? (.str s) es = some v) : Placed D places (base ++ [s]) v := by
  intro path m fs there kind
  have outer := h (s :: path) m fs (by rw [under, found]; exact there) kind
  rwa [List.append_assoc]

/-- Places at or above the base of a write stay. -/
theorem Replaced.above {l : List String} (taken : places l) (above : l <+: base) :
    Replaced places (base ++ s :: rest) v l := by
  refine Or.inr ⟨taken, fun deeper => ?_⟩
  have := (deeper.trans above).length_le
  rw [List.length_append, List.length_cons] at this
  omega

/-- A write below a mapping of the kind edits a mapping of the kind. -/
theorem Placed.edited (h : Placed D places base (.map mark es)) (kind : D mark) (next : Nat)
    (segs : List String) (v : Value) : D (write next mark es segs v).2.mark := by
  obtain ⟨path, gs, before, -⟩ := edit_stands next mark es segs v
  rcases List.mem_cons.1 (marks_under before List.mem_cons_self) with same | deeper
  · rw [same]
    exact kind
  · exact (h.here kind).2 _ deeper

/-- A mapping in what a write puts under new mappings is one of the value, or is new. -/
theorem placed_nest (given : ∀ m, D m → m < next) (enough : next + rest.length ≤ next')
    (value : ∀ k ∈ marks v, D k) (h : Placed D places base (.map mark es)) {path : List String}
    {m : Nat} {fs : List (Key × Value)} (there : under (nest next rest v) path = some (.map m fs))
    (kind : Extended D mark next next' m) :
    (∃ l, Replaced places (base ++ s :: rest) v l ∧ l <+: base ++ s :: path) ∧
      ∀ k ∈ marksEntries fs, Extended D mark next next' k := by
  rcases under_nest_cases there with ⟨rest', rfl, below⟩ | new
  · obtain ⟨_, _, rfl⟩ := exists_map_of_under below
    refine ⟨⟨base ++ s :: rest, Or.inl ⟨rfl, rfl⟩, by simp⟩, fun k hk => ?_⟩
    exact Or.inl (value k (marks_under below (List.mem_cons_of_mem m hk)))
  · have edited : D mark := by
      rcases kind with old | ⟨edited, -⟩
      · have := given m old
        omega
      · exact edited
    obtain ⟨⟨l, taken, above⟩, -⟩ := h.here edited
    refine ⟨⟨l, .above taken above, above.trans (List.prefix_append _ _)⟩, fun k hk => ?_⟩
    rcases mem_marks_nest (marks_under there (List.mem_cons_of_mem m hk)) with new | value'
    · exact Or.inr ⟨edited, by omega⟩
    · exact Or.inl (value k value')

/-- When a value of the kind is written, mappings of the kind stand at or below the places that are
not replaced, and at or below the path of the write. -/
theorem placed_write (long : segs ≠ []) (enough : next + segs.length ≤ next')
    (given : ∀ m, D m → m < next) (held : Confined (· < next) (.map mark es))
    (value : ∀ k ∈ marks v, D k) (h : Placed D places base (.map mark es)) :
    Placed (Extended D (write next mark es segs v).2.mark next next')
    (Replaced places (base ++ segs) v) base
      (.map mark (write next mark es segs v).1) := by
  induction segs generalizing mark es base with
  | nil => exact absurd rfl long
  | cons s rest ih =>
    -- a mapping that was there before is of the kind already
    have known {m : Nat} (before : m < next)
        (kind : Extended D (write next mark es (s :: rest) v).2.mark next next' m) :
        D m := kind.resolve_right fun new => by omega
    intro path m fs there kind
    cases path with
    | nil =>
      obtain ⟨rfl, rfl⟩ := Value.map.inj (Option.some.inj there)
      have kind' := known held.mark kind
      obtain ⟨⟨l, taken, above⟩, inner⟩ := h.here kind'
      refine ⟨⟨l, .above taken above, above.trans (List.prefix_append _ _)⟩, fun k hk => ?_⟩
      rcases mem_marks_write hk with old | new | value'
      · exact Or.inl (inner k old)
      · exact Or.inr ⟨h.edited kind' next (s :: rest) v, by omega⟩
      · exact Or.inl (value k value')
    | cons p path =>
      by_cases same : s = p
      · subst same
        rw [List.length_cons] at enough
        rcases write_cons next mark es s rest v with ⟨n, gs, more, found, written⟩ | ⟨-, written⟩
        · rw [written] at kind ⊢
          rw [written, under_set_self] at there
          have inner := ih more (by omega) (held.entries s _ found)
            (h.child found) path m fs there kind
          simpa [List.append_assoc] using inner
        · rw [written] at kind ⊢
          rw [written, under_set_self] at there
          exact placed_nest given (by omega) value h there kind
      · rw [under_write_of_ne _ _ _ same] at there
        obtain ⟨⟨l, taken, above⟩, inner⟩ :=
          h (p :: path) m fs there (known (held _ _ _ there) kind)
        refine ⟨⟨l, Or.inr ⟨taken, fun deeper => same ?_⟩, above⟩, fun k hk => Or.inl (inner k hk)⟩
        exact (List.cons_prefix_cons.1
          ((List.prefix_append_right_inj base).1 (deeper.trans above))).1

end

/-- A store in which the mappings of one kind stand at or below certain places only. -/
structure Planted (D : Nat → Prop) (places : List String → Prop) (s : Store) : Prop where
  unshared : s.shared = false
  given : ∀ m, D m → 0 < m ∧ m < s.next
  held : ConfinedIn (· < s.next) s.tiers
  placed : Placed D places [] s.root

theorem Clear.planted {n : Nat} {D : List Nat} {s : Store} (h : Clear n D s) :
    Planted (· ∈ D) (fun _ => False) s := by
  refine ⟨h.unshared, fun m hm => ?_, h.apart.mono fun m hm => hm.1,
    fun path m fs there inside => ?_⟩
  · have := h.below m hm
    have := h.grown
    omega
  · cases path with
    | nil =>
      obtain ⟨rfl, rfl⟩ := Value.map.inj (Option.some.inj there)
      have := (h.below 0 inside).1
      omega
    | cons p path =>
      obtain ⟨v, found, below⟩ := Option.bind_eq_some_iff.1 there
      exact absurd inside (h.apart p v found path m fs below).2

/-- Where the mappings of the kind stand nowhere, the store is clear of them. -/
theorem Planted.clear {D : Nat → Prop} {places : List String → Prop} {s : Store}
    (h : Planted D places s) (nowhere : ∀ l, ¬places l) {marks : List Nat}
    (inside : ∀ m ∈ marks, D m) : Clear s.next marks s := by
  refine ⟨h.unshared, Nat.le_refl _, fun m hm => h.given m (inside m hm),
    fun p v found path m fs there => ?_⟩
  refine ⟨h.held p v found path m fs there, fun hm => ?_⟩
  have standing : under s.root (p :: path) = some (.map m fs) := by
    rw [root, under, found]
    exact there
  obtain ⟨⟨l, taken, -⟩, -⟩ := h.placed (p :: path) m fs standing (inside m hm)
  exact nowhere l taken

/-- A value of the kind is written, and the kind grows by the containers that the edit brings in. -/
theorem Planted.set {D : Nat → Prop} {places : List String → Prop} {s : Store}
    (h : Planted D places s) (path : String) {v : Value} (value : ∀ k ∈ marks v, D k) :
    ∃ D' e, Planted D' (Replaced places (segments path) v) (s.set path v).1 ∧
      (s.set path v).2 = [e] ∧
      (∃ gs, e.now = .map e.mark gs) ∧ (∀ m, D m → D' m) ∧
      (D e.mark → ∀ k ∈ marks e.now, D' k) := by
  have grown : s.next ≤ s.next + (segments path).length := Nat.le_add_right _ _
  obtain ⟨place, gs, -, behind⟩ := edit_stands s.next 0 s.tiers (segments path) v
  obtain ⟨now, edited⟩ := now_write s.next 0 s.tiers (segments path) v
  have placed : Placed (Extended D (write s.next 0 s.tiers (segments path) v).2.mark s.next
      (s.next + (segments path).length))
      (Replaced places (segments path) v) []
          (.map 0 (write s.next 0 s.tiers (segments path) v).1) := by
    by_cases some : ∃ m, D m
    · obtain ⟨m, hm⟩ := some
      have := h.given m hm
      refine placed_write (segments_ne_nil path) (Nat.le_refl _)
        (fun m hm => (h.given m hm).2) ?_ value h.placed
      exact .map (by omega) h.held
    · rintro place m fs there (hm | ⟨hm, -⟩)
      · exact absurd ⟨m, hm⟩ some
      · exact absurd ⟨_, hm⟩ some
  rw [set_of_unshared h.unshared]
  refine ⟨_, _, ⟨h.unshared, ?_, ?_, placed⟩, rfl, ⟨now, edited⟩, fun m hm => Or.inl hm,
    fun kind k hk => ?_⟩
  · rintro m (hm | ⟨hm, new⟩)
    · have := h.given m hm
      show 0 < m ∧ m < s.next + (segments path).length
      omega
    · have := h.given _ hm
      show 0 < m ∧ m < s.next + (segments path).length
      omega
  · refine (confined_write ?_ (fun i hi => Nat.add_lt_add_left hi _) ?_).1
    · exact h.held.mono fun m hm => Nat.lt_of_lt_of_le hm grown
    · exact confined_of_marks fun m hm => Nat.lt_of_lt_of_le (h.given m (value m hm)).2 grown
  · rw [edited] at hk behind
    rcases List.mem_cons.1 hk with rfl | inner
    · exact Or.inl kind
    · exact (placed place _ now behind (Or.inl kind)).2 k inner

end Store

end SceneCourse
