import SceneCourse.Proofs.Placement

/-! States that are trees. A store that is marked as shared may all the same hold no container at
two places; an edit then changes one place only, nothing has to be closed or opened, and a write
does what it does in a store that is not shared. -/

namespace SceneCourse

open Value (Edit)

namespace Value

/-! ### Opening and closing what does not hold itself -/

/-- There is nothing to open on a path through a value in which no container holds itself. -/
theorem along_eq_self (path : List String) {v : Value} (acyclic : v.isCyclic = false) :
    v.along path = v := by
  induction path generalizing v with
  | nil => rfl
  | cons s rest ih =>
    cases v with
    | map m es =>
      rw [along, entries_of_anyCyclicEntry_eq_false m acyclic,
        List.map_congr_left (g := id), List.map_id]
      rintro ⟨k, v⟩ member
      simp only [ih (isCyclic_of_mem acyclic member), ite_self, id_eq]
    | list m xs =>
      rw [along, items_of_anyCyclic_eq_false m acyclic, List.map_congr_left (g := id), List.map_id]
      exact fun v member => ih (isCyclic_of_mem_items acyclic member)
    | _ => rfl

/-- Each of some marks but 0 is there once. -/
def Once (marks : List Nat) : Prop := ∀ m, m ≠ 0 → marks.count m ≤ 1

theorem Once.left {ms ns : List Nat} (h : Once (ms ++ ns)) : Once ms := fun m marked => by
  have := h m marked
  rw [List.count_append] at this
  omega

theorem Once.right {ms ns : List Nat} (h : Once (ms ++ ns)) : Once ns := fun m marked => by
  have := h m marked
  rw [List.count_append] at this
  omega

theorem Once.tail {n : Nat} {ms : List Nat} (h : Once (n :: ms)) : Once ms :=
  Once.right (show Once ([n] ++ ms) from h)

theorem Once.not_mem {n : Nat} {ms : List Nat} (h : Once (n :: ms)) (marked : n ≠ 0) : n ∉ ms := by
  intro member
  have := h n marked
  have := List.count_pos_iff.2 member
  rw [List.count_cons_self] at *
  omega

mutual

/-- There is nothing to close in a value that holds every container at one place. -/
theorem tieIn_eq_self (around : List Nat) (v : Value) (once : Once (marks v))
    (outside : ∀ m ∈ marks v, m ≠ 0 → m ∉ around) : tieIn around v = v := by
  cases v with
  | pair a b =>
    rw [tieIn, tieIn_eq_self around a once.left fun m hm => outside m (List.mem_append_left _ hm),
      tieIn_eq_self around b once.right fun m hm => outside m (List.mem_append_right _ hm)]
  | list m xs =>
    rw [tieIn]
    split
    next zero =>
      subst zero
      rw [tieItems_eq_self around xs once.tail fun m hm => outside m (List.mem_cons_of_mem _ hm)]
    next marked =>
      rw [if_neg (by simpa using outside m List.mem_cons_self marked),
        tieItems_eq_self (m :: around) xs once.tail]
      intro k hk other
      rw [List.mem_cons, not_or]
      exact ⟨fun same => once.not_mem marked (same ▸ hk),
        outside k (List.mem_cons_of_mem _ hk) other⟩
  | map m es =>
    rw [tieIn]
    split
    next zero =>
      subst zero
      rw [tieEntries_eq_self around es once.tail fun m hm => outside m (List.mem_cons_of_mem _ hm)]
    next marked =>
      rw [if_neg (by simpa using outside m List.mem_cons_self marked),
        tieEntries_eq_self (m :: around) es once.tail]
      intro k hk other
      rw [List.mem_cons, not_or]
      exact ⟨fun same => once.not_mem marked (same ▸ hk),
        outside k (List.mem_cons_of_mem _ hk) other⟩
  | _ => rfl

theorem tieItems_eq_self (around : List Nat) (xs : List Value) (once : Once (marksItems xs))
    (outside : ∀ m ∈ marksItems xs, m ≠ 0 → m ∉ around) : tieItems around xs = xs := by
  cases xs with
  | nil => rfl
  | cons x xs =>
    rw [tieItems, tieIn_eq_self around x once.left fun m hm => outside m
      (List.mem_append_left _ hm),
      tieItems_eq_self around xs once.right fun m hm => outside m (List.mem_append_right _ hm)]

theorem tieEntries_eq_self (around : List Nat) (es : List (Key × Value))
    (once : Once (marksEntries es)) (outside : ∀ m ∈ marksEntries es, m ≠ 0 → m ∉ around) :
    tieEntries around es = es := by
  cases es with
  | nil => rfl
  | cons e es =>
    rw [tieEntries, tieIn_eq_self around e.2 once.left fun m hm => outside m
      (List.mem_append_left _ hm),
      tieEntries_eq_self around es once.right fun m hm => outside m (List.mem_append_right _ hm)]

end

mutual

/-- Containers around a value that are none of its own do not come back in it. -/
theorem tieIn_append (around outer : List Nat) (v : Value)
    (apart : ∀ m ∈ marks v, m ≠ 0 → m ∉ outer) : tieIn (around ++ outer) v = tieIn around v := by
  cases v with
  | pair a b =>
    rw [tieIn, tieIn, tieIn_append around outer a fun m hm => apart m (List.mem_append_left _ hm),
      tieIn_append around outer b fun m hm => apart m (List.mem_append_right _ hm)]
  | list m xs =>
    have inner (around : List Nat) : tieItems (around ++ outer) xs = tieItems around xs :=
      tieItems_append around outer xs fun m hm => apart m (List.mem_cons_of_mem _ hm)
    rw [tieIn, tieIn, inner around, ← List.cons_append, inner (m :: around)]
    split
    next => rfl
    next marked => simp [apart m List.mem_cons_self marked]
  | map m es =>
    have inner (around : List Nat) : tieEntries (around ++ outer) es = tieEntries around es :=
      tieEntries_append around outer es fun m hm => apart m (List.mem_cons_of_mem _ hm)
    rw [tieIn, tieIn, inner around, ← List.cons_append, inner (m :: around)]
    split
    next => rfl
    next marked => simp [apart m List.mem_cons_self marked]
  | _ => rfl

theorem tieItems_append (around outer : List Nat) (xs : List Value)
    (apart : ∀ m ∈ marksItems xs, m ≠ 0 → m ∉ outer) :
    tieItems (around ++ outer) xs = tieItems around xs := by
  cases xs with
  | nil => rfl
  | cons x xs =>
    rw [tieItems, tieItems, tieIn_append around outer x fun m hm => apart m
      (List.mem_append_left _ hm),
      tieItems_append around outer xs fun m hm => apart m (List.mem_append_right _ hm)]

theorem tieEntries_append (around outer : List Nat) (es : List (Key × Value))
    (apart : ∀ m ∈ marksEntries es, m ≠ 0 → m ∉ outer) :
    tieEntries (around ++ outer) es = tieEntries around es := by
  cases es with
  | nil => rfl
  | cons e es =>
    rw [tieEntries, tieEntries, tieIn_append around outer e.2 fun m hm => apart m
      (List.mem_append_left _ hm),
      tieEntries_append around outer es fun m hm => apart m (List.mem_append_right _ hm)]

end

theorem tieEntries_set (around : List Nat) (k : Key) (v : Value) (es : List (Key × Value)) :
    tieEntries around (Entries.set k v es) = Entries.set k (tieIn around v)
    (tieEntries around es) := by
  induction es with
  | nil => rfl
  | cons e es ih =>
    obtain ⟨l, u⟩ := e
    rw [Entries.set, tieEntries, Entries.set]
    split
    next => rfl
    next => rw [tieEntries, ih]

/-- Whatever stands in closed entries is closed. -/
theorem tieIn_of_get? {around : List Nat} {es : List (Key × Value)}
    (closed : tieEntries around es = es) {k : Key} {v : Value}
    (found : Entries.get? k es = some v) : tieIn around v = v := by
  induction es with
  | nil => cases found
  | cons e es ih =>
    obtain ⟨l, u⟩ := e
    obtain ⟨here, later⟩ := List.cons.inj closed
    rw [Entries.get?] at found
    split at found
    next =>
      obtain rfl := Option.some.inj found
      exact (Prod.mk.inj here).2
    next => exact ih later found

/-- A mapping is closed when it is none of those around it and its entries are closed inside of
it. -/
theorem tieIn_map_eq_self_iff (around : List Nat) (m : Nat) (es : List (Key × Value)) :
    tieIn around (.map m es) = .map m es ↔
      (m ≠ 0 → m ∉ around) ∧ tieEntries (if m = 0 then around else m :: around) es = es := by
  rw [tieIn]
  by_cases zero : m = 0
  · subst zero
    simp
  · rw [if_neg zero, if_neg zero]
    by_cases member : m ∈ around <;> simp [member, zero]

theorem tieIn_list_eq_self_iff (around : List Nat) (m : Nat) (xs : List Value) :
    tieIn around (.list m xs) = .list m xs ↔
      (m ≠ 0 → m ∉ around) ∧ tieItems (if m = 0 then around else m :: around) xs = xs := by
  rw [tieIn]
  by_cases zero : m = 0
  · subst zero
    simp
  · rw [if_neg zero, if_neg zero]
    by_cases member : m ∈ around <;> simp [member, zero]

/-! ### Counting containers -/

/-- Under a key stands no more than in all entries. -/
theorem count_marks_of_get? {k : Key} {v : Value} {es : List (Key × Value)}
    (found : Entries.get? k es = some v) (m : Nat) :
    (marks v).count m ≤ (marksEntries es).count m := by
  induction es with
  | nil => cases found
  | cons e es ih =>
    obtain ⟨l, u⟩ := e
    rw [marksEntries, List.count_append]
    rw [Entries.get?] at found
    split at found
    next =>
      obtain rfl := Option.some.inj found
      omega
    next =>
      have := ih found
      omega

/-! ### Following an edit of one place -/

/-- An edit of a container that stands once, below one entry, changes that entry. -/
theorem followEntries_eq_set {e : Edit} {k : Key} {v w : Value} {es : List (Key × Value)}
    (found : Entries.get? k es = some v) (inside : e.mark ∈ marks v)
    (once : (marksEntries es).count e.mark ≤ 1) (followed : follow e v = w) :
    followEntries e es = Entries.set k w es := by
  induction es with
  | nil => cases found
  | cons f es ih =>
    obtain ⟨l, u⟩ := f
    rw [marksEntries, List.count_append] at once
    rw [Entries.get?] at found
    rw [followEntries, Entries.set]
    split at found
    next same =>
      obtain rfl := Option.some.inj found
      have here := List.count_pos_iff.2 inside
      have elsewhere : e.mark ∉ marksEntries es := fun later => by
        have := List.count_pos_iff.2 later
        omega
      rw [if_pos same, followed, followEntries_eq_self e es fun later => absurd later elsewhere]
    next other =>
      have later := List.count_pos_iff.2 (marks_subset_of_get? found inside)
      have elsewhere : e.mark ∉ marks u := fun here => by
        have := List.count_pos_iff.2 here
        omega
      rw [if_neg other, follow_eq_self e u fun here => absurd here elsewhere, ih found (by omega)]

end Value

namespace Store

open Value

theorem mark_write_mem (next mark : Nat) (es : List (Key × Value)) (segs : List String)
    (v : Value) : (write next mark es segs v).2.mark ∈ marks (.map mark es) := by
  obtain ⟨path, gs, before, -⟩ := edit_stands next mark es segs v
  exact marks_under before List.mem_cons_self

/-- Where every container stands once, following the edit of a write is the write. -/
theorem follow_write (next mark : Nat) {es : List (Key × Value)} (segs : List String) (v : Value)
    (once : Once (marks (.map mark es))) (marked : (write next mark es segs v).2.mark ≠ 0) :
    follow (write next mark es segs v).2 (.map mark es) = .map mark
      (write next mark es segs v).1 := by
  induction segs generalizing mark es with
  | nil => exact if_pos ⟨rfl, marked⟩
  | cons s rest ih =>
    rcases write_cons next mark es s rest v with ⟨m, fs, -, found, written⟩ | ⟨-, written⟩
    · rw [written] at marked ⊢
      have inside := mark_write_mem next m fs rest v
      have below := marks_subset_of_get? found inside
      have other : ¬(mark = (write next m fs rest v).2.mark ∧ mark ≠ 0) := by
        rintro ⟨same, own⟩
        exact once.not_mem own (same ▸ below)
      have inner : Once (marks (.map m fs)) := fun k hk => by
        have := once.tail k hk
        have := count_marks_of_get? found k
        omega
      rw [follow, if_neg other, followEntries_eq_set found inside (once.tail _ marked)
        (ih m inner marked)]
    · rw [written] at marked ⊢
      exact if_pos ⟨rfl, marked⟩

/-! ### Writing into a tree -/

/-- New mappings above a closed value are closed. -/
theorem tieIn_nest {around : List Nat} {next : Nat} (positive : 0 < next) (segs : List String)
    {v : Value} (closed : v.tie = v) (given : ∀ m ∈ around, m < next)
    (own : ∀ m ∈ marks v, m ≠ 0 → m < next) (apart : ∀ m ∈ marks v, m ≠ 0 → m ∉ around) :
    tieIn around (nest next segs v) = nest next segs v := by
  induction segs generalizing around next with
  | nil => exact (tieIn_append [] around v apart).trans closed
  | cons s rest ih =>
    have inner : tieIn (next :: around) (nest (next + 1) rest v) = nest (next + 1) rest v := by
      refine ih (Nat.succ_pos _) ?_ (fun m hm marked => Nat.lt_succ_of_lt (own m hm marked))
        fun m hm marked => ?_
      · intro m hm
        rcases List.mem_cons.1 hm with rfl | old
        · exact Nat.lt_succ_self m
        · exact Nat.lt_succ_of_lt (given m old)
      · rw [List.mem_cons, not_or]
        exact ⟨Nat.ne_of_lt (own m hm marked), apart m hm marked⟩
    rw [nest, tieIn_map_eq_self_iff, if_neg (Nat.ne_of_gt positive)]
    refine ⟨fun _ member => Nat.lt_irrefl _ (given next member), ?_⟩
    rw [tieEntries, tieEntries, inner]

/-- The marks of the mappings that a write goes through, the outermost first. -/
def through (mark : Nat) (es : List (Key × Value)) : List String → List Nat
  | [] => []
  | s :: rest =>
    mark :: match rest, Entries.get? (.str s) es with
      | _ :: _, some (.map m fs) => through m fs rest
      | _, _ => []

theorem mem_through (mark : Nat) (es : List (Key × Value)) {segs : List String} (long : segs ≠ []) :
    mark ∈ through mark es segs := by
  cases segs with
  | nil => exact absurd rfl long
  | cons s rest =>
    rw [through.eq_def]
    exact List.mem_cons_self

theorem through_cons (mark : Nat) {es : List (Key × Value)} {s : String} {rest : List String}
    (more : rest ≠ []) {m : Nat} {fs : List (Key × Value)}
    (found : Entries.get? (.str s) es = some (.map m fs)) :
    through mark es (s :: rest) = mark :: through m fs rest := by
  cases rest with
  | nil => exact absurd rfl more
  | cons r rest =>
    rw [through.eq_def]
    simp only [found]

/-- A closed value that is written through none of its own containers leaves closed entries. -/
theorem tieEntries_write {around : List Nat} {next mark : Nat} (positive : 0 < next)
    {es : List (Key × Value)} (segs : List String) {v : Value} (closed : v.tie = v)
    (there : tieEntries around es = es) (given : ∀ m, m ∈ around ∨ m ∈ marksEntries es → m < next)
    (own : ∀ m ∈ marks v, m ≠ 0 → m < next)
    (apart : ∀ m ∈ marks v, m ≠ 0 → m ∉ around ∧ m ∉ through mark es segs) :
    tieEntries around (write next mark es segs v).1 = (write next mark es segs v).1 := by
  induction segs generalizing around mark es with
  | nil => exact there
  | cons s rest ih =>
    rcases write_cons next mark es s rest v with ⟨m, fs, more, found, written⟩ | ⟨-, written⟩
    · have inside : marks (.map m fs) ⊆ marksEntries es := marks_subset_of_get? found
      have around' {k : Nat} (hk : k ∈ if m = 0 then around else m :: around) : k = m ∨
          k ∈ around := by
        split at hk
        · exact Or.inr hk
        · exact List.mem_cons.1 hk
      obtain ⟨new, inner⟩ := (tieIn_map_eq_self_iff around m fs).1 (tieIn_of_get? there found)
      have below : tieEntries (if m = 0 then around else m :: around)
          (write next m fs rest v).1 = _ := ih inner
        (by
          rintro k (hk | deep)
          · rcases around' hk with rfl | old
            · exact given k (Or.inr (inside List.mem_cons_self))
            · exact given k (Or.inl old)
          · exact given k (Or.inr (inside (List.mem_cons_of_mem m deep))))
        (by
          intro k hk marked
          have off := (apart k hk marked).2
          rw [through_cons mark more found, List.mem_cons, not_or] at off
          refine ⟨fun member => ?_, off.2⟩
          rcases around' member with rfl | old
          · exact off.2 (mem_through k fs more)
          · exact (apart k hk marked).1 old)
      rw [written, tieEntries_set, there, (tieIn_map_eq_self_iff around m _).2 ⟨new, below⟩]
    · have nested := tieIn_nest positive rest closed (fun m hm => given m (Or.inl hm)) own
        fun m hm marked => (apart m hm marked).1
      rw [written, tieEntries_set, there, nested]

/-- A state in which no container stands at two places nor inside itself. All its marks were given
out before. -/
structure Tree (s : Store) : Prop where
  acyclic : s.root.isCyclic = false
  once : Once (marks s.root)
  given : ∀ m ∈ marks s.root, m < s.next

/-- A value for a write along a path of keys: a whole value, whose containers were made before, and
none of which is a mapping that the write goes through. It may hold itself, and have containers in
common with the rest of the state. -/
structure WritableAt (s : Store) (segs : List String) (v : Value) : Prop where
  whole : ∀ c : Value, c.fill v = v
  closed : v.tie = v
  given : ∀ m ∈ marks v, m ≠ 0 → m < s.next
  apart : ∀ m ∈ marks v, m ≠ 0 → m ∉ through 0 s.tiers segs

abbrev Writable (s : Store) (path : String) (v : Value) : Prop := s.WritableAt (segments path) v

section

variable {s : Store} {segs : List String} {v : Value}

theorem Tree.opened_eq (tree : s.Tree) (segs : List String) : s.opened segs = s.root := by
  rw [opened, along_eq_self segs tree.acyclic, ite_self]

theorem Tree.drafted_eq (tree : s.Tree) (segs : List String) (v : Value) :
    s.drafted segs v = write s.next 0 s.tiers segs v := by
  rw [drafted, tree.opened_eq]
  rfl

/-- In a tree the edit of a write changes the place of the write and no other. -/
theorem Tree.afterEdit_eq (tree : s.Tree) (writable : s.WritableAt segs v) :
    s.afterEdit (write s.next 0 s.tiers segs v).1 (write s.next 0 s.tiers segs v).2 =
      (write s.next 0 s.tiers segs v).1 := by
  have followed : (if (write s.next 0 s.tiers segs v).2.mark = 0
      then (write s.next 0 s.tiers segs v).1
      else followEntries (write s.next 0 s.tiers segs v).2 s.tiers) =
          (write s.next 0 s.tiers segs v).1 := by
    split
    next => rfl
    next marked =>
      have whole := follow_write s.next 0 segs v tree.once marked
      rw [follow, if_neg (by simp)] at whole
      exact (Value.map.inj whole).2
  rw [afterEdit, followed]
  refine tieEntries_write (tree.given 0 List.mem_cons_self) segs writable.closed ?_ ?_
    writable.given ?_
  · exact tieEntries_eq_self [] s.tiers tree.once.tail (by simp)
  · rintro m (none | inside)
    · cases none
    · exact tree.given m (List.mem_cons_of_mem 0 inside)
  · exact fun m hm marked => ⟨List.not_mem_nil, writable.apart m hm marked⟩

/-- A write into a tree puts the value in its place, and does no more. -/
theorem place_eq_write (tree : s.shared = true → s.Tree ∧ s.WritableAt segs v) :
    s.place segs v = ({ s with tiers := (write s.next 0 s.tiers segs v).1, next :=
      s.next + segs.length },
      [(write s.next 0 s.tiers segs v).2]) := by
  by_cases shared : s.shared = true
  · obtain ⟨whole, writable⟩ := tree shared
    simp only [place, edited, shared, if_true, whole.drafted_eq, whole.afterEdit_eq writable]
  · exact place_of_unshared (Bool.eq_false_iff.2 shared) segs v

theorem set_eq_write {path : String} (tree : s.shared = true → s.Tree ∧ s.Writable path v) :
    s.set path v = ({ s with
        tiers := (write s.next 0 s.tiers (segments path) v).1
        next := s.next + (segments path).length },
          [(write s.next 0 s.tiers (segments path) v).2]) :=
  place_eq_write tree

end

end Store

end SceneCourse
