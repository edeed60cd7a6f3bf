import SceneCourse.Proofs.Operations
import SceneCourse.Proofs.SameKey

/-! The keys of a state. Its first keys are those of the tiers, in their order, and no key is there
twice; every operation of a store leaves it so. Entries with such keys that are written over the
empty tiers, one after the other, come out as they are. -/

namespace SceneCourse

open Value (Edit)

/-! ### Keys -/

/-- A key that is known again: everything but what is not a number and has no name. -/
def Key.Known (k : Key) : Prop := k ≠ .float (.nan 0)

theorem Key.copy_eq_self {k : Key} (known : k.Known) (next : Nat) : k.copy next = (k, next) := by
  unfold copy
  split
  next => exact absurd rfl known
  next => rfl

theorem Key.known_copy {next : Nat} (positive : 0 < next) (k : Key) : (k.copy next).1.Known := by
  unfold copy
  split
  next =>
    rintro ⟨⟩
    exact Nat.lt_irrefl 0 positive
  next unnamed => exact unnamed

namespace Entries

variable {α : Type} {k : Key} {v : α} {before es news : Entries α}

theorem set_append (apart : ∀ e ∈ before, e.1.same k = false) :
    (before ++ es).set k v = before ++ es.set k v := by
  induction before with
  | nil => rfl
  | cons e before ih =>
    rw [List.cons_append, set, if_neg (by simp [apart e List.mem_cons_self]),
      ih fun f member => apart f (List.mem_cons_of_mem e member), List.cons_append]

/-- Entries that are overwritten one after the other, in their order, have made place for what is
written. -/
theorem setAll_append (separate : Separate (before ++ news))
    (covers : es.map Prod.fst <+: news.map Prod.fst) (known : ∀ e ∈ es, e.1.same e.1 = true) :
    setAll news (before ++ es) = before ++ news := by
  induction news generalizing before es with
  | nil =>
    obtain rfl := List.map_eq_nil_iff.1 (List.prefix_nil.1 covers)
    rfl
  | cons e news ih =>
    obtain ⟨k, v⟩ := e
    have apart : ∀ f ∈ before, f.1.same k = false := fun f member =>
      (List.pairwise_append.1 separate).2.2 f member (k, v) List.mem_cons_self
    have separate' : Separate ((before ++ [(k, v)]) ++ news) := by rwa [List.append_assoc]
    have written : ∃ rest, (before ++ es).set k v = (before ++ [(k, v)]) ++ rest ∧
        rest.map Prod.fst <+: news.map Prod.fst ∧ ∀ f ∈ rest, f.1.same f.1 = true := by
      rw [set_append apart]
      cases es with
      | nil => exact ⟨[], by simp [set], List.nil_prefix, nofun⟩
      | cons f es =>
        obtain ⟨l, w⟩ := f
        obtain ⟨rfl, rest⟩ := List.cons_prefix_cons.1 covers
        refine ⟨es, ?_, rest, fun f member => known f (List.mem_cons_of_mem _ member)⟩
        rw [set, if_pos (known _ List.mem_cons_self), List.append_assoc, List.singleton_append]
    obtain ⟨rest, placed, covers', known'⟩ := written
    show setAll news ((before ++ es).set k v) = _
    rw [placed, ih separate' covers' known', List.append_assoc, List.singleton_append]

theorem setAll_of_prefix (separate : Separate news) (covers : es.map Prod.fst <+: news.map Prod.fst)
    (known : ∀ e ∈ es, e.1.same e.1 = true) : setAll news es = news :=
  show setAll news ([] ++ es) = [] ++ news from setAll_append separate covers known

theorem fst_set (k : Key) (v : α) (es : Entries α) :
    es.map Prod.fst <+: (es.set k v).map Prod.fst := by
  induction es with
  | nil => exact List.nil_prefix
  | cons e es ih =>
    rw [set]
    split
    next => exact List.prefix_refl _
    next => exact List.cons_prefix_cons.2 ⟨rfl, ih⟩

theorem separate_iff_of_fst {β : Type} {fs : Entries β} (same : es.map Prod.fst = fs.map Prod.fst) :
    es.Separate ↔ fs.Separate := by
  have keys {γ : Type} (gs : Entries γ) : gs.Separate ↔
      (gs.map Prod.fst).Pairwise fun k l => k.same l = false := by
    rw [List.pairwise_map]
    rfl
  rw [keys es, keys fs, same]

end Entries

namespace Value

theorem fst_copyEntries {es : List (Key × Value)} (known : ∀ e ∈ es, e.1.Known) (next : Nat) :
    (copyEntries next es).1.map Prod.fst = es.map Prod.fst := by
  induction es generalizing next with
  | nil => rfl
  | cons e es ih =>
    obtain ⟨k, v⟩ := e
    rw [copyEntries, Key.copy_eq_self (known (k, v) List.mem_cons_self)]
    simp only [List.map_cons, ih fun f member => known f (List.mem_cons_of_mem _ member)]

theorem known_copyEntries {next : Nat} (positive : 0 < next) (es : List (Key × Value)) :
    ∀ e ∈ (copyEntries next es).1, e.1.Known := by
  induction es generalizing next with
  | nil => exact nofun
  | cons e es ih =>
    obtain ⟨k, v⟩ := e
    have grown := Nat.le_trans (Key.next_le_copy next k) (marks_copy (k.copy next).2 v).1
    exact List.forall_mem_cons.2 ⟨Key.known_copy positive k, ih (Nat.lt_of_lt_of_le positive grown)⟩

theorem fst_tieEntries (around : List Nat) (es : List (Key × Value)) :
    (tieEntries around es).map Prod.fst = es.map Prod.fst := by
  induction es with
  | nil => rfl
  | cons e es ih => rw [tieEntries, List.map_cons, List.map_cons, ih]

theorem fst_followEntries (e : Edit) (es : List (Key × Value)) :
    (followEntries e es).map Prod.fst = es.map Prod.fst := by
  induction es with
  | nil => rfl
  | cons f es ih => rw [followEntries, List.map_cons, List.map_cons, ih]

theorem fst_copyTiedEntries {es : List (Key × Value)} (known : ∀ e ∈ es, e.1.Known) (c : Copying) :
    (copyTiedEntries c es).1.map Prod.fst = es.map Prod.fst := by
  induction es generalizing c with
  | nil => rfl
  | cons e es ih =>
    obtain ⟨k, v⟩ := e
    rw [copyTiedEntries, Key.copy_eq_self (known (k, v) List.mem_cons_self)]
    simp only [List.map_cons, ih fun f member => known f (List.mem_cons_of_mem _ member)]

theorem known_copyTiedEntries {c : Copying} (positive : 0 < c.next) (es : List (Key × Value)) :
    ∀ e ∈ (copyTiedEntries c es).1, e.1.Known := by
  induction es generalizing c with
  | nil => exact nofun
  | cons e es ih =>
    obtain ⟨k, v⟩ := e
    have grown := Nat.le_trans (Key.next_le_copy c.next k)
      (le_copyTied ⟨(k.copy c.next).2, c.given⟩ v)
    exact List.forall_mem_cons.2 ⟨Key.known_copy positive k, ih (Nat.lt_of_lt_of_le positive grown)⟩

/-- The entries of a state: first come the tiers, in their order, and all keys are told apart. -/
structure Rooted (es : List (Key × Value)) : Prop where
  tiers : tierNames.map Key.str <+: es.map Prod.fst
  separate : Entries.Separate es
  known : ∀ e ∈ es, e.1.Known

namespace Rooted

variable {es : List (Key × Value)} {k : Key} {v : Value}

theorem of_fst {fs : List (Key × Value)} (h : Rooted es)
    (same : fs.map Prod.fst = es.map Prod.fst) : Rooted fs where
  tiers := same ▸ h.tiers
  separate := (Entries.separate_iff_of_fst same).2 h.separate
  known e member := by
    obtain ⟨f, there, key⟩ := List.mem_map.1 (same ▸ List.mem_map_of_mem member)
    exact key ▸ h.known f there

theorem set (h : Rooted es) (known : k.Known) : Rooted (Entries.set k v es) where
  tiers := h.tiers.trans (Entries.fst_set k v es)
  separate := h.separate.set
  known e member := by
    rcases Entries.key_of_mem_set member with new | ⟨f, there, same⟩
    · exact new ▸ known
    · exact same ▸ h.known f there

theorem setStr (h : Rooted es) (s : String) : Rooted (Entries.set (.str s) v es) :=
  h.set (by simp [Key.Known])

theorem setAll {news : List (Key × Value)} (h : Rooted es) (known : ∀ e ∈ news, e.1.Known) :
    Rooted (Entries.setAll news es) := by
  induction news generalizing es with
  | nil => exact h
  | cons e news ih =>
    exact ih (h.set (known e List.mem_cons_self)) fun f member =>
      known f (List.mem_cons_of_mem e member)

end Rooted

end Value

namespace Store

open Value

/-! ### The entries of a state -/

theorem rooted_emptyTiers (next : Nat) : Rooted (emptyTiers next) where
  tiers := List.prefix_refl _
  separate := by simp [Entries.Separate, emptyTiers]
  known := by simp [Key.Known, emptyTiers]

theorem rooted_write {es : List (Key × Value)} (h : Rooted es) (next mark : Nat)
    (segs : List String) (v : Value) : Rooted (write next mark es segs v).1 := by
  cases segs with
  | nil => exact h
  | cons s rest =>
    rcases write_cons next mark es s rest v with ⟨m, fs, -, -, written⟩ | ⟨-, written⟩
    · rw [written]
      exact h.setStr s
    · rw [written]
      exact h.setStr s

theorem fst_along (segs : List String) (m : Nat) (es : List (Key × Value)) :
    ∃ fs, along segs (.map m es) = .map m fs ∧ fs.map Prod.fst = es.map Prod.fst := by
  cases segs with
  | nil => exact ⟨es, rfl, rfl⟩
  | cons s rest =>
    refine ⟨_, rfl, ?_⟩
    simp [entries, Function.comp_def]

variable {s t : Store} {id : String} {v : Value}

theorem rooted_drafted (h : Rooted s.tiers) (segs : List String) (v : Value) :
    Rooted (s.drafted segs v).1 := by
  obtain ⟨es, opened, same⟩ : ∃ es, s.opened segs = .map 0 es ∧
      es.map Prod.fst = s.tiers.map Prod.fst := by
    rw [opened]
    split
    next => exact fst_along segs 0 s.tiers
    next => exact ⟨s.tiers, rfl, rfl⟩
  rw [drafted, opened]
  exact rooted_write (h.of_fst same) _ _ _ _

theorem rooted_edited (h : Rooted s.tiers) {written : List (Key × Value)} (drafted : Rooted written)
    (e : Edit) : Rooted (s.edited written e).tiers := by
  rw [edited]
  show Rooted (if s.shared then s.afterEdit written e else written)
  split
  next =>
    refine Rooted.of_fst ?_ (fst_tieEntries [] _)
    split
    next => exact drafted
    next => exact h.of_fst (fst_followEntries e s.tiers)
  next => exact drafted

theorem rooted_place (h : Rooted s.tiers) (segs : List String) (v : Value) :
    Rooted (s.place segs v).1.tiers :=
  rooted_edited h (rooted_drafted h segs v) _

theorem rooted_makeNode (h : Rooted s.tiers) (id : String) : Rooted (s.makeNode id).1.tiers := by
  rcases s.makeNode_cases id with ⟨-, same⟩ | ⟨-, made⟩
  · rwa [same]
  · rw [made]
    exact rooted_place (s := { s with next := s.next + 1 }) h _ _

theorem rooted_mergeNode (h : Rooted s.tiers) (id : String) (news : List (Key × Value)) :
    Rooted (s.mergeNode id news).1.tiers := by
  cases here : s.nodeMapping? id with
  | none => rwa [mergeNode_of_none here]
  | some p =>
    rw [mergeNode_of_some here]
    exact rooted_edited h (rooted_drafted h _ _) _

theorem rooted_setNodeState (h : Rooted s.tiers) {edits : List Edit}
    (done : s.setNodeState id v = .ok (t, edits)) : Rooted t.tiers := by
  obtain ⟨-, rfl, -⟩ := setNodeState_ok done
  exact rooted_place h _ _

theorem rooted_updateNodeState (h : Rooted s.tiers) {updates : Value} {edits : List Edit}
    {fault : Option Fault} (done : s.updateNodeState id updates = .ok (t, edits, fault)) :
    Rooted t.tiers := by
  obtain ⟨-, news, -, rfl, -⟩ := updateNodeState_ok done
  exact rooted_mergeNode (rooted_makeNode h id) id news

theorem rooted_adoptUpdates (h : Rooted s.tiers) {updates : Value} {edits : List Edit}
    {fault : Option Fault} (done : s.adoptUpdates id updates = .ok (t, edits, fault)) :
    Rooted t.tiers := by
  obtain ⟨pairs, -, _, written⟩ := adoptUpdates_ok done
  exact rooted_updateNodeState (by rwa [tiers_adoptEntries]) written

theorem rooted_resetScene (h : Rooted s.tiers) : Rooted s.resetScene.tiers := (h.setStr _).setStr _

theorem known_adoptEntries (positive : 0 < s.next) (es : List (Key × Value)) :
    ∀ e ∈ (s.adoptEntries es).1, e.1.Known := by
  rw [adoptEntries]
  split
  next => exact known_copyTiedEntries (c := ⟨s.next, []⟩) positive es
  next => exact known_copyEntries positive es

theorem fst_adoptEntries {es : List (Key × Value)} (known : ∀ e ∈ es, e.1.Known) (s : Store) :
    (s.adoptEntries es).1.map Prod.fst = es.map Prod.fst := by
  rw [adoptEntries]
  split
  next => exact fst_copyTiedEntries known _
  next => exact fst_copyEntries known _

theorem rooted_restore (positive : 0 < s.next) {snapshot : Value}
    (done : s.restore snapshot = .ok t) : Rooted t.tiers := by
  obtain ⟨pairs, -, rfl⟩ := restore_ok done
  have rooted : Rooted (Entries.setAll ({ s with next := s.next + 5 }.adoptEntries pairs).1
      (emptyTiers s.next)) :=
    (rooted_emptyTiers s.next).setAll
      (known_adoptEntries (s := { s with next := s.next + 5 }) (Nat.add_pos_left positive 5) pairs)
  dsimp only
  split
  next => exact rooted.of_fst (fst_tieEntries [] _)
  next => exact rooted

end Store

end SceneCourse
