import SceneCourse.Proofs.Operations

/-! Stores that are kept clear of a document. Proved: no operation of a store brings a container of
the document within reach of a write, as long as no value is written that has one in reach, and none
edits one. -/

namespace SceneCourse

open Value (Edit)

namespace Store

open Value

/-- A mark that was given out, and not to a document. -/
def Free (D : List Nat) (next m : Nat) : Prop := m < next ∧ m ∉ D

/-- The marks of a document, which were given out before a certain mark, are kept clear of: no write
can reach a container with one of them. -/
structure Clear (n : Nat) (D : List Nat) (s : Store) : Prop where
  unshared : s.shared = false
  grown : n ≤ s.next
  below : ∀ m ∈ D, 0 < m ∧ m < n
  apart : ConfinedIn (Free D s.next) s.tiers

def Spares (D : List Nat) (edits : List Edit) : Prop := ∀ e ∈ edits, e.mark ∈ D → e.mark = 0

variable {n : Nat} {D : List Nat} {s : Store}

theorem Free.mono {next next' m : Nat} (h : Free D next m) (grown : next ≤ next') :
    Free D next' m :=
  ⟨Nat.lt_of_lt_of_le h.1 grown, h.2⟩

theorem Clear.new (h : Clear n D s) {next m : Nat} (after : s.next ≤ m) (given : m < next) :
    Free D next m := by
  refine ⟨given, fun inside => ?_⟩
  have := h.below m inside
  have := h.grown
  omega

/-- The state with other tiers, as long as they hold what is free. -/
theorem Clear.withTiers (h : Clear n D s) {tiers : List (Key × Value)} {next : Nat}
    (grown : s.next ≤ next) (apart : ConfinedIn (Free D next) tiers) :
    Clear n D { s with tiers, next } :=
  ⟨h.unshared, Nat.le_trans h.grown grown, h.below, apart⟩

theorem Clear.place (h : Clear n D s) (segs : List String) {v : Value}
    (value : Confined (Free D s.next) v) :
    Clear n D (s.place segs v).1 ∧ Spares D (s.place segs v).2 := by
  have grown : s.next ≤ s.next + segs.length := Nat.le_add_right _ _
  obtain ⟨apart, edited⟩ : ConfinedIn (Free D (s.next + segs.length))
    (write s.next 0 s.tiers segs v).1 ∧
      ((write s.next 0 s.tiers segs v).2.mark = 0 ∨
        Free D (s.next + segs.length) (write s.next 0 s.tiers segs v).2.mark) := by
    refine confined_write (h.apart.mono fun m hm => hm.mono grown)
      (fun i hi => ?_) (value.mono fun m hm => hm.mono grown)
    exact h.new (Nat.le_add_right _ i) (Nat.add_lt_add_left hi _)
  rw [place_of_unshared h.unshared]
  refine ⟨h.withTiers grown apart, fun e he inside => ?_⟩
  obtain rfl := List.mem_singleton.1 he
  exact edited.resolve_right fun free => free.2 inside

theorem Clear.set (h : Clear n D s) (path : String) {v : Value}
    (value : Confined (Free D s.next) v) :
    Clear n D (s.set path v).1 ∧ Spares D (s.set path v).2 := h.place (segments path) value

theorem Clear.adopt (h : Clear n D s) (v : Value) :
    Clear n D (s.adopt v).2 ∧ Confined (Free D (s.adopt v).2.next) (s.adopt v).1 := by
  have grown := (marks_copy s.next v).1
  rw [adopt_of_unshared h.unshared]
  refine ⟨h.withTiers grown (h.apart.mono fun m hm => hm.mono grown), ?_⟩
  exact (confined_copy s.next v).mono fun m hm => h.new hm.1 hm.2

theorem Clear.adoptEntries (h : Clear n D s) (es : List (Key × Value)) :
    Clear n D (s.adoptEntries es).2 ∧
    ∀ e ∈ (s.adoptEntries es).1, Confined (Free D (s.adoptEntries es).2.next) e.2 := by
  have grown := (marks_copyEntries s.next es).1
  rw [adoptEntries_of_unshared h.unshared]
  refine ⟨h.withTiers grown (h.apart.mono fun m hm => hm.mono grown), fun e member => ?_⟩
  exact (confined_copyEntries s.next es e member).mono fun m hm => h.new hm.1 hm.2

theorem Clear.setTier (h : Clear n D s) (name : String) {v : Value} {next : Nat}
    (grown : s.next ≤ next) (value : Confined (Free D next) v) :
    Clear n D { s.setTier name v with next } :=
  h.withTiers grown ((h.apart.mono fun _ hm => hm.mono grown).set (.str name) value)

theorem Clear.setNodeState (h : Clear n D s) (id : String) {v : Value}
    (value : Confined (Free D s.next) v) {t : Store} {edits : List Edit}
    (done : s.setNodeState id v = .ok (t, edits)) : Clear n D t ∧ Spares D edits := by
  obtain ⟨⟨m, nodes, found⟩, rfl, rfl⟩ := setNodeState_ok done
  have there := h.apart _ _ found
  rw [place_node_of_unshared h.unshared found]
  refine ⟨h.setTier "nodes" (Nat.le_refl _) (.map there.mark (there.entries.set (.str id) value)),
    fun e he inside => ?_⟩
  obtain rfl := List.mem_singleton.1 he
  exact absurd inside there.mark.2

theorem Clear.makeNode (h : Clear n D s) (id : String) :
    Clear n D (s.makeNode id).1 ∧ Spares D (s.makeNode id).2 ∧ s.next ≤ (s.makeNode id).1.next := by
  rcases s.makeNode_cases id with ⟨-, same⟩ | ⟨-, made⟩
  · rw [same]
    exact ⟨h, nofun, Nat.le_refl _⟩
  · have grown : s.next ≤ s.next + 1 := Nat.le_succ _
    have ready : Clear n D { s with next := s.next + 1 } :=
      h.withTiers grown (h.apart.mono fun m hm => hm.mono grown)
    have fresh : Confined (Free D (s.next + 1)) (.map s.next []) :=
      .map (h.new (Nat.le_refl _) (Nat.lt_succ_self _)) confinedIn_nil
    rw [made]
    obtain ⟨clear, spares⟩ := ready.place ["nodes", id] fresh
    refine ⟨clear, spares, ?_⟩
    rw [place_of_unshared ready.unshared]
    exact Nat.le_trans grown (Nat.le_add_right _ _)

theorem Clear.mergeNode (h : Clear n D s) (holds : s.HoldsNodes) (id : String)
    {news : List (Key × Value)} (values : ∀ e ∈ news, Confined (Free D s.next) e.2) :
    Clear n D (s.mergeNode id news).1 ∧ Spares D (s.mergeNode id news).2 := by
  obtain ⟨m, nodes, found⟩ := holds
  cases here : s.nodeMapping? id with
  | none =>
    rw [mergeNode_of_none here]
    exact ⟨h, nofun⟩
  | some p =>
    obtain ⟨node, old⟩ := p
    have stands := (nodeMapping?_of_unshared h.unshared found).1 here
    have there := h.apart _ _ found
    have own := there.entries id _ stands
    have now : Confined (Free D s.next) (.map node (Entries.setAll news old)) :=
      .map own.mark (own.entries.setAll values)
    rw [mergeNode_of_unshared h.unshared found stands]
    refine ⟨h.setTier "nodes" (Nat.le_refl _) (.map there.mark (there.entries.set (.str id) now)),
      fun e he inside => ?_⟩
    obtain rfl := List.mem_singleton.1 he
    exact absurd inside own.mark.2

theorem Clear.adoptUpdates (h : Clear n D s) (id : String) {updates : Value} {t : Store}
    {edits : List Edit} {fault : Option Fault}
    (done : s.adoptUpdates id updates = .ok (t, edits, fault)) : Clear n D t ∧ Spares D edits := by
  obtain ⟨pairs, -, fault', written⟩ := adoptUpdates_ok done
  obtain ⟨clear, values⟩ := h.adoptEntries pairs
  obtain ⟨holds, news, pairs, rfl, rfl⟩ := updateNodeState_ok written
  obtain ⟨clear', spares, grown⟩ := clear.makeNode id
  rw [ownParts_of_unshared clear'.unshared] at pairs
  obtain ⟨rfl, -⟩ := Prod.mk.inj pairs
  obtain ⟨clear'', spares'⟩ := clear'.mergeNode (holdsNodes_makeNode clear.unshared holds id) id
    fun e member => (values e member).mono fun m hm => hm.mono grown
  refine ⟨clear'', fun e member => ?_⟩
  rcases List.mem_append.1 member with earlier | later
  · exact spares e earlier
  · exact spares' e later

theorem Clear.resetScene (h : Clear n D s) : Clear n D s.resetScene := by
  have new (i : Nat) (hi : i < 3) : Free D (s.next + 3) (s.next + i) :=
    h.new (Nat.le_add_right _ i) (Nat.add_lt_add_left hi _)
  have scene : Confined (Free D (s.next + 3)) (.map s.next [(.str "vars", .map (s.next + 1) [])]) :=
    .map (new 0 (by omega)) (confinedIn_nil.set (.str "vars")
      (.map (new 1 (by omega)) confinedIn_nil))
  have nodes : Confined (Free D (s.next + 3)) (.map (s.next + 2) []) :=
    .map (new 2 (by omega)) confinedIn_nil
  have tiers := h.apart.mono fun m hm => hm.mono (Nat.le_add_right s.next 3)
  exact h.withTiers (Nat.le_add_right _ _)
    ((tiers.set (.str "scene") scene).set (.str "nodes") nodes)

theorem confinedIn_emptyTiers (next : Nat) :
    ConfinedIn (fun m => next ≤ m ∧ m < next + 5) (emptyTiers next) := by
  intro s v found
  obtain ⟨k, member⟩ := exists_of_get? found
  refine confined_of_marks fun m hm => ?_
  have inside := marks_subset_marksEntries member hm
  simp only [emptyTiers, marksEntries, marks, List.append_nil, List.cons_append, List.nil_append,
    List.mem_cons,
    List.not_mem_nil, or_false] at inside
  omega

theorem Clear.restore (h : Clear n D s) {snapshot : Value} {t : Store}
    (done : s.restore snapshot = .ok t) : Clear n D t := by
  obtain ⟨-, rfl⟩ := restore_ok_of_unshared h.unshared done
  have grown := (marks_copyEntries (s.next + 5) (mergePairs snapshot).1).1
  refine h.withTiers (by omega) (ConfinedIn.setAll ?_ fun e member => ?_)
  · exact (confinedIn_emptyTiers s.next).mono fun m hm => h.new hm.1 (by omega)
  · exact (confined_copyEntries _ _ e member).mono fun m hm => h.new (by omega) hm.2

end Store

end SceneCourse
