import SceneCourse.Proofs.Reach

/-! The operations of a store, each by what it is made of: a write along a path of keys, an edit of
the mapping that is a node's state, and copies. Where the store is not shared, an edit changes the
place of the write and no other. -/

namespace SceneCourse

open Value (Edit)

namespace Value

theorem get?_along (rest : List String) (around : Value) (s : String) (es : List (Key × Value)) :
    Entries.get? (.str s) ((es.map fun (k, v) => (k, around.within v)).map
        fun (k, v) => (k, if k.same (.str s) then along rest v else v)) =
      (Entries.get? (.str s) es).map fun v => along rest (around.within v) := by
  induction es with
  | nil => rfl
  | cons e es ih =>
    obtain ⟨k, v⟩ := e
    rw [List.map_cons, List.map_cons, Entries.get?, Entries.get?]
    split
    next => rfl
    next => exact ih

/-- Entries under other texts stay. -/
theorem get?_along_of_ne {s other : String} (apart : other ≠ s) (rest : List String)
    (es : List (Key × Value)) :
    Entries.get? (.str other)
    (es.map fun (k, v) => (k, if k.same (.str s) then along rest v else v)) =
      Entries.get? (.str other) es := by
  induction es with
  | nil => rfl
  | cons e es ih =>
    obtain ⟨k, v⟩ := e
    rw [List.map_cons, Entries.get?, Entries.get?]
    split
    next here =>
      have past : k.same (.str s) = false := Bool.eq_false_iff.2 fun there =>
        apart (Key.str.inj ((Key.same_str_iff.1 here).symm.trans (Key.same_str_iff.1 there)))
      rw [if_neg (Bool.eq_false_iff.1 past)]
    next => exact ih

theorem get?_entries (m : Nat) (es : List (Key × Value)) (k : Key) :
    Entries.get? k (entries m es) = (Entries.get? k es).map ((map m es).within) := by
  rw [entries]
  generalize (map m es).within = f
  induction es with
  | nil => rfl
  | cons e es ih =>
    obtain ⟨l, v⟩ := e
    rw [List.map_cons, Entries.get?, Entries.get?]
    split
    next => rfl
    next => exact ih

theorem get?_tieEntries (around : List Nat) (k : Key) (es : List (Key × Value)) :
    Entries.get? k (tieEntries around es) = (Entries.get? k es).map (tieIn around) := by
  induction es with
  | nil => rfl
  | cons e es ih =>
    obtain ⟨l, v⟩ := e
    rw [tieEntries, Entries.get?, Entries.get?]
    split
    next => rfl
    next => exact ih

theorem get?_followEntries (e : Edit) (k : Key) (es : List (Key × Value)) :
    Entries.get? k (followEntries e es) = (Entries.get? k es).map (follow e) := by
  induction es with
  | nil => rfl
  | cons f es ih =>
    obtain ⟨l, v⟩ := f
    rw [followEntries, Entries.get?, Entries.get?]
    split
    next => rfl
    next => exact ih

end Value

namespace Store

open Value

variable {s t : Store} {id name : String} {v : Value} {m n : Nat}
  {es nodes news : List (Key × Value)}

/-! ### Tiers -/

theorem tier_eq_ok_iff : s.tier name = .ok v ↔ Entries.get? (.str name) s.tiers = some v := by
  rw [tier, root, part]
  cases Entries.get? (.str name) s.tiers with
  | none => simp
  | some w => simp [within_of_mark_eq_zero (show (Value.map 0 s.tiers).mark = 0 from rfl)]

theorem nodeEntries_eq_ok_iff :
    s.nodeEntries = .ok (m, nodes) ↔ Entries.get? (.str "nodes") s.tiers = some (.map m nodes) := by
  rw [← tier_eq_ok_iff, nodeEntries]
  split
  next there => simp [there]
  next v other there =>
    rw [there]
    refine iff_of_false (fun h => nomatch h) fun h => ?_
    exact other _ _ (Except.ok.inj h)
  next there => simp [there]

def HoldsNodes (s : Store) : Prop :=
  ∃ m nodes, Entries.get? (.str "nodes") s.tiers = some (.map m nodes)

theorem nodeEntries_of_not_holds (none : ¬s.HoldsNodes) : ∃ e, s.nodeEntries = .error e := by
  cases entries : s.nodeEntries with
  | error e => exact ⟨e, rfl⟩
  | ok p => exact absurd ⟨p.1, p.2, nodeEntries_eq_ok_iff.1 entries⟩ none

theorem write_node (found : Entries.get? (.str "nodes") s.tiers = some (.map m nodes)) (next : Nat)
    (id : String) (v : Value) : write next 0 s.tiers ["nodes", id] v =
      (Entries.set (.str "nodes") (.map m (Entries.set (.str id) v nodes)) s.tiers,
        ⟨m, .map m (Entries.set (.str id) v nodes)⟩) := by
  rw [write_into found (List.cons_ne_nil id [])]
  simp only [write, nest]

theorem setNodeState_of_holds (holds : s.HoldsNodes) (id : String) (v : Value) :
    s.setNodeState id v =
    .ok ({ (s.place ["nodes", id] v).1 with next := s.next }, (s.place ["nodes", id] v).2) := by
  obtain ⟨m, nodes, found⟩ := holds
  rw [setNodeState, tier_eq_ok_iff.2 found]

theorem setNodeState_of_not_holds (none : ¬s.HoldsNodes) (id : String) (v : Value) :
    ∃ e, s.setNodeState id v = .error e := by
  rw [setNodeState]
  split
  next m nodes there => exact absurd ⟨m, nodes, tier_eq_ok_iff.1 there⟩ none
  next => exact ⟨_, rfl⟩
  next e _ => exact ⟨e, rfl⟩

theorem setNodeState_ok {edits : List Edit} (done : s.setNodeState id v = .ok (t, edits)) :
    s.HoldsNodes ∧
    t = { (s.place ["nodes", id] v).1 with next := s.next } ∧
    edits = (s.place ["nodes", id] v).2 := by
  by_cases holds : s.HoldsNodes
  · rw [setNodeState_of_holds holds] at done
    obtain ⟨rfl, rfl⟩ := Prod.mk.inj (Except.ok.inj done)
    exact ⟨holds, rfl, rfl⟩
  · obtain ⟨e, failed⟩ := setNodeState_of_not_holds holds id v
    cases failed.symm.trans done

/-- The entry of the state that a path leads into, where the containers on the path are opened. -/
theorem exists_opened_cons (s : Store) (name : String) (rest : List String) :
    ∃ es, s.opened (name :: rest) = .map 0 es ∧
    Entries.get? (.str name) es =
      (Entries.get? (.str name) s.tiers).map (fun v => if s.shared then v.along rest else v) ∧
    ∀ other, other ≠ name → Entries.get? (.str other) es = Entries.get? (.str other) s.tiers := by
  cases shared : s.shared with
  | true =>
    rw [opened, if_pos shared]
    refine ⟨_, rfl, ?_, fun other apart => ?_⟩
    · rw [entries, get?_along]
      rfl
    · rw [get?_along_of_ne apart, entries_zero]
  | false =>
    rw [opened, shared]
    exact ⟨s.tiers, rfl, (Option.map_id_apply).symm, fun _ _ => rfl⟩

/-! ### Updates of a node -/

theorem makeNode_cases (s : Store) (id : String) :
    (s.nodeMapping? id).isSome = true ∧ s.makeNode id = (s, []) ∨
      s.nodeMapping? id = none ∧
        s.makeNode id = { s with next := s.next + 1 }.place ["nodes", id] (.map s.next []) := by
  rw [makeNode]
  cases s.nodeMapping? id with
  | some p => exact Or.inl ⟨rfl, rfl⟩
  | none => exact Or.inr ⟨rfl, rfl⟩

theorem mergeNode_of_some (here : s.nodeMapping? id = some (n, es)) (news : List (Key × Value)) :
    s.mergeNode id news = (s.edited (s.drafted ["nodes", id] (.map n (Entries.setAll news es))).1
      ⟨n, .map n (Entries.setAll news es)⟩, [⟨n, .map n (Entries.setAll news es)⟩]) := by
  rw [mergeNode, here]

theorem mergeNode_of_none (none : s.nodeMapping? id = none) (news : List (Key × Value)) :
    s.mergeNode id news = (s, []) := by
  rw [mergeNode, none]

theorem holdsNodes_of_mapping (here : s.nodeMapping? id = some (n, es)) : s.HoldsNodes := by
  rw [nodeMapping?] at here
  split at here
  next m nodes entries => exact ⟨m, nodes, nodeEntries_eq_ok_iff.1 entries⟩
  next => cases here

/-- Updates that are a mapping are merged as a whole. -/
theorem updateNodeState_of_parts (holds : s.HoldsNodes) {updates : Value}
    (parts : (s.makeNode id).1.ownParts (s.makeNode id).2 updates = .map m news) :
    s.updateNodeState id updates =
      .ok (((s.makeNode id).1.mergeNode id news).1,
        (s.makeNode id).2 ++ ((s.makeNode id).1.mergeNode id news).2, none) := by
  obtain ⟨n, nodes, found⟩ := holds
  rw [updateNodeState, nodeEntries_eq_ok_iff.2 found]
  simp only [parts, mergePairs]

/-- Updates are merged into the mapping that is the node's state, which is made first if there is
none. -/
theorem updateNodeState_ok {updates : Value} {edits : List Edit} {fault : Option Fault}
    (done : s.updateNodeState id updates = .ok (t, edits, fault)) : s.HoldsNodes ∧ ∃ news,
      mergePairs ((s.makeNode id).1.ownParts (s.makeNode id).2 updates) = (news, fault) ∧
        t = ((s.makeNode id).1.mergeNode id news).1 ∧
        edits = (s.makeNode id).2 ++ ((s.makeNode id).1.mergeNode id news).2 := by
  unfold updateNodeState at done
  split at done
  next p entries =>
    cases done
    exact ⟨⟨p.1, p.2, nodeEntries_eq_ok_iff.1 entries⟩, _, rfl, rfl, rfl⟩
  next => cases done

theorem adoptUpdates_of_merged {updates : Value} {pairs : List (Key × Value)} {fault : Option Fault}
    (merged : mergePairs (s.ownParts [] updates) = (pairs, fault)) : s.adoptUpdates id updates =
      ((s.adoptEntries pairs).2.updateNodeState id (.ofEntries (s.adoptEntries pairs).1)).map
        fun (t, edits, _) => (t, edits, fault) := by
  rw [adoptUpdates, merged]

theorem adoptUpdates_ok {updates : Value} {edits : List Edit} {fault : Option Fault}
    (done : s.adoptUpdates id updates = .ok (t, edits, fault)) : ∃ pairs,
      mergePairs (s.ownParts [] updates) = (pairs, fault) ∧
      ∃ fault', (s.adoptEntries pairs).2.updateNodeState id
        (.ofEntries (s.adoptEntries pairs).1) = .ok (t, edits, fault') := by
  simp only [adoptUpdates] at done
  generalize mergePairs (s.ownParts [] updates) = merging at done
  obtain ⟨pairs, broken⟩ := merging
  cases merged : (s.adoptEntries pairs).2.updateNodeState id
    (.ofEntries (s.adoptEntries pairs).1) with
  | error e =>
    rw [merged] at done
    cases done
  | ok answer =>
    obtain ⟨u, written, fault'⟩ := answer
    rw [merged] at done
    cases done
    exact ⟨pairs, rfl, fault', merged⟩

/-! ### Snapshots -/

theorem restore_of_fault {snapshot : Value} {e : Fault}
    (broken : (mergePairs (s.ownParts [] snapshot)).2 = some e) :
    s.restore snapshot = .error e := by
  rw [restore]
  generalize mergePairs (s.ownParts [] snapshot) = merged at broken
  obtain ⟨pairs, fault⟩ := merged
  obtain rfl : fault = some e := broken
  rfl

theorem restore_of_pairs {snapshot : Value} {pairs : List (Key × Value)}
    (merged : mergePairs (s.ownParts [] snapshot) = (pairs, none)) : s.restore snapshot = .ok
      { ({ s with next := s.next + 5 }.adoptEntries pairs).2 with
        tiers :=
          let tiers := Entries.setAll ({ s with next := s.next + 5 }.adoptEntries pairs).1
            (emptyTiers s.next)
          if s.shared then tieEntries [] tiers else tiers } := by
  rw [restore, merged]

theorem restore_ok {snapshot : Value} (done : s.restore snapshot = .ok t) : ∃ pairs,
    mergePairs (s.ownParts [] snapshot) = (pairs, none) ∧
      t = { ({ s with next := s.next + 5 }.adoptEntries pairs).2 with
        tiers :=
          let tiers := Entries.setAll ({ s with next := s.next + 5 }.adoptEntries pairs).1
            (emptyTiers s.next)
          if s.shared then tieEntries [] tiers else tiers } := by
  unfold restore at done
  split at done
  next => cases done
  next pairs merged =>
    cases done
    exact ⟨pairs, merged, rfl⟩

/-! ### The counter -/

theorem le_place (s : Store) (segs : List String) (v : Value) : s.next ≤ (s.place segs v).1.next :=
  Nat.le_add_right _ _

theorem le_set (s : Store) (path : String) (v : Value) : s.next ≤ (s.set path v).1.next :=
  le_place s (segments path) v

theorem le_adopt (s : Store) (v : Value) : s.next ≤ (s.adopt v).2.next := by
  unfold adopt
  split
  next => exact le_copyTied ⟨s.next, []⟩ v
  next => exact (marks_copy s.next v).1

theorem le_adoptEntries (s : Store) (es : List (Key × Value)) :
    s.next ≤ (s.adoptEntries es).2.next := by
  unfold adoptEntries
  split
  next => exact le_copyTiedEntries ⟨s.next, []⟩ es
  next => exact (marks_copyEntries s.next es).1

theorem next_edited (s : Store) (written : List (Key × Value)) (e : Edit) :
    (s.edited written e).next = s.next := rfl

theorem le_makeNode (s : Store) (id : String) : s.next ≤ (s.makeNode id).1.next := by
  rcases s.makeNode_cases id with ⟨-, same⟩ | ⟨-, made⟩
  · exact Nat.le_of_eq (congrArg (·.1.next) same).symm
  · rw [made]
    exact Nat.le_trans (Nat.le_succ _) (le_place { s with next := s.next + 1 } _ _)

theorem next_mergeNode (s : Store) (id : String) (news : List (Key × Value)) :
    (s.mergeNode id news).1.next = s.next := by
  cases here : s.nodeMapping? id with
  | none => rw [mergeNode_of_none here]
  | some p => rw [mergeNode_of_some here, next_edited]

theorem le_adoptUpdates {updates : Value} {edits : List Edit} {fault : Option Fault}
    (done : s.adoptUpdates id updates = .ok (t, edits, fault)) : s.next ≤ t.next := by
  obtain ⟨_, -, _, written⟩ := adoptUpdates_ok done
  obtain ⟨-, news, -, rfl, -⟩ := updateNodeState_ok written
  rw [next_mergeNode]
  exact Nat.le_trans (le_adoptEntries s _) (le_makeNode _ id)

theorem next_setNodeState {edits : List Edit} (done : s.setNodeState id v = .ok (t, edits)) :
    t.next = s.next := by
  obtain ⟨-, rfl, -⟩ := setNodeState_ok done
  rfl

theorem le_restore {snapshot : Value} (done : s.restore snapshot = .ok t) : s.next ≤ t.next := by
  obtain ⟨pairs, -, rfl⟩ := restore_ok done
  exact Nat.le_trans (Nat.le_add_right _ 5) (le_adoptEntries { s with next := s.next + 5 } pairs)

/-! ### What an operation leaves alone -/

theorem tiers_adopt (s : Store) (v : Value) : (s.adopt v).2.tiers = s.tiers := by
  unfold adopt
  split <;> rfl

theorem tiers_adoptEntries (s : Store) (es : List (Key × Value)) :
    (s.adoptEntries es).2.tiers = s.tiers := by
  unfold adoptEntries
  split <;> rfl

theorem shared_adopt (s : Store) (v : Value) : (s.adopt v).2.shared = s.shared := by
  unfold adopt
  split <;> rfl

theorem plainEntries_adoptEntries (s : Store) (es : List (Key × Value)) :
    plainEntries (s.adoptEntries es).1 = plainEntries es := by
  rw [adoptEntries]
  split
  next => exact plainEntries_copyTiedEntries _ es
  next => exact plainEntries_copyEntries _ es

theorem shared_adoptEntries (s : Store) (es : List (Key × Value)) :
    (s.adoptEntries es).2.shared = s.shared := by
  unfold adoptEntries
  split <;> rfl

theorem shared_place (s : Store) (segs : List String) (v : Value) :
    (s.place segs v).1.shared = s.shared := rfl

theorem shared_makeNode (s : Store) (id : String) : (s.makeNode id).1.shared = s.shared := by
  rcases s.makeNode_cases id with ⟨-, same⟩ | ⟨-, made⟩
  · rw [same]
  · rw [made, shared_place]

theorem shared_mergeNode (s : Store) (id : String) (news : List (Key × Value)) :
    (s.mergeNode id news).1.shared = s.shared := by
  cases here : s.nodeMapping? id with
  | none => rw [mergeNode_of_none here]
  | some p =>
    rw [mergeNode_of_some here]
    rfl

theorem shared_setNodeState {edits : List Edit} (done : s.setNodeState id v = .ok (t, edits)) :
    t.shared = s.shared := by
  obtain ⟨-, rfl, -⟩ := setNodeState_ok done
  rfl

theorem shared_updateNodeState {updates : Value} {edits : List Edit} {fault : Option Fault}
    (done : s.updateNodeState id updates = .ok (t, edits, fault)) : t.shared = s.shared := by
  obtain ⟨-, news, -, rfl, -⟩ := updateNodeState_ok done
  rw [shared_mergeNode, shared_makeNode]

theorem shared_adoptUpdates {updates : Value} {edits : List Edit} {fault : Option Fault}
    (done : s.adoptUpdates id updates = .ok (t, edits, fault)) : t.shared = s.shared := by
  obtain ⟨pairs, -, _, written⟩ := adoptUpdates_ok done
  rw [shared_updateNodeState written, shared_adoptEntries]

theorem shared_restore {snapshot : Value} (done : s.restore snapshot = .ok t) :
    t.shared = s.shared := by
  obtain ⟨pairs, -, rfl⟩ := restore_ok done
  exact shared_adoptEntries { s with next := s.next + 5 } pairs

/-! ### Stores that are not shared -/

section

variable (unshared : s.shared = false)

include unshared

theorem opened_of_unshared (segs : List String) : s.opened segs = s.root :=
  by simp [opened, unshared]

theorem drafted_of_unshared (segs : List String) (v : Value) :
    s.drafted segs v = write s.next 0 s.tiers segs v := by
  rw [drafted, opened_of_unshared unshared]
  rfl

theorem edited_of_unshared (written : List (Key × Value)) (e : Edit) :
    s.edited written e = { s with tiers := written } := by simp [edited, unshared]

theorem place_of_unshared (segs : List String) (v : Value) :
    s.place segs v = ({ s with tiers := (write s.next 0 s.tiers segs v).1, next :=
      s.next + segs.length },
      [(write s.next 0 s.tiers segs v).2]) := by
  simp only [place, drafted_of_unshared unshared, edited_of_unshared unshared]

theorem set_of_unshared (path : String) (v : Value) :
    s.set path v = ({ s with
        tiers := (write s.next 0 s.tiers (segments path) v).1
        next := s.next + (segments path).length },
          [(write s.next 0 s.tiers (segments path) v).2]) :=
  place_of_unshared unshared (segments path) v

theorem adopt_of_unshared (v : Value) :
    s.adopt v = ((copy s.next v).1, { s with next := (copy s.next v).2 }) := by
      simp [adopt, unshared]

theorem adoptEntries_of_unshared (es : List (Key × Value)) :
    s.adoptEntries es = ((copyEntries s.next es).1,
      { s with next := (copyEntries s.next es).2 }) := by
  simp [adoptEntries, unshared]

theorem ownEntries_of_unshared (mark : Nat) (es : List (Key × Value)) :
    s.ownEntries mark es = es := by
  simp [ownEntries, unshared]

theorem ownParts_of_unshared (edits : List Edit) (v : Value) : s.ownParts edits v = v := by
  simp [ownParts, unshared]

theorem restore_of_unshared {snapshot : Value} (whole : (mergePairs snapshot).2 = none) :
    s.restore snapshot = .ok { s with
      tiers := Entries.setAll (copyEntries (s.next + 5) (mergePairs snapshot).1).1
        (emptyTiers s.next)
      next := (copyEntries (s.next + 5) (mergePairs snapshot).1).2 } := by
  simp only [restore, ownParts_of_unshared unshared]
  generalize mergePairs snapshot = merged at whole
  obtain ⟨pairs, fault⟩ := merged
  obtain rfl : fault = none := whole
  simp [adoptEntries, unshared]

theorem restore_ok_of_unshared {snapshot : Value} (done : s.restore snapshot = .ok t) :
    (mergePairs snapshot).2 = none ∧ t = { s with
      tiers := Entries.setAll (copyEntries (s.next + 5) (mergePairs snapshot).1).1
        (emptyTiers s.next)
      next := (copyEntries (s.next + 5) (mergePairs snapshot).1).2 } := by
  cases fault : (mergePairs snapshot).2 with
  | none => exact ⟨rfl, Except.ok.inj (done.symm.trans (restore_of_unshared unshared fault))⟩
  | some e =>
    have failed : s.restore snapshot = .error e :=
      restore_of_fault (by rwa [ownParts_of_unshared unshared])
    cases failed.symm.trans done

theorem place_node_of_unshared (found : Entries.get? (.str "nodes") s.tiers = some (.map m nodes))
    (id : String) (v : Value) : s.place ["nodes", id] v =
      ({ s with
          tiers := Entries.set (.str "nodes") (.map m (Entries.set (.str id) v nodes)) s.tiers
          next := s.next + 2 },
        [⟨m, .map m (Entries.set (.str id) v nodes)⟩]) := by
  rw [place_of_unshared unshared, write_node found]
  rfl

theorem nodeMapping?_of_unshared
    (found : Entries.get? (.str "nodes") s.tiers = some (.map m nodes)) :
    s.nodeMapping? id = some (n, es) ↔ Entries.get? (.str id) nodes = some (.map n es) := by
  rw [nodeMapping?, nodeEntries_eq_ok_iff.2 found]
  simp only [ownEntries_of_unshared unshared]
  split
  next there => simp [there]
  next other => exact iff_of_false (fun h => nomatch h) (other n es)

theorem mergeNode_of_unshared (found : Entries.get? (.str "nodes") s.tiers = some (.map m nodes))
    (here : Entries.get? (.str id) nodes = some (.map n es)) (news : List (Key × Value)) :
    s.mergeNode id news =
      ({ s with
          tiers := Entries.set (.str "nodes")
            (.map m (Entries.set (.str id) (.map n (Entries.setAll news es)) nodes)) s.tiers },
        [⟨n, .map n (Entries.setAll news es)⟩]) := by
  rw [mergeNode_of_some ((nodeMapping?_of_unshared unshared found).2 here),
    drafted_of_unshared unshared,
    edited_of_unshared unshared, write_node found]

theorem holdsNodes_makeNode (holds : s.HoldsNodes) (id : String) :
    (s.makeNode id).1.HoldsNodes := by
  rcases s.makeNode_cases id with ⟨-, same⟩ | ⟨-, made⟩
  · rwa [same]
  · obtain ⟨m, nodes, found⟩ := holds
    have unshared' : { s with next := s.next + 1 }.shared = false := unshared
    rw [made, place_node_of_unshared unshared' found]
    exact ⟨m, _, Entries.get?_set_str_self _ _ _⟩

end

end Store

end SceneCourse
