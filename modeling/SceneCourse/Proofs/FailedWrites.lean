import SceneCourse.Proofs.Mishap
import SceneCourse.Proofs.NodePaths
import SceneCourse.Proofs.Phases

/-! Operations on the state that fail. A write at a path does not fail. A state of a node that
cannot be put in place, or a snapshot that cannot be taken over, is refused as a whole. Updates of a
node are written one by one into a mapping that is made first if there is none, so updates that are
no mapping may come to a fault on the way. Proved: when each operation fails, and that it leaves the
state as it was, but for the node whose updates come to a fault; its state is then a mapping with
all that came before. That mapping may stand at several places, and it changes at all of them. -/

namespace SceneCourse

open Step (Fails)
open Value (Edit plain plainEntries put)

namespace Value

/-! ### Values from outside -/

/-- A value none of whose containers stands in a state. -/
structure Foreign (v : Value) : Prop where
  acyclic : v.isCyclic = false
  unmarked : Holds (· = 0) v

structure ForeignEntries (es : List (Key × Value)) : Prop where
  acyclic : anyCyclicEntry es = false
  unmarked : HoldIn (· = 0) es

variable {v : Value} {es : List (Key × Value)}

theorem Foreign.closed (h : Foreign v) : v.tie = v :=
  tieIn_eq_self [] v
    (fun m marked => by
      rw [List.count_eq_zero.2 fun inside => marked (h.unmarked m (marks_subset_held v inside))]
      exact Nat.zero_le 1)
    fun _ _ _ => List.not_mem_nil

theorem ForeignEntries.closed (h : ForeignEntries es) : tieEntries [] es = es :=
  tieEntries_eq_self [] es
    (fun m marked => by
      rw [List.count_eq_zero.2 fun inside => marked
        (h.unmarked m (marksEntries_subset_heldEntries es inside))]
      exact Nat.zero_le 1)
    fun _ _ _ => List.not_mem_nil

theorem isCyclic_pairOf {i : Nat} {p : Key × Value} (acyclic : v.isCyclic = false)
    (pair : Store.pairOf i v = .ok p) : p.2.isCyclic = false := by
  unfold Store.pairOf at pair
  split at pair
  next m k w =>
    split at pair
    next =>
      cases pair
      exact isCyclic_of_mem_items acyclic (List.mem_cons_of_mem k List.mem_cons_self)
    next => cases pair
  next => cases pair
  next =>
    split at pair
    next =>
      cases pair
      rfl
    next => cases pair
  next k _ l _ =>
    cases pair
    cases l <;> rfl
  next => cases pair
  next => cases pair

theorem anyCyclicEntry_pairsOf (i : Nat) {vs : List Value}
    (acyclic : ∀ v ∈ vs, v.isCyclic = false) : anyCyclicEntry (Store.pairsOf i vs).1 = false := by
  induction vs generalizing i with
  | nil => rfl
  | cons v vs ih =>
    obtain ⟨here, later⟩ := List.forall_mem_cons.1 acyclic
    rw [Store.pairsOf]
    split
    next pair =>
      rw [anyCyclicEntry, Bool.or_eq_false_iff]
      exact ⟨isCyclic_pairOf here pair, ih (i + 1) later⟩
    next => rfl

theorem Foreign.mergePairs (h : Foreign v) : ForeignEntries (Store.mergePairs v).1 := by
  refine ⟨?_, Store.holdIn_mergePairs h.unmarked⟩
  have acyclic := h.acyclic
  unfold Store.mergePairs
  split
  next => exact acyclic
  next => exact anyCyclicEntry_pairsOf 0 fun x member => isCyclic_of_mem_items acyclic member
  next s =>
    refine anyCyclicEntry_pairsOf 0 fun x member => ?_
    obtain ⟨c, -, rfl⟩ := List.mem_map.1 member
    rfl
  next => rfl

end Value

namespace Store

open Value

variable {s t : Store} {id : String} {v updates : Value} {N : Nat}
  {es nodes news : List (Key × Value)}

theorem holdsNodes_iff : s.HoldsNodes ↔ ∃ m es, s.tier "nodes" = .ok (.map m es) := by
  simp only [HoldsNodes, tier_eq_ok_iff]

theorem fault_of_isMapping (mapping : updates.isMapping = true) (s : Store) :
    (mergePairs (s.ownParts [] updates)).2 = none := by
  cases updates with
  | map m es =>
    obtain ⟨fs, parts, -⟩ := s.exists_ownParts_map m es
    rw [parts, mergePairs]
  | _ => cases mapping

/-! ### Updates where nothing is shared -/

def nodeFields (s : Store) (id : String) : List (Key × Value) :=
  ((s.nodeMapping? id).map Prod.snd).getD []

/-- A value reads as the entries of a node's state with pairs written over them, one after the
other. -/
def MergesTo (s : Store) (id : String) (pairs : List (Key × Value)) (now : Value) : Prop :=
  ∃ news, plainEntries news = plainEntries pairs ∧
    now = (Value.map 0 (Entries.setAll news (s.nodeFields id))).plain

/-- Updates leave the entries of the node's state with all that was merged written over them. -/
theorem exists_merged_of_unshared (unshared : s.shared = false)
    (found : Entries.get? (.str "nodes") s.tiers = some (.map N nodes)) (id : String)
    (news : List (Key × Value)) :
    ∃ t edits n, s.updateNodeState id (.ofEntries news) = .ok (t, edits, none) ∧
      t.tiers = (write s.next 0 s.tiers ["nodes", id]
        (.map n (Entries.setAll news (s.nodeFields id)))).1 := by
  have unshared' : (s.makeNode id).1.shared = false := (s.shared_makeNode id).trans unshared
  have parts : (s.makeNode id).1.ownParts (s.makeNode id).2 (.ofEntries news) = .ofEntries news :=
    ownParts_of_unshared unshared' _ _
  have done := updateNodeState_of_parts ⟨N, nodes, found⟩ parts
  simp only [write_node found]
  cases here : s.nodeMapping? id with
  | some p =>
    obtain ⟨n, old⟩ := p
    have made : s.makeNode id = (s, []) := by rw [makeNode, here]
    refine ⟨_, _, n, done, ?_⟩
    rw [made, mergeNode_of_unshared unshared found
      ((nodeMapping?_of_unshared unshared found).1 here), nodeFields, here]
    rfl
  | none =>
    let s' : Store := { s with next := s.next + 1 }
    have made : s.makeNode id = s'.place ["nodes", id] (.map s.next []) := by rw [makeNode, here]
    rw [place_node_of_unshared (s := s') unshared found] at made
    refine ⟨_, _, s.next, done, ?_⟩
    rw [made, mergeNode_of_unshared (by exact unshared) (Entries.get?_set_str_self _ _ _)
      (Entries.get?_set_str_self _ _ _),
      nodeFields, here]
    -- the empty mapping that was put in place first is written over
    simp only [Entries.set_set, Option.map_none, Option.getD_none, s']

/-! ### Updates where mappings stand at several places -/

/-- The state in which the mapping that is a node's state has pairs written over its entries,
wherever it stands. If there was none, an empty one has been put in its place first. -/
def MergedIn (s t : Store) (id : String) (pairs : List (Key × Value)) : Prop :=
  ∃ later n old news, s.next ≤ later ∧ (makeNode { s with next := later } id).1.nodeMapping? id =
    some (n, old) ∧
    plainEntries news = plainEntries pairs ∧
    t.root = ((makeNode { s with next := later } id).1.root.follow
      ⟨n, .map n (Entries.setAll news old)⟩).tie

/-- All containers of the state have marks, from before. -/
def AllMarked (s : Store) : Prop := HoldIn (fun m => 0 < m ∧ m < s.next) s.tiers

theorem AllMarked.mark_pos (marked : s.AllMarked) {n : Nat} {old : List (Key × Value)}
    (here : s.nodeMapping? id = some (n, old) ∨ n = s.next) (positive : 0 < s.next) : 0 < n := by
  rcases here with found | rfl
  · have node := holds_nodeMapping (P := fun m => 0 < m ∧ m < s.next) found fun v tier =>
      marked.get? tier
    exact (node n List.mem_cons_self).1
  · exact positive

/-- Entries that have just been taken in have no container that was there before. -/
theorem ownParts_adoptEntries (shared : s.shared = true) (positive : 0 < s.next)
    {pairs : List (Key × Value)} (foreign : ForeignEntries pairs) (t : Store) {edits : List Edit}
    (before : ∀ e ∈ edits, e.mark < s.next) :
    t.ownParts edits (.ofEntries (s.adoptEntries pairs).1) = .ofEntries (s.adoptEntries pairs).1 := by
  have acyclic : anyCyclicEntry (s.adoptEntries pairs).1 = false := by
    rw [← anyCyclicEntry_plainEntries, plainEntries_adoptEntries, anyCyclicEntry_plainEntries,
      foreign.acyclic]
  have closed : tieEntries [] (s.adoptEntries pairs).1 = (s.adoptEntries pairs).1 := by
    rw [adoptEntries, if_pos shared]
    exact tieEntries_copyTiedEntries (.new positive) pairs foreign.closed
  have new : HoldIn (s.next ≤ ·) (s.adoptEntries pairs).1 :=
    holdIn_adoptEntries shared pairs fun m after _ => after
  refine ownParts_of_apart fun _ => ⟨acyclic, ?_, fun e member inside => ?_⟩
  · exact (tieIn_map_eq_self_iff [] 0 _).2 ⟨fun marked => absurd rfl marked, closed⟩
  · rcases List.mem_cons.1 inside with unmarked | inside
    · exact unmarked
    · have after : s.next ≤ e.mark := new e.mark (marksEntries_subset_heldEntries _ inside)
      exact absurd (before e member) (Nat.not_lt_of_le after)

theorem exists_merged_of_shared (shared : s.shared = true)
    (found : Entries.get? (.str "nodes") s.tiers = some (.map N nodes)) (all : s.AllMarked)
    (id : String) {pairs : List (Key × Value)} (foreign : ForeignEntries pairs) : ∃ t edits,
      (s.adoptEntries pairs).2.updateNodeState id (.ofEntries (s.adoptEntries pairs).1) = .ok
        (t, edits, none) ∧
        s.MergedIn t id pairs := by
  let u : Store := (s.adoptEntries pairs).2
  let news : List (Key × Value) := (s.adoptEntries pairs).1
  obtain ⟨positive, below⟩ : 0 < N ∧ N < s.next := all.get? found N List.mem_cons_self
  have later : s.next ≤ u.next := le_adoptEntries s pairs
  have same : u = { s with next := u.next } := by
    simp only [u, adoptEntries, shared, if_true]
  have found' : Entries.get? (.str "nodes") u.tiers = some (.map N nodes) := by
    rw [same]
    exact found
  obtain ⟨fs, n, old, -, node, ofTier, here⟩ :=
    nodeMapping?_makeNode found' (fun _ => Nat.lt_of_lt_of_le below later) id
  have marked : n ≠ 0 := by
    have all' : u.AllMarked := by
      rw [same]
      exact all.mono fun m own => ⟨own.1, Nat.lt_of_lt_of_le own.2 later⟩
    exact Nat.ne_of_gt (all'.mark_pos here (Nat.lt_of_lt_of_le (Nat.zero_lt_of_lt below) later))
  have shared' : (u.makeNode id).1.shared = true := by
    rw [shared_makeNode, shared_adoptEntries, shared]
  have copied : plainEntries news = plainEntries pairs := plainEntries_adoptEntries s pairs
  -- the mapping of the tier was there before the copies
  have parts : (u.makeNode id).1.ownParts (u.makeNode id).2 (.ofEntries news) = .ofEntries news :=
    ownParts_adoptEntries shared (Nat.zero_lt_of_lt below) foreign _ fun e member =>
      ofTier e member ▸ below
  refine ⟨((u.makeNode id).1.mergeNode id news).1,
    (u.makeNode id).2 ++ ((u.makeNode id).1.mergeNode id news).2, ?_,
    u.next, n, old, news, later, same ▸ node, copied, ?_⟩
  · exact updateNodeState_of_parts ⟨N, nodes, found'⟩ parts
  · have tiers : ((u.makeNode id).1.mergeNode id news).1.tiers = tieEntries []
        (followEntries ⟨n, .map n (Entries.setAll news old)⟩ (u.makeNode id).1.tiers) := by
      rw [mergeNode_of_some node]
      simp only [edited, shared', if_true, afterEdit, if_neg marked]
    rw [← same, root, root, tiers, follow, if_neg fun zero => marked zero.1.symm]
    rfl

end Store

namespace Session

open Store (mergePairs)

variable {η : Type} {u : Session η} {id : String} {v updates snapshot : Value} {e : Fault}

/-! ### Operations that are done as a whole -/

theorem not_fails_setCopy (path : String) (v : Value) : ¬Fails (setCopy path v) u := by
  rintro ⟨e, ⟨⟩⟩

theorem fails_setNode_iff : Fails (setNode id v) u ↔ ¬u.store.HoldsNodes := by
  rw [fails_setNode, Store.holdsNodes_iff]
  exact ⟨fun none ⟨m, es, there⟩ => none m es there, fun none m es there => none ⟨m, es, there⟩⟩

theorem setNode_of_fails (fails : Fails (setNode id v) u) : (setNode id v u).2 = u := by
  obtain ⟨e, failed⟩ := fails
  rw [setNode] at failed ⊢
  dsimp only at failed ⊢
  split
  next done =>
    rw [done] at failed
    cases failed
  next => rfl

theorem resume_eq (snapshot : Value) (u : Session η) : resume snapshot u =
    Step.bind (Step.ofExcept (u.store.restore snapshot))
    (fun store => Step.update ({ · with store })) u := by
  unfold resume
  rfl

theorem resume_of_pairs {pairs : List (Key × Value)}
    (merged : mergePairs (u.store.ownParts [] snapshot) = (pairs, none)) :
    ∃ t, resume snapshot u = (.done (), t) := by
  rw [resume_eq, Store.restore_of_pairs merged]
  exact ⟨_, rfl⟩

theorem resume_of_fault (broken : (mergePairs (u.store.ownParts [] snapshot)).2 = some e) :
    resume snapshot u = (.failed e, u) := by
  rw [resume_eq, Store.restore_of_fault broken]
  rfl

theorem fails_resume_iff :
    Fails (resume snapshot) u ↔ ∃ e, (mergePairs (u.store.ownParts [] snapshot)).2 = some e := by
  cases fault : (mergePairs (u.store.ownParts [] snapshot)).2 with
  | none =>
    exact iff_of_false (Step.not_fails_of_done (resume_of_pairs (Prod.ext rfl fault))) (by simp)
  | some e => exact iff_of_true ⟨e, by rw [resume_of_fault fault]⟩ ⟨e, rfl⟩

theorem resume_of_fails (fails : Fails (resume snapshot) u) : (resume snapshot u).2 = u := by
  obtain ⟨e, broken⟩ := fails_resume_iff.1 fails
  rw [resume_of_fault broken]

/-! ### Updates of a node -/

/-- Where there are no nodes, an update fails before anything is written. -/
theorem updateNode_of_not_holds (none : ¬u.store.HoldsNodes) (id : String) (updates : Value) :
    Fails (updateNode id updates) u ∧ (updateNode id updates u).2 = u := by
  obtain ⟨pairs, fault, merged⟩ : ∃ pairs fault, mergePairs (u.store.ownParts [] updates) =
      (pairs, fault) := ⟨_, _, rfl⟩
  have none' : ¬(u.store.adoptEntries pairs).2.HoldsNodes := by
    rwa [Store.HoldsNodes, Store.tiers_adoptEntries]
  obtain ⟨e, missing⟩ := Store.nodeEntries_of_not_holds none'
  have stopped : u.store.adoptUpdates id updates = .error e := by
    rw [Store.adoptUpdates_of_merged merged, Store.updateNodeState, missing]
    rfl
  have failed : updateNode id updates u = (.failed e, u) := by
    rw [updateNode, stopped]
  rw [failed]
  exact ⟨⟨e, by rw [failed]⟩, rfl⟩

/-- Where there are nodes, an update fails at a fault in what it merges, and keeps what comes
before. -/
theorem updateNode_of_merged {t : Store} {edits : List Edit} {pairs : List (Key × Value)}
    {fault fault' : Option Fault}
    (merged : mergePairs (u.store.ownParts [] updates) = (pairs, fault))
    (done : (u.store.adoptEntries pairs).2.updateNodeState id
      (.ofEntries (u.store.adoptEntries pairs).1) = .ok (t, edits, fault')) :
    (Fails (updateNode id updates) u ↔ ∃ e, fault = some e) ∧
      (updateNode id updates u).2.store = t := by
  have adopted : u.store.adoptUpdates id updates = .ok (t, edits, fault) := by
    rw [Store.adoptUpdates_of_merged merged, done]
    rfl
  cases fault with
  | none =>
    have whole : updateNode id updates u = (.done (), u.commit t edits) := by
      rw [updateNode, adopted]
    exact ⟨iff_of_false (Step.not_fails_of_done ⟨_, whole⟩) (by simp), by rw [whole]; rfl⟩
  | some e =>
    have failed : updateNode id updates u = (.failed e, u.commit t edits) := by
      rw [updateNode, adopted]
    exact ⟨iff_of_true ⟨e, by rw [failed]⟩ ⟨e, rfl⟩, by rw [failed]; rfl⟩

theorem fails_updateNode_iff : Fails (updateNode id updates) u ↔
    ¬u.store.HoldsNodes ∨ ∃ e, (mergePairs (u.store.ownParts [] updates)).2 = some e := by
  by_cases holds : u.store.HoldsNodes
  · let pairs := (mergePairs (u.store.ownParts [] updates)).1
    obtain ⟨m, nodes, found⟩ := holds
    have found' : Entries.get? (.str "nodes") (u.store.adoptEntries pairs).2.tiers =
        some (.map m nodes) := by
      rwa [Store.tiers_adoptEntries]
    have done : ∃ t edits fault, (u.store.adoptEntries pairs).2.updateNodeState id
        (.ofEntries (u.store.adoptEntries pairs).1) = .ok (t, edits, fault) := by
      rw [Store.updateNodeState, Store.nodeEntries_eq_ok_iff.2 found']
      exact ⟨_, _, _, rfl⟩
    obtain ⟨t, edits, fault, done⟩ := done
    rw [(updateNode_of_merged rfl done).1]
    exact ⟨Or.inr, fun h => h.resolve_left fun none => none ⟨m, nodes, found⟩⟩
  · exact iff_of_true (updateNode_of_not_holds holds id updates).1 (Or.inl holds)

/-- Where nothing is shared, an update merges all pairs up to a fault into the state of the node,
and does no more. -/
theorem updateNode_of_unshared (holds : u.store.HoldsNodes) (unshared : u.store.shared = false)
    (id : String) (updates : Value) : ∃ now, u.store.MergesTo id (mergePairs updates).1 now ∧
      (updateNode id updates u).2.store.root.plain = put ["nodes", id] now u.store.root.plain := by
  obtain ⟨m, nodes, found⟩ := holds
  let pairs := (mergePairs updates).1
  let t : Store := (u.store.adoptEntries pairs).2
  have merged : mergePairs (u.store.ownParts [] updates) = (pairs, (mergePairs updates).2) := by
    rw [Store.ownParts_of_unshared unshared]
  have tiers : t.tiers = u.store.tiers := Store.tiers_adoptEntries _ _
  have unshared' : t.shared = false := (Store.shared_adoptEntries _ _).trans unshared
  have found' : Entries.get? (.str "nodes") t.tiers = some (.map m nodes) := tiers ▸ found
  obtain ⟨after, edits, n, done, written⟩ :=
    Store.exists_merged_of_unshared unshared' found' id (u.store.adoptEntries pairs).1
  have fields : t.nodeFields id = u.store.nodeFields id := by
    have same (n : Nat) (es : List (Key × Value)) : t.nodeMapping? id = some (n, es) ↔
        u.store.nodeMapping? id = some (n, es) :=
      (Store.nodeMapping?_of_unshared unshared' found').trans
        (Store.nodeMapping?_of_unshared unshared found).symm
    have mapping : t.nodeMapping? id = u.store.nodeMapping? id := Option.ext fun p => same p.1 p.2
    rw [Store.nodeFields, Store.nodeFields, mapping]
  refine ⟨_, ⟨(u.store.adoptEntries pairs).1, Store.plainEntries_adoptEntries _ _, rfl⟩, ?_⟩
  rw [(updateNode_of_merged merged done).2, Store.root, written, tiers, fields]
  exact Store.plain_write t.next 0 u.store.tiers (List.cons_ne_nil _ _) _

/-- Where mappings may stand at several places, an update merges all pairs up to a fault into the
mapping that is the state of the node, wherever it stands. -/
theorem updateNode_of_shared (holds : u.store.HoldsNodes) (shared : u.store.shared = true)
    (all : u.store.AllMarked) (id : String) (foreign : updates.Foreign) :
    u.store.MergedIn (updateNode id updates u).2.store id (mergePairs updates).1 := by
  obtain ⟨N, nodes, found⟩ := holds
  have merged : mergePairs (u.store.ownParts [] updates) =
      ((mergePairs updates).1, (mergePairs updates).2) := by
    rw [Store.ownParts_of_apart fun _ => ⟨foreign.acyclic, foreign.closed,
      fun _ none => absurd none List.not_mem_nil⟩]
  obtain ⟨t, edits, done, result⟩ :=
    Store.exists_merged_of_shared shared found all id foreign.mergePairs
  rwa [(updateNode_of_merged merged done).2]

/-- A write at a path does not fail. A state is put in the place of a node's, or a snapshot taken
over, as a whole or not at all. Updates of a node fail where there are no nodes, which changes
nothing, or come to a fault, which a mapping has not; then nothing has changed but the mapping that
is the state of the node, to what the pairs before the fault make of it. In a state whose mappings
may stand at several places, that mapping has changed wherever it stands. -/
theorem operations_failing (u : Session η) :
    (∀ path v, ¬Fails (setCopy path v) u) ∧
    (∀ id v, (Fails (setNode id v) u ↔ ¬u.store.HoldsNodes) ∧
      (Fails (setNode id v) u → (setNode id v u).2 = u)) ∧
    (∀ snapshot, (Fails (resume snapshot) u ↔
      ∃ e, (mergePairs (u.store.ownParts [] snapshot)).2 = some e) ∧
      (Fails (resume snapshot) u → (resume snapshot u).2 = u)) ∧
    ∀ id updates,
      (Fails (updateNode id updates) u ↔
        ¬u.store.HoldsNodes ∨ ∃ e, (mergePairs (u.store.ownParts [] updates)).2 = some e) ∧
      (Fails (updateNode id updates) u → updates.isMapping = true ∨ ¬u.store.HoldsNodes →
        (updateNode id updates u).2 = u) ∧
      (u.store.HoldsNodes → u.store.shared = false →
        ∃ now, u.store.MergesTo id (mergePairs updates).1 now ∧
        (updateNode id updates u).2.store.root.plain = put ["nodes", id] now u.store.root.plain ∧
        ((updateNode id updates u).2.store.root.plain = u.store.root.plain ↔
          u.store.root.plain.under ["nodes", id] = some now)) ∧
      (u.store.HoldsNodes → u.store.shared = true → u.store.AllMarked → updates.Foreign →
        u.store.MergedIn (updateNode id updates u).2.store id (mergePairs updates).1) := by
  refine ⟨not_fails_setCopy, fun id v => ⟨fails_setNode_iff, setNode_of_fails⟩,
    fun snapshot => ⟨fails_resume_iff, resume_of_fails⟩, fun id updates =>
      ⟨fails_updateNode_iff, ?_, fun holds unshared => ?_,
        fun holds shared all foreign => updateNode_of_shared holds shared all id foreign⟩⟩
  · rintro stopped (mapping | none)
    · rcases fails_updateNode_iff.1 stopped with none | ⟨e, fault⟩
      · exact (updateNode_of_not_holds none id updates).2
      · cases fault.symm.trans (Store.fault_of_isMapping mapping u.store)
    · exact (updateNode_of_not_holds none id updates).2
  · obtain ⟨now, merges, seen⟩ := updateNode_of_unshared holds unshared id updates
    refine ⟨now, merges, seen, ?_⟩
    rw [seen]
    exact ⟨fun same => by rw [← Value.under_put ["nodes", id] now u.store.root.plain, same],
      Value.put_of_under⟩

def brokenUpdates : Value := .list 0 [.list 0 [.str "a", .int 1], .int 5]

/-- Updates that break off leave a node behind with what came before. -/
theorem updateNode_breaks_off :
    Fails (updateNode "quiz" brokenUpdates) (fresh {} {} ()) ∧
      ((fresh {} {} ()).store.root.under ["nodes", "quiz"]).isNone = true ∧
      (updateNode "quiz" brokenUpdates (fresh {} {} ())).2.store.root.plain.under
        ["nodes", "quiz"] =
        some (.object [("a", .int 1)]) :=
  ⟨⟨_, rfl⟩, rfl, rfl⟩

/-- In a new session broken updates fail and make a node, and a broken snapshot fails and changes
nothing. -/
theorem operations_failing_fresh :
    Fails (updateNode "quiz" brokenUpdates) (fresh {} {} ()) ∧
      (updateNode "quiz" brokenUpdates (fresh {} {} ())).2.store.root.plain ≠
        (fresh {} {} ()).store.root.plain ∧
      Fails (resume brokenUpdates) (fresh {} {} ()) ∧
      (resume brokenUpdates (fresh {} {} ())).2 = fresh {} {} () := by
  obtain ⟨-, -, snapshots, updates⟩ := operations_failing (fresh {} {} ())
  have holds : (fresh {} {} ()).store.HoldsNodes := ⟨5, [], rfl⟩
  have broken : ∃ e, (mergePairs brokenUpdates).2 = some e := ⟨_, rfl⟩
  obtain ⟨fails, -, merged, -⟩ := updates "quiz" brokenUpdates
  obtain ⟨now, -, -, same⟩ := merged holds rfl
  obtain ⟨refused, kept⟩ := snapshots brokenUpdates
  refine ⟨fails.2 (Or.inr broken), ?_, refused.2 broken, kept (refused.2 broken)⟩
  rw [ne_eq, same]
  intro there
  cases there

/-- One mapping in the places of two nodes: what is merged into the one is in the other too. -/
example :
    (((Store.empty.share.set "nodes"
    (.map 8 [(.str "a", .map 9 []), (.str "b", .map 9 [])])).1.adoptUpdates "a"
    brokenUpdates).toOption.bind fun (t, _) => t.root.plain.under ["nodes", "b"]) =
    some (.object [("a", .int 1)]) := by rfl

end Session

end SceneCourse
