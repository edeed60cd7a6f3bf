import SceneCourse.Proofs.HeldContainers
import SceneCourse.Proofs.RootKeys
import SceneCourse.Proofs.TiedCopies

/-! Snapshots of the state. A snapshot is a copy with containers of its own, and the state is
overwritten with a copy of it. Proved: wherever a store has come to, a snapshot that was taken of it
brings the state back with all keys in their order, whatever has been done since and as often as one
likes; and nothing that is done to the store reaches into the snapshot, as long as nobody puts a
container of the snapshot itself into the state. That the order comes back although the state is
built on the empty tiers rests on an invariant of all stores: the first keys are those of the tiers,
and no key is there twice. -/

namespace SceneCourse

open Value (Edit)

namespace Store

open Value

/-! ### What a store can be asked to do -/

/-- What a store can be asked to do. A value is given as it stands at the time; its containers may
be anybody's, also the store's own, where they have marks, and are new ones where they have none. -/
inductive Request where
  | set (path : String) (v : Value)
  | setNode (id : String) (v : Value)
  | updateNode (id : String) (updates : Value)
  | resetScene
  | reset
  | clone
  | restore (snapshot : Value)

/-- The containers that a store is given to keep. -/
def Request.held : Request → List Nat
  | .set _ v | .setNode _ v | .updateNode _ v => v.held
  | _ => []

/-- A copying that leaves the containers with some marks what they are. -/
def leaving (next : Nat) (ms : List Nat) : Copying :=
  ⟨ms.foldr max next + 1, (ms.filter (· ≠ 0)).map fun m => (m, m)⟩

/-- Takes a value into the store as it is, with marks for its new containers. -/
def keep (s : Store) (v : Value) : Value × Store :=
  let (w, c) := v.copyTied (leaving s.next v.held)
  (w, { s with next := c.next })

def clone (s : Store) : Value × Store := s.adopt s.root

/-- What becomes of a store, and the edits that other holders of its containers have to follow. A
request that fails leaves the state as it is, but for the updates before a fault. -/
def perform (s : Store) : Request → Store × List Edit
  | .set path v => let (w, t) := s.keep v; t.set path w
  | .setNode id v =>
    let (w, t) := s.keep v
    match t.setNodeState id w with
    | .ok (u, edits) => (u, edits)
    | .error _ => (t, [])
  | .updateNode id updates =>
    let (w, t) := s.keep updates
    match t.updateNodeState id w with
    | .ok (u, edits, _) => (u, edits)
    | .error _ => (t, [])
  | .resetScene => (s.resetScene, [])
  | .reset => (s.reset.share, [])
  | .clone => (s.clone.2, [])
  | .restore snapshot =>
    match s.restore snapshot with
    | .ok t => (t, [])
    | .error _ => (s, [])

def serve (s : Store) : List Request → Store × List Edit
  | [] => (s, [])
  | r :: rs =>
    let (s, edits) := s.perform r
    let (s, later) := s.serve rs
    (s, edits ++ later)

variable {P : Nat → Prop} {s t : Store} {id : String} {v : Value}

/-! ### Keeping values -/

theorem le_foldr_max (n : Nat) (ms : List Nat) :
    n ≤ ms.foldr max n ∧ ∀ m ∈ ms, m ≤ ms.foldr max n := by
  induction ms with
  | nil => exact ⟨Nat.le_refl n, nofun⟩
  | cons m ms ih =>
    have later : ms.foldr max n ≤ (m :: ms).foldr max n := Nat.le_max_right _ _
    exact ⟨Nat.le_trans ih.1 later,
      List.forall_mem_cons.2 ⟨Nat.le_max_left _ _,
        fun m' member => Nat.le_trans (ih.2 m' member) later⟩⟩

theorem next_keep (s : Store) (v : Value) :
    s.next < (s.keep v).2.next ∧ ∀ m ∈ v.held, m < (s.keep v).2.next := by
  obtain ⟨next, held⟩ := le_foldr_max s.next v.held
  have grown : v.held.foldr max s.next + 1 ≤ (s.keep v).2.next :=
    le_copyTied (leaving s.next v.held) v
  exact ⟨Nat.lt_of_lt_of_le (Nat.lt_succ_of_le next) grown,
    fun m member => Nat.lt_of_lt_of_le (Nat.lt_succ_of_le (held m member)) grown⟩

/-- What is kept holds what was given, and new containers. -/
theorem holds_keep (given : Holds P v) (new : ∀ m, s.next ≤ m → m < (s.keep v).2.next → P m) :
    Holds P (s.keep v).1 := by
  refine (holds_copyTied (leaving s.next v.held) v (Nat.le_refl _)
    (fun p member => ?_) fun m after before => new m ?_ before).1
  · obtain ⟨m, known, rfl⟩ := List.mem_map.1 member
    exact given m (List.mem_filter.1 known).1
  · exact Nat.le_trans (le_foldr_max s.next v.held).1 (Nat.le_of_succ_le after)

/-! ### Requests -/

theorem le_resetScene (s : Store) : s.next ≤ s.resetScene.next := Nat.le_add_right _ 3

theorem le_updateNodeState {updates : Value} {edits : List Edit} {fault : Option Fault}
    (done : s.updateNodeState id updates = .ok (t, edits, fault)) : s.next ≤ t.next := by
  obtain ⟨-, news, -, rfl, -⟩ := updateNodeState_ok done
  rw [next_mergeNode]
  exact le_makeNode s id

/-- The marks go on from those that have been given. -/
theorem next_perform (s : Store) (r : Request) :
    s.next ≤ (s.perform r).1.next ∧ ∀ m ∈ r.held, m < (s.perform r).1.next := by
  have kept {v : Value} {next : Nat} (grown : (s.keep v).2.next ≤ next) : s.next ≤ next ∧
      ∀ m ∈ v.held, m < next :=
    ⟨Nat.le_trans (Nat.le_of_lt (s.next_keep v).1) grown,
      fun m member => Nat.lt_of_lt_of_le ((s.next_keep v).2 m member) grown⟩
  cases r with
  | set path v => exact kept (le_set _ path _)
  | setNode id v =>
    simp only [perform]
    split
    next done => exact kept (Nat.le_of_eq (next_setNodeState done).symm)
    next => exact kept (Nat.le_refl _)
  | updateNode id updates =>
    simp only [perform]
    split
    next done => exact kept (le_updateNodeState done)
    next => exact kept (Nat.le_refl _)
  | resetScene => exact ⟨le_resetScene s, nofun⟩
  | reset => exact ⟨Nat.le_add_right _ 5, nofun⟩
  | clone => exact ⟨le_adopt s s.root, nofun⟩
  | restore snapshot =>
    simp only [perform]
    split
    next done => exact ⟨le_restore done, fun _ none => absurd none List.not_mem_nil⟩
    next => exact ⟨Nat.le_refl _, fun _ none => absurd none List.not_mem_nil⟩

theorem shared_perform (shared : s.shared = true) (r : Request) :
    (s.perform r).1.shared = true := by
  cases r with
  | set path v => exact shared
  | setNode id v =>
    simp only [perform]
    split
    next done => exact (shared_setNodeState done).trans shared
    next => exact shared
  | updateNode id updates =>
    simp only [perform]
    split
    next done => exact (shared_updateNodeState done).trans shared
    next => exact shared
  | resetScene => exact shared
  | reset => rfl
  | clone => exact (shared_adopt s s.root).trans shared
  | restore snapshot =>
    simp only [perform]
    split
    next done => exact (shared_restore done).trans shared
    next => exact shared

theorem rooted_perform (positive : 0 < s.next) (h : Rooted s.tiers) (r : Request) :
    Rooted (s.perform r).1.tiers := by
  cases r with
  | set path v => exact rooted_place (s := (s.keep v).2) h _ _
  | setNode id v =>
    simp only [perform]
    split
    next done => exact rooted_setNodeState (s := (s.keep v).2) h done
    next => exact h
  | updateNode id updates =>
    simp only [perform]
    split
    next done => exact rooted_updateNodeState (s := (s.keep updates).2) h done
    next => exact h
  | resetScene => exact rooted_resetScene h
  | reset => exact rooted_emptyTiers s.next
  | clone => exact (tiers_adopt s s.root).symm ▸ h
  | restore snapshot =>
    simp only [perform]
    split
    next done => exact rooted_restore positive done
    next => exact h

/-- A request brings nothing into the state but new containers and those that it gives, and edits no
others. -/
theorem holds_perform (shared : s.shared = true) (root : P 0) (state : HoldIn P s.tiers)
    {r : Request} (given : ∀ m ∈ r.held, P m)
    (new : ∀ m, s.next ≤ m → m < (s.perform r).1.next → P m) :
    HoldIn P (s.perform r).1.tiers ∧ ∀ e ∈ (s.perform r).2, P e.mark := by
  have kept {v : Value} {next : Nat} (given : ∀ m ∈ v.held, P m)
      (new : ∀ m, s.next ≤ m → m < next → P m)
      (grown : (s.keep v).2.next ≤ next) : Holds P (s.keep v).1 ∧ ∀ m, (s.keep v).2.next ≤ m →
          m < next → P m :=
    ⟨holds_keep given fun m after before => new m after (Nat.lt_of_lt_of_le before grown),
      fun m after => new m (Nat.le_trans (Nat.le_of_lt (s.next_keep v).1) after)⟩
  cases r with
  | set path v =>
    obtain ⟨value, new'⟩ := kept given new (le_set (s.keep v).2 path _)
    obtain ⟨tiers, edits⟩ := holds_place (s := (s.keep v).2) root state new' value
    exact ⟨tiers, fun e member => (edits e member).1⟩
  | setNode id v =>
    simp only [perform] at new ⊢
    split at new
    next t edits done =>
      obtain ⟨value, -⟩ := kept given new (Nat.le_of_eq (next_setNodeState done).symm)
      obtain ⟨holds, rfl, rfl⟩ := setNodeState_ok done
      obtain ⟨tiers, edits⟩ := holds_place_node (s := (s.keep v).2) root state id holds value
      exact ⟨tiers, fun e member => (edits e member).1⟩
    next => exact ⟨state, fun _ none => absurd none List.not_mem_nil⟩
  | updateNode id updates =>
    simp only [perform] at new ⊢
    split at new
    next t edits fault done =>
      obtain ⟨value, new'⟩ := kept given new (le_updateNodeState done)
      obtain ⟨tiers, edits⟩ := holds_updateNodeState
          (s := (s.keep updates).2) root state done value new'
      exact ⟨tiers, fun e member => (edits e member).1⟩
    next => exact ⟨state, fun _ none => absurd none List.not_mem_nil⟩
  | resetScene => exact ⟨holds_resetScene state new, nofun⟩
  | reset => exact ⟨holdIn_emptyTiers new, nofun⟩
  | clone => exact ⟨(tiers_adopt s s.root).symm ▸ state, nofun⟩
  | restore snapshot =>
    simp only [perform] at new ⊢
    split at new
    next done => exact ⟨holds_restore shared done new, fun _ none => absurd none List.not_mem_nil⟩
    next => exact ⟨state, fun _ none => absurd none List.not_mem_nil⟩

/-! ### Stores and their entries -/

/-- The state is closed: no container comes back inside itself. -/
def Closed (s : Store) : Prop := tieEntries [] s.tiers = s.tiers

theorem closed_edited (shared : s.shared = true) (written : List (Key × Value)) (e : Edit) :
    (s.edited written e).Closed := by
  rw [Closed, edited, if_pos shared]
  exact tieEntries_tieEntries [] _

theorem closed_updateNodeState (shared : s.shared = true) (h : s.Closed) {updates : Value}
    {edits : List Edit} {fault : Option Fault}
    (done : s.updateNodeState id updates = .ok (t, edits, fault)) : t.Closed := by
  obtain ⟨-, news, -, rfl, -⟩ := updateNodeState_ok done
  have made : (s.makeNode id).1.Closed := by
    rcases s.makeNode_cases id with ⟨-, same⟩ | ⟨-, made⟩
    · rwa [same]
    · rw [made]
      exact closed_edited (s := { s with next := s.next + 1 }) shared _ _
  cases here : (s.makeNode id).1.nodeMapping? id with
  | none => rwa [mergeNode_of_none here]
  | some p =>
    rw [mergeNode_of_some here]
    exact closed_edited ((s.shared_makeNode id).trans shared) _ _

theorem closed_emptyTiers {next : Nat} (positive : 0 < next) :
    tieEntries [] (emptyTiers next) = emptyTiers next := by
  have marked (i : Nat) : next + i ≠ 0 := Nat.ne_of_gt (Nat.add_pos_left positive i)
  simp [emptyTiers, tieEntries, tieIn, Nat.ne_of_gt positive]

theorem closed_resetScene (positive : 0 < s.next) (h : s.Closed) : s.resetScene.Closed := by
  rw [Closed] at h ⊢
  simp [resetScene, setTier, tieEntries_set, tieIn, tieEntries, h, Nat.ne_of_gt positive]

theorem closed_perform (shared : s.shared = true) (positive : 0 < s.next) (h : s.Closed)
    (r : Request) : (s.perform r).1.Closed := by
  cases r with
  | set path v => exact closed_edited (s := (s.keep v).2) shared _ _
  | setNode id v =>
    simp only [perform]
    split
    next done =>
      obtain ⟨-, rfl, -⟩ := setNodeState_ok done
      exact closed_edited (s := (s.keep v).2) shared _ _
    next => exact h
  | updateNode id updates =>
    simp only [perform]
    split
    next done => exact closed_updateNodeState (s := (s.keep updates).2) shared h done
    next => exact h
  | resetScene => exact closed_resetScene positive h
  | reset => exact closed_emptyTiers positive
  | clone => exact (congrArg (fun es => tieEntries [] es = es) (tiers_adopt s s.root)).mpr h
  | restore snapshot =>
    simp only [perform]
    split
    next done =>
      obtain ⟨pairs, -, rfl⟩ := restore_ok done
      rw [Closed]
      dsimp only
      rw [if_pos shared, tieEntries_tieEntries]
    next => exact h

/-- A store that may be given anything, with a closed state that has rooted entries and containers
from before. -/
structure Grounded (s : Store) : Prop where
  shared : s.shared = true
  positive : 0 < s.next
  rooted : Rooted s.tiers
  closed : s.Closed
  below : HoldIn (· < s.next) s.tiers

namespace Grounded

theorem perform (h : s.Grounded) (r : Request) : (s.perform r).1.Grounded where
  shared := shared_perform h.shared r
  positive := Nat.lt_of_lt_of_le h.positive (s.next_perform r).1
  rooted := rooted_perform h.positive h.rooted r
  closed := closed_perform h.shared h.positive h.closed r
  below := by
    obtain ⟨grown, given⟩ := s.next_perform r
    have earlier : HoldIn (· < (s.perform r).1.next) s.tiers :=
      h.below.mono fun m before => Nat.lt_of_lt_of_le before grown
    have root : 0 < (s.perform r).1.next := Nat.lt_of_lt_of_le h.positive grown
    exact (holds_perform (P := (· < (s.perform r).1.next)) h.shared root earlier given
      fun m _ before => before).1

theorem serve (h : s.Grounded) (rs : List Request) : (s.serve rs).1.Grounded := by
  induction rs generalizing s with
  | nil => exact h
  | cons r rs ih => exact ih (h.perform r)

theorem empty : Store.empty.share.Grounded where
  shared := rfl
  positive := by decide
  rooted := rooted_emptyTiers 1
  closed := closed_emptyTiers (by decide)
  below := holdIn_emptyTiers fun _ _ before => before

theorem ofInitial {initial : Value} (begun : Store.ofInitial initial = .ok s) : s.Grounded := by
  unfold Store.ofInitial at begun
  split at begun
  next =>
    have performed : (Store.empty.share.perform (.restore initial)).1 =
        s := by rw [Store.perform, begun]
    exact performed ▸ empty.perform (.restore initial)
  next =>
    cases begun
    exact empty

end Grounded

/-! ### Snapshots -/

theorem tieEntries_adoptEntries (shared : s.shared = true) (positive : 0 < s.next)
    {es : List (Key × Value)} (closed : tieEntries [] es = es) :
    tieEntries [] (s.adoptEntries es).1 = (s.adoptEntries es).1 := by
  rw [adoptEntries, if_pos shared]
  exact tieEntries_copyTiedEntries (.new positive) es closed

/-- A mapping with rooted entries is brought back whole, with its keys in their order, if it is
closed and does not hold itself. -/
theorem restore_of_rooted {m : Nat} {es : List (Key × Value)} (h : Rooted es)
    (closed : s.shared = true → 0 < s.next ∧ (Value.map m es).tie = .map m es ∧ HoldIn (· ≠ m) es) :
    ∃ t, s.restore (.map m es) = .ok t ∧ t.root.plain = Value.plain (.map 0 es) := by
  let u : Store := { s with next := s.next + 5 }
  have whole : mergePairs (s.ownParts [] (.map m es)) = (es, none) := by
    cases shared : s.shared with
    | false => rw [ownParts_of_unshared shared, mergePairs]
    | true =>
      obtain ⟨-, closed, apart⟩ := closed shared
      rw [ownParts, if_pos shared, followAll, List.foldl_nil, closed, unroll,
        entries_of_hold_ne apart]
      simp [unroll, mergePairs]
  have rooted : Rooted (u.adoptEntries es).1 := h.of_fst (fst_adoptEntries h.known u)
  have placed : Entries.setAll (u.adoptEntries es).1 (emptyTiers s.next) = (u.adoptEntries es).1 :=
    Entries.setAll_of_prefix rooted.separate rooted.tiers (by simp [emptyTiers])
  have same : plainEntries (u.adoptEntries es).1 = plainEntries es := u.plainEntries_adoptEntries es
  have tied : s.shared = true → tieEntries [] (u.adoptEntries es).1 = (u.adoptEntries es).1 :=
      fun shared => by
    obtain ⟨positive, closed, apart⟩ := closed shared
    refine tieEntries_adoptEntries (s := u) shared (Nat.add_pos_left positive 5) ?_
    exact tieEntries_of_subset (List.nil_subset _) es ((tieIn_map_eq_self_iff [] m es).1 closed).2
  refine ⟨_, restore_of_pairs whole, ?_⟩
  show Value.plain (.map 0 (if s.shared then _ else _)) = _
  rw [placed]
  split
  next shared => rw [tied shared, plain, plain, same]
  next => rw [plain, plain, same]

theorem clone_eq (shared : s.shared = true) :
    s.clone = (.map s.next (copyTiedEntries ⟨s.next + 1, []⟩ s.tiers).1,
      { s with next := (copyTiedEntries ⟨s.next + 1, []⟩ s.tiers).2.next }) := by
  simp [clone, adopt, shared, root, copyTied, Copying.markFor]

/-- The containers of a snapshot are its own. -/
theorem holds_clone (h : s.Grounded) :
    Holds (fun m => s.next ≤ m ∧ m < s.clone.2.next) s.clone.1 := by
  have whole : s.clone = ((copyTied ⟨s.next, []⟩ s.root).1,
      { s with next := (copyTied ⟨s.next, []⟩ s.root).2.next }) := by
    simp [clone, adopt, h.shared]
  rw [whole]
  exact (holds_copyTied ⟨s.next, []⟩ s.root (Nat.le_refl _) (List.forall_mem_nil _)
    fun m after before => ⟨after, before⟩).1

theorem restore_clone (h : s.Grounded) (t : Store) (positive : 0 < t.next) :
    ∃ u, t.restore s.clone.1 = .ok u ∧ u.root.plain = s.root.plain := by
  have rooted : Rooted (copyTiedEntries ⟨s.next + 1, []⟩ s.tiers).1 :=
    h.rooted.of_fst (fst_copyTiedEntries h.rooted.known _)
  have closed : s.clone.1.tie = s.clone.1 := by
    have root : s.root.tie = s.root := (tieIn_map_eq_self_iff [] 0 s.tiers).2
      ⟨fun marked => absurd rfl marked, h.closed⟩
    have whole : s.clone.1 = (copyTied ⟨s.next, []⟩ s.root).1 := by simp [clone, adopt, h.shared]
    rw [whole]
    exact tieIn_copyTied (.new h.positive) s.root root
  have apart : HoldIn (· ≠ s.next) (copyTiedEntries ⟨s.next + 1, []⟩ s.tiers).1 :=
    (holdIn_copyTiedEntries ⟨s.next + 1, []⟩ s.tiers
      (Nat.le_refl _) (List.forall_mem_nil _) fun m after _ => Nat.ne_of_gt after).1
  rw [clone_eq h.shared] at closed ⊢
  obtain ⟨u, done, same⟩ := restore_of_rooted rooted fun _ => ⟨positive, closed, apart⟩
  refine ⟨u, done, same.trans ?_⟩
  rw [plain, plainEntries_copyTiedEntries, root, plain]

/-- So does one request after the other. -/
theorem holds_serve (shared : s.shared = true) (root : P 0) (state : HoldIn P s.tiers)
    {rs : List Request} (given : ∀ r ∈ rs, ∀ m ∈ r.held, P m) (new : ∀ m, s.next ≤ m → P m) :
    HoldIn P (s.serve rs).1.tiers ∧ ∀ e ∈ (s.serve rs).2, P e.mark := by
  induction rs generalizing s with
  | nil => exact ⟨state, nofun⟩
  | cons r rs ih =>
    obtain ⟨here, later⟩ := List.forall_mem_cons.1 given
    obtain ⟨state', edits⟩ := holds_perform shared root state here fun m after _ => new m after
    obtain ⟨state'', edits'⟩ := ih (shared_perform shared r) state' later fun m after =>
      new m (Nat.le_trans (s.next_perform r).1 after)
    exact ⟨state'', List.forall_mem_append.2 ⟨edits, edits'⟩⟩

theorem le_serve (s : Store) (rs : List Request) : s.next ≤ (s.serve rs).1.next := by
  induction rs generalizing s with
  | nil => exact Nat.le_refl _
  | cons r rs ih => exact Nat.le_trans (s.next_perform r).1 (ih (s.perform r).1)

def classroom : Value :=
  .object [("seats", .int 2), ("globals", .object [("vars", .object [("score", .int 1)])])]

/-- A snapshot that is put into the state itself is written to below its place there. -/
example : (empty.share.clone.1.followAll
    (empty.share.clone.2.serve [.set "saved" empty.share.clone.1,
      .set "saved.nodes.q1" (.int 1)]).2).plain =
    .object [("globals", .object [("vars", .emptyMap)]), ("scene", .object [("vars", .emptyMap)]),
      ("nodes", .object [("q1", .int 1)])] := by rfl

end Store

end SceneCourse
