import SceneCourse.Proofs.Mishap
import SceneCourse.Proofs.NodePaths
import SceneCourse.Proofs.Renaming
import SceneCourse.Proofs.Resumption

/-! Values that are taken into a tree. A copy of a value in which every container stands at one
place has containers of its own, each at one place again, so a state that is a tree remains one when
the copy is written into it. Proved: what a write at a path, or a state put in the place of a
node's, does to what one reads of such a state. A state that is not shared need not be a tree for
that. -/

namespace SceneCourse

open Value (Edit)

namespace Value

/-! ### Copies with containers of their own -/

/-- Marks `ns` that a copy has drawn for containers with the marks `ms`. The mark 0 stands for no
container in particular. -/
structure Drawn (c d : Copying) (ms ns : List Nat) : Prop where
  ahead : c.next ≤ d.next
  own : ∀ n ∈ ns, c.next ≤ n ∧ n < d.next
  once : ns.Nodup
  given : ∀ m, m = 0 ∨ m ∉ ms → d.given.lookup m = c.given.lookup m

/-- A copy has not come to some containers yet. -/
def Ahead (c : Copying) (ms : List Nat) : Prop := ∀ m, m = 0 ∨ m ∈ ms → c.given.lookup m = none

section

variable {b c d : Copying} {ms ms' ns ns' : List Nat}

theorem Drawn.none (c : Copying) : Drawn c c [] [] :=
  ⟨Nat.le_refl _, nofun, List.nodup_nil, fun _ _ => rfl⟩

theorem Drawn.seq (first : Drawn b c ms ns) (later : Drawn c d ms' ns') :
    Drawn b d (ms ++ ms') (ns ++ ns') where
  ahead := Nat.le_trans first.ahead later.ahead
  own n member := by
    have := first.ahead
    have := later.ahead
    rcases List.mem_append.1 member with here | there
    · have := first.own n here
      omega
    · have := later.own n there
      omega
  once := by
    refine List.nodup_append.2 ⟨first.once, later.once, ?_⟩
    rintro n here _ there rfl
    have := first.own n here
    have := later.own n there
    omega
  given m outside := by
    rw [List.mem_append, not_or] at outside
    rw [later.given m (outside.imp_right And.right), first.given m (outside.imp_right And.left)]

theorem Ahead.left (h : Ahead c (ms ++ ms')) : Ahead c ms :=
  fun m member => h m (member.imp_right (List.mem_append_left _))

/-- What stands once is not met on the way to what comes later. -/
theorem Ahead.right (h : Ahead c (ms ++ ms')) (first : Drawn c d ms ns) (once : Once (ms ++ ms')) :
    Ahead d ms' := by
  intro m member
  have still := h m (member.imp_right (List.mem_append_right _))
  rw [first.given m, still]
  by_cases zero : m = 0
  · exact Or.inl zero
  · refine Or.inr fun here => ?_
    have := once m zero
    have := List.count_pos_iff.2 here
    have := List.count_pos_iff.2 (member.resolve_left zero)
    rw [List.count_append] at *
    omega

theorem Ahead.head {m : Nat} (h : Ahead c (m :: ms)) : Ahead c [m] :=
  Ahead.left (show Ahead c ([m] ++ ms) from h)

theorem Ahead.tail {m : Nat} (h : Ahead c (m :: ms)) (first : Drawn c d [m] ns)
    (once : Once (m :: ms)) : Ahead d ms :=
  Ahead.right (show Ahead c ([m] ++ ms) from h) first once

theorem drawn_markFor {m : Nat} (ahead : Ahead c [m]) :
    Drawn c (c.markFor m).2 [m] [(c.markFor m).1] := by
  have new : c.markFor m =
      (c.next, ⟨c.next + 1, if m = 0 then c.given else (m, c.next) :: c.given⟩) := by
    rw [Copying.markFor, ahead m (Or.inr List.mem_cons_self)]
  rw [new]
  refine ⟨Nat.le_succ _, by simp, List.nodup_singleton _, fun n other => ?_⟩
  show (if m = 0 then c.given else (m, c.next) :: c.given).lookup n = _
  split
  next => rfl
  next marked =>
    have apart : (n == m) = false := by
      rw [beq_eq_false_iff_ne]
      rintro rfl
      rcases other with zero | outside
      · exact marked zero
      · exact outside List.mem_cons_self
    rw [List.lookup_cons, apart]

mutual

/-- A copy of a value that holds every container at one place has containers of its own. -/
theorem drawn_copyTied (c : Copying) (v : Value) (acyclic : v.isCyclic = false)
    (once : Once (marks v)) (ahead : Ahead c (marks v)) :
    Drawn c (copyTied c v).2 (marks v) (marks (copyTied c v).1) := by
  cases v with
  | float x =>
    have bare : marks ((Key.float x).copy c.next).1.value = [] := by
      unfold Key.copy
      split <;> rfl
    rw [copyTied_float, bare]
    exact ⟨Key.next_le_copy c.next (.float x), nofun, List.nodup_nil, fun _ _ => rfl⟩
  | pair a b =>
    rw [isCyclic, Bool.or_eq_false_iff] at acyclic
    have left := drawn_copyTied c a acyclic.1 once.left ahead.left
    exact left.seq (drawn_copyTied _ b acyclic.2 once.right (ahead.right left once))
  | list m xs =>
    have head := drawn_markFor (Ahead.head ahead)
    exact head.seq (drawn_copyTiedItems _ xs acyclic once.tail (Ahead.tail ahead head once))
  | map m es =>
    have head := drawn_markFor (Ahead.head ahead)
    exact head.seq (drawn_copyTiedEntries _ es acyclic once.tail (Ahead.tail ahead head once))
  | again m b => cases acyclic
  | _ => exact .none c

theorem drawn_copyTiedItems (c : Copying) (xs : List Value) (acyclic : anyCyclic xs = false)
    (once : Once (marksItems xs)) (ahead : Ahead c (marksItems xs)) :
    Drawn c (copyTiedItems c xs).2 (marksItems xs) (marksItems (copyTiedItems c xs).1) := by
  cases xs with
  | nil => exact .none c
  | cons x xs =>
    rw [anyCyclic, Bool.or_eq_false_iff] at acyclic
    have first := drawn_copyTied c x acyclic.1 once.left ahead.left
    exact first.seq (drawn_copyTiedItems _ xs acyclic.2 once.right (ahead.right first once))

theorem drawn_copyTiedEntries (c : Copying) (es : List (Key × Value))
    (acyclic : anyCyclicEntry es = false) (once : Once (marksEntries es))
    (ahead : Ahead c (marksEntries es)) :
    Drawn c (copyTiedEntries c es).2 (marksEntries es) (marksEntries (copyTiedEntries c es).1) := by
  cases es with
  | nil => exact .none c
  | cons e es =>
    obtain ⟨k, v⟩ := e
    rw [anyCyclicEntry, Bool.or_eq_false_iff] at acyclic
    have named : Drawn c { c with next := (k.copy c.next).2 } [] [] :=
      ⟨Key.next_le_copy c.next k, nofun, List.nodup_nil, fun _ _ => rfl⟩
    have ahead : Ahead { c with next := (k.copy c.next).2 } (marks v ++ marksEntries es) := ahead
    have first := drawn_copyTied _ v acyclic.1 once.left ahead.left
    exact named.seq
      (first.seq (drawn_copyTiedEntries _ es acyclic.2 once.right (ahead.right first once)))

end

end

/-- A value that holds every container at one place and none inside itself. -/
structure Treelike (v : Value) : Prop where
  acyclic : v.isCyclic = false
  once : Once (marks v)

end Value

namespace Store

open Value

variable {s t u : Store} {v w : Value} {path id : String}

/-! ### Copies that belong to a store -/

/-- A store that is a tree if it is shared. -/
def Treelike (s : Store) : Prop := s.shared = true → s.Tree

/-- A value with new containers, each at one place, and the store with the marks behind them. -/
structure Graft (s t : Store) (w : Value) : Prop where
  tiers : t.tiers = s.tiers
  shared : t.shared = s.shared
  ahead : s.next ≤ t.next
  acyclic : s.shared = true → w.isCyclic = false
  once : s.shared = true → (marks w).Nodup
  own : s.shared = true → ∀ m ∈ marks w, s.next ≤ m ∧ m < t.next

theorem graft_adopt (s : Store) (own : s.shared = true → v.Treelike) :
    s.Graft (s.adopt v).2 (s.adopt v).1 := by
  have acyclic (shared : s.shared = true) : (s.adopt v).1.isCyclic = false := by
    rw [← isCyclic_plain, Session.adopt_plain, isCyclic_plain]
    exact (own shared).acyclic
  by_cases shared : s.shared = true
  · have drawn := drawn_copyTied { next := s.next } v (own shared).acyclic
      (own shared).once fun _ _ => rfl
    have whole : s.adopt v = ((v.copyTied { next := s.next }).1,
        { s with next := (v.copyTied { next := s.next }).2.next }) := by
      rw [adopt, if_pos shared]
    refine ⟨tiers_adopt s v, shared_adopt s v, ?_, acyclic, fun _ => ?_, fun _ => ?_⟩
    · rw [whole]
      exact drawn.ahead
    · rw [whole]
      exact drawn.once
    · rw [whole]
      exact drawn.own
  · have whole : s.adopt v = ((v.copy s.next).1, { s with next := (v.copy s.next).2 }) := by
      rw [adopt, if_neg shared]
    refine ⟨tiers_adopt s v, shared_adopt s v, ?_, acyclic, fun yes => absurd yes shared,
      fun yes => absurd yes shared⟩
    rw [whole]
    exact (marks_copy s.next v).1

theorem through_subset (mark : Nat) (es : List (Key × Value)) (segs : List String) :
    through mark es segs ⊆ marks (.map mark es) := by
  induction segs generalizing mark es with
  | nil => exact List.nil_subset _
  | cons s rest ih =>
    rw [through.eq_def]
    refine List.cons_subset.2 ⟨List.mem_cons_self, ?_⟩
    split
    next r rest' m fs found =>
      exact fun n member => List.mem_cons_of_mem mark (marks_subset_of_get? found (ih m fs member))
    next => exact List.nil_subset _

/-- What was taken into a tree can be written anywhere in it. -/
theorem Graft.writable (graft : s.Graft t w) (shared : s.shared = true) (tree : s.Tree)
    (segs : List String) : t.WritableAt segs w where
  whole c := fill_of_isCyclic_eq_false c w (graft.acyclic shared)
  closed := tieIn_eq_self [] w (fun m _ => List.nodup_iff_count_le_one.1 (graft.once shared) m)
    (by simp)
  given m member _ := (graft.own shared m member).2
  apart m member _ on := by
    rw [graft.tiers] at on
    have := tree.given m (through_subset 0 s.tiers segs on)
    have := graft.own shared m member
    omega

theorem Graft.tree (graft : s.Graft t w) (tree : s.Tree) : t.Tree := by
  have same : t.root = s.root := congrArg (Value.map 0) graft.tiers
  exact ⟨same ▸ tree.acyclic, same ▸ tree.once,
    fun m member => Nat.lt_of_lt_of_le (tree.given m (same ▸ member)) graft.ahead⟩

/-! ### Writing what was taken in -/

/-- What a reader sees of a write, of whatever kind the store is. -/
theorem plain_set_of_treelike (tree : s.shared = true → s.Tree ∧ s.Writable path v) :
    (s.set path v).1.root.plain = put (segments path) v.plain s.root.plain := by
  rw [set_eq_write tree]
  exact plain_write s.next 0 s.tiers (segments_ne_nil path) v

theorem Graft.set (graft : s.Graft t w) (treelike : s.Treelike) (path : String) :
    (t.set path w).1.shared = s.shared ∧ (t.set path w).1.Treelike ∧
      (t.set path w).1.root.plain = put (segments path) w.plain s.root.plain := by
  have tree (shared : t.shared = true) : t.Tree ∧ t.Writable path w := by
    have shared' := graft.shared ▸ shared
    exact ⟨graft.tree (treelike shared'), graft.writable shared' (treelike shared') (segments path)⟩
  have seen := plain_set_of_treelike tree
  rw [set_eq_write tree] at seen ⊢
  refine ⟨graft.shared, fun shared => ?_, seen.trans (by rw [root, root, graft.tiers])⟩
  have shared' : s.shared = true := graft.shared ▸ shared
  have once : (List.range' t.next (segments path).length ++ marks w).Nodup := by
    refine List.nodup_append.2 ⟨List.nodup_range', graft.once shared', ?_⟩
    rintro m made _ own rfl
    have := List.mem_range'_1.1 made
    have := graft.own shared' m own
    omega
  have own : ∀ m ∈ List.range' t.next (segments path).length ++ marks w,
      s.next ≤ m ∧ m < t.next + (segments path).length := by
    intro m member
    have := graft.ahead
    rcases List.mem_append.1 member with made | own
    · have := List.mem_range'_1.1 made
      omega
    · have := graft.own shared' m own
      omega
  refine (treelike shared').grow ?_ once (Nat.le_trans graft.ahead (Nat.le_add_right _ _))
    own fun m => ?_
  · exact isCyclic_write (graft.acyclic shared') t.next 0 (segments path) (tree shared).1.acyclic
  · have grown := count_marks_write t.next 0 t.tiers (segments path) w m
    rw [graft.tiers] at grown
    rw [List.count_append]
    show (marksEntries (write t.next 0 t.tiers (segments path) w).1).count m ≤ _
    rw [graft.tiers]
    omega

theorem NodePut.treelike (put : t.NodePut u id w) (holds : s.HoldsNodes) (graft : s.Graft t w)
    (treelike : s.Treelike) : u.Treelike := by
  intro shared
  have shared' : s.shared = true := graft.shared ▸ put.shared ▸ shared
  obtain ⟨m, nodes, found⟩ := holds
  have tree := treelike shared'
  have nodesAcyclic : anyCyclicEntry nodes = false := isCyclic_of_get? tree.acyclic found
  have tiers : u.tiers = Entries.set (.str "nodes")
      (.map m (Entries.set (.str id) w nodes)) s.tiers := by
    rw [put.tiers, graft.tiers, write_node found]
  have below {k : Nat} (new : s.next ≤ k ∧ k < t.next) : s.next ≤ k ∧ k < u.next :=
    ⟨new.1, Nat.lt_of_lt_of_le new.2 put.ahead⟩
  refine tree.grow ?_ (graft.once shared') (Nat.le_trans graft.ahead put.ahead)
    (fun k member => below (graft.own shared' k member)) fun k => ?_
  · rw [root, tiers]
    exact anyCyclicEntry_set (anyCyclicEntry_set (graft.acyclic shared') nodesAcyclic) tree.acyclic
  · have outer := count_marks_set found (.map m (Entries.set (.str id) w nodes)) k
    have inner := count_marks_set_le (.str id) w nodes k
    simp only [marks, List.count_cons] at outer
    rw [tiers]
    omega

end Store

end SceneCourse
