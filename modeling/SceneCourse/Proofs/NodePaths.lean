import SceneCourse.Proofs.GrowingTree
import SceneCourse.Proofs.Hiding
import SceneCourse.Proofs.Replay
import SceneCourse.Proofs.Seeding
import SceneCourse.Proofs.Snapshot
import SceneCourse.Proofs.TierShape
import SceneCourse.Session.Execution

/-! The two ways to the state of a node. An operation on a node takes its id as a key of the tier
`nodes`, while a path has it as a part between points, and a part that is the name of a tier leads
to that tier. Proved: what an operation on a node writes is read along the path through the id, what
is written along the path is in the state of the node, and nothing is read there after a reset,
exactly for the ids that are one part and no name of a tier. -/

namespace SceneCourse

/-! ### Parts of a path -/

def Undivided (s : String) : Prop := '.' ∉ s.toList

instance (s : String) : Decidable (Undivided s) := inferInstanceAs (Decidable (¬_))

theorem dotParts_of_not_mem {cs : List Char} (h : '.' ∉ cs) : dotParts cs = [cs] := by
  induction cs with
  | nil => rfl
  | cons c cs ih =>
    rw [List.mem_cons, not_or] at h
    rw [dotParts, if_neg (Ne.symm h.1), ih h.2]

theorem not_mem_of_mem_dotParts {cs p : List Char} (member : p ∈ dotParts cs) : '.' ∉ p := by
  induction cs generalizing p with
  | nil =>
    obtain rfl := List.mem_singleton.1 member
    exact List.not_mem_nil
  | cons c cs ih =>
    rw [dotParts] at member
    split at member
    next =>
      rcases List.mem_cons.1 member with rfl | later
      · exact List.not_mem_nil
      · exact ih later
    next other =>
      obtain ⟨q, qs, parts⟩ := List.exists_cons_of_ne_nil (dotParts_ne_nil cs)
      rw [parts] at member
      rcases List.mem_cons.1 member with rfl | later
      · rw [List.mem_cons, not_or]
        exact ⟨Ne.symm other, ih (parts ▸ List.mem_cons_self)⟩
      · exact ih (parts ▸ List.mem_cons_of_mem q later)

theorem nameParts_of_undivided {name : String} (h : Undivided name) : nameParts name = [name] := by
  rw [nameParts, dotParts_of_not_mem h, List.map_singleton, String.ofList_toList]

theorem undivided_of_mem_nameParts {name part : String} (member : part ∈ nameParts name) :
    Undivided part := by
  obtain ⟨p, inside, rfl⟩ := List.mem_map.1 member
  rw [Undivided, String.toList_ofList]
  exact not_mem_of_mem_dotParts inside

theorem nameParts_ne_nil (name : String) : nameParts name ≠ [] :=
  by simp [nameParts, dotParts_ne_nil]

/-! ### Paths through the id of a node -/

def statePath (id key : String) : String := id ++ "." ++ "state" ++ "." ++ key

/-- An id that is one part of a path and no name of a tier. -/
def Addressable (id : String) : Prop := Undivided id ∧ id ∉ tierNames

instance (id : String) : Decidable (Addressable id) := inferInstanceAs (Decidable (_ ∧ _))

theorem segments_statePath (id key : String) :
    segments (statePath id key) = nodeAlias (nameParts id ++ "state" :: nameParts key) := by
  have own : nameParts "state" = ["state"] := by decide
  have parts : nameParts (statePath id key) = nameParts id ++ "state" :: nameParts key := by
    rw [statePath, nameParts_append, nameParts_append, own, List.append_assoc]
    rfl
  rw [← parts]
  rfl

theorem segments_of_addressable {id : String} (h : Addressable id) (key : String) :
    segments (statePath id key) = ["nodes", id] ++ nameParts key := by
  rw [segments_statePath, nameParts_of_undivided h.1]
  exact if_neg (by simpa using h.2)

theorem mem_nodeAlias {part : String} {parts : List String} (member : part ∈ nodeAlias parts) :
    part ∈ parts ∨ part = "nodes" := by
  unfold nodeAlias at member
  split at member
  next node rest =>
    split at member
    next => exact Or.inl member
    next =>
      rcases List.mem_cons.1 member with rfl | later
      · exact Or.inr rfl
      · rcases List.mem_cons.1 later with rfl | later
        · exact Or.inl List.mem_cons_self
        · exact Or.inl (List.mem_cons_of_mem _ (List.mem_cons_of_mem _ later))
  next => exact Or.inl member

/-- The path through any other id leads to a tier and past its entries under the id. -/
theorem past_of_not_addressable {id : String} (h : ¬Addressable id) :
    ∃ tier rest, segments (statePath id "") = tier :: rest ∧ id ∉ rest := by
  rw [segments_statePath]
  by_cases whole : Undivided id
  · -- the name of a tier stands for the tier
    have known : id ∈ tierNames := not_not.1 fun other => h ⟨whole, other⟩
    have kept : nodeAlias (nameParts id ++ "state" :: nameParts "") =
        id :: "state" :: nameParts "" := by
      rw [nameParts_of_undivided whole]
      exact if_pos (by simpa using known)
    refine ⟨id, _, kept, fun member => ?_⟩
    simp only [tierNames, List.mem_cons, List.not_mem_nil, or_false] at known
    rcases known with rfl | rfl | rfl <;> exact absurd member (by decide)
  · -- no part of a path has a point in it
    obtain ⟨tier, rest, parts⟩ : ∃ tier rest, nodeAlias (nameParts id ++ "state" :: nameParts "") =
        tier :: rest := by
      obtain ⟨part, parts, first⟩ := List.exists_cons_of_ne_nil (nameParts_ne_nil id)
      rw [first]
      unfold nodeAlias
      split
      next => split <;> exact ⟨_, _, rfl⟩
      next => exact ⟨_, _, rfl⟩
    refine ⟨tier, rest, parts, fun member => whole ?_⟩
    rcases mem_nodeAlias (parts ▸ List.mem_cons_of_mem tier member) with inside | rfl
    · rcases List.mem_append.1 inside with part | part
      · exact undivided_of_mem_nameParts part
      · rcases List.mem_cons.1 part with rfl | part
        · decide
        · exact undivided_of_mem_nameParts part
    · decide

namespace Value

/-! ### Mappings at paths -/

/-- A path of texts leads through mappings to a mapping. -/
def MapAt (v : Value) (path : List String) : Prop := ∃ m es, v.under path = some (.map m es)

section

variable {v w : Value} {m : Nat} {es : List (Key × Value)} {s p : String}
  {path rest segs : List String}

theorem mapAt_nil : v.MapAt [] ↔ v.isMapping = true := by
  constructor
  · rintro ⟨m, es, here⟩
    rw [Option.some.inj here]
    rfl
  · intro is
    cases v with
    | map m es => exact ⟨m, es, rfl⟩
    | _ => cases is

theorem mapAt_cons :
    (map m es).MapAt (s :: path) ↔ ∃ v, Entries.get? (.str s) es = some v ∧ v.MapAt path := by
  constructor
  · rintro ⟨n, fs, there⟩
    obtain ⟨v, found, inner⟩ := Option.bind_eq_some_iff.1 there
    exact ⟨v, found, n, fs, inner⟩
  · rintro ⟨v, found, n, fs, inner⟩
    exact ⟨n, fs, Option.bind_eq_some_iff.2 ⟨v, found, inner⟩⟩

theorem MapAt.isMapping (h : v.MapAt path) : v.isMapping = true := by
  obtain ⟨m, es, there⟩ := h
  obtain ⟨n, fs, rfl⟩ := exists_map_of_under there
  rfl

theorem mapAt_iff : v.MapAt path ↔ (v.under path).any isMapping = true := by
  rw [MapAt]
  cases v.under path with
  | none => simp
  | some w => cases w <;> simp [isMapping]

theorem mapAt_plain : v.plain.MapAt path ↔ v.MapAt path := by
  rw [mapAt_iff, mapAt_iff, under_plain]
  cases v.under path with
  | none => rfl
  | some w => simp [isMapping_plain]

end

/-! ### Copies of what does not hold itself -/

mutual

theorem isCyclic_plain (v : Value) : v.plain.isCyclic = v.isCyclic := by
  cases v with
  | pair a b => rw [plain, isCyclic, isCyclic, isCyclic_plain a, isCyclic_plain b]
  | list m xs => exact anyCyclic_plainItems xs
  | map m es => exact anyCyclicEntry_plainEntries es
  | _ => rfl

theorem anyCyclic_plainItems (xs : List Value) : anyCyclic (plainItems xs) = anyCyclic xs := by
  cases xs with
  | nil => rfl
  | cons x xs => rw [plainItems, anyCyclic, anyCyclic, isCyclic_plain x, anyCyclic_plainItems xs]

theorem anyCyclicEntry_plainEntries (es : List (Key × Value)) :
    anyCyclicEntry (plainEntries es) = anyCyclicEntry es := by
  cases es with
  | nil => rfl
  | cons e es =>
    rw [plainEntries, anyCyclicEntry, anyCyclicEntry, isCyclic_plain e.2,
      anyCyclicEntry_plainEntries es]

end

theorem isCyclic_of_under {v w : Value} {path : List String} (acyclic : v.isCyclic = false)
    (there : v.under path = some w) : w.isCyclic = false := by
  induction path generalizing v with
  | nil => exact Option.some.inj there ▸ acyclic
  | cons s path ih =>
    cases v with
    | map m es =>
      obtain ⟨u, found, inner⟩ := Option.bind_eq_some_iff.1 there
      obtain ⟨l, member⟩ := exists_of_get? found
      exact ih (isCyclic_of_mem acyclic member) inner
    | _ => cases there

theorem get?_fillEntries (c : Value) (k : Key) (es : List (Key × Value)) :
    Entries.get? k (fillEntries c es) = (Entries.get? k es).map (fill c) := by
  induction es with
  | nil => rfl
  | cons e es ih =>
    obtain ⟨l, v⟩ := e
    rw [fillEntries, Entries.get?, Entries.get?]
    split
    next => rfl
    next => exact ih

/-- A mapping that is opened inside another one keeps the entries that have no part of a container
in their place. -/
theorem exists_within_map (c : Value) (m : Nat) (es : List (Key × Value)) :
    ∃ fs, c.within (.map m es) = .map m fs ∧ ∀ k v, Entries.get? k es = some v →
      (∀ c : Value, c.fill v = v) →
      Entries.get? k fs = some v := by
  rw [within]
  split
  next => exact ⟨es, rfl, fun _ _ found _ => found⟩
  next =>
    rw [fill]
    split
    next => exact ⟨es, rfl, fun _ _ found _ => found⟩
    next =>
      exact ⟨fillEntries c es, rfl, fun k v found whole => by
        rw [get?_fillEntries, found, Option.map_some, whole]⟩

/-- Where a mapping is opened to another one, it is that one already. -/
theorem exists_map_of_within {c u : Value} {n : Nat} {fs : List (Key × Value)}
    (opened : c.within u = .map n fs) (other : c.mark ≠ n) : ∃ gs, u = .map n gs := by
  rw [within] at opened
  split at opened
  next => exact ⟨fs, opened⟩
  next =>
    cases u with
    | again k b =>
      rw [fill] at opened
      split at opened
      next =>
        subst opened
        exact absurd rfl other
      next => cases opened
    | map k gs =>
      rw [fill] at opened
      split at opened <;> exact ⟨gs, by rw [(Value.map.inj opened).1]⟩
    | list k xs =>
      rw [fill] at opened
      split at opened <;> cases opened
    | _ => cases opened

end Value

namespace Store

open Value
open Entries (Distinct)

variable {s t : Store} {id k path : String} {v : Value} {m n : Nat}
  {es old nodes : List (Key × Value)}

theorem get?_ownEntries (s : Store) (m : Nat) (es : List (Key × Value)) (k : Key) :
    Entries.get? k (s.ownEntries m es) =
      (Entries.get? k es).map fun v => if s.shared then (Value.map m es).within v else v := by
  rw [ownEntries]
  split
  next => exact get?_entries m es k
  next => exact Option.map_id_apply.symm

@[simp] theorem ownEntries_zero (s : Store) (es : List (Key × Value)) : s.ownEntries 0 es = es :=
  by simp [ownEntries]

theorem nodeMapping?_eq_some_iff : s.nodeMapping? id = some (n, es) ↔ ∃ m nodes fs,
    Entries.get? (.str "nodes") s.tiers = some (.map m nodes) ∧
      Entries.get? (.str id) (s.ownEntries m nodes) = some (.map n fs) ∧
      es = s.ownEntries n fs := by
  rw [nodeMapping?]
  constructor
  · intro here
    split at here
    next m nodes entries =>
      split at here
      next n fs found =>
        obtain ⟨rfl, rfl⟩ := Prod.mk.inj (Option.some.inj here)
        exact ⟨m, nodes, fs, nodeEntries_eq_ok_iff.1 entries, found, rfl⟩
      next => cases here
    next => cases here
  · rintro ⟨m, nodes, fs, tier, found, rfl⟩
    rw [nodeEntries_eq_ok_iff.2 tier]
    simp only [found]

/-- A reader goes on in the entry, as a value of its own. -/
theorem read_ownEntries (s : Store) (m : Nat) (es : List (Key × Value)) (a : String)
    (rest : List String) :
    (Value.map m es).read s.shared (a :: rest) =
      ((Entries.get? (.str a) (s.ownEntries m es)).getD .null).read s.shared rest := by
  rw [get?_ownEntries]
  cases s.shared with
  | false =>
    rw [Value.read, if_neg Bool.false_ne_true, lookup_map_cons]
    cases Entries.get? (.str a) es <;> rfl
  | true =>
    rw [Value.read, if_pos rfl, along, lookup_map_cons, entries, get?_along]
    cases Entries.get? (.str a) es with
    | none => rw [Option.map_none, Option.map_none, Option.getD_none, lookup_null, read_null]
    | some v => rfl

/-- What is read along the path through an id is what stands in the state of the node. -/
theorem get_of_nodeMapping (here : s.nodeMapping? id = some (m, es)) (h : Addressable id)
    (whole : Undivided k) :
    s.get (statePath id k) = .ok ((Entries.get? (.str k) es).getD .null) := by
  obtain ⟨N, nodes, fs, tier, node, rfl⟩ := nodeMapping?_eq_some_iff.1 here
  have path : segments (statePath id k) = ["nodes", id, k] := by
    rw [segments_of_addressable h, nameParts_of_undivided whole]
    rfl
  rw [get_eq_read, path, root, read_ownEntries, ownEntries_zero, tier, Option.getD_some,
    read_ownEntries, node,
    Option.getD_some, read_ownEntries, read_nil]

theorem holdsNodes_iff_mapAt : s.HoldsNodes ↔ s.root.MapAt ["nodes"] := by
  rw [root, mapAt_cons]
  constructor
  · rintro ⟨m, nodes, found⟩
    exact ⟨_, found, mapAt_nil.2 rfl⟩
  · rintro ⟨v, found, m, nodes, here⟩
    exact ⟨m, nodes, Option.some.inj here ▸ found⟩

/-! ### Writing to nodes -/

structure NodePut (s t : Store) (id : String) (v : Value) : Prop where
  tiers : t.tiers = (write s.next 0 s.tiers ["nodes", id] v).1
  shared : t.shared = s.shared
  ahead : s.next ≤ t.next

/-- A reader sees the value in the place of the node's state, and nothing else has changed. -/
theorem NodePut.plain (put : s.NodePut t id v) :
    t.root.plain = Value.put ["nodes", id] v.plain s.root.plain := by
  rw [root, put.tiers]
  exact plain_write s.next 0 s.tiers (List.cons_ne_nil _ _) v

theorem exists_setNodeState (holds : s.HoldsNodes) (id : String)
    (tree : s.shared = true → s.Tree ∧ s.WritableAt ["nodes", id] v) :
    ∃ t edits, s.setNodeState id v = .ok (t, edits) ∧ s.NodePut t id v := by
  refine ⟨_, _, setNodeState_of_holds holds id v, ?_⟩
  rw [place_eq_write tree]
  exact ⟨rfl, rfl, Nat.le_refl _⟩

theorem tieIn_nil_map (m : Nat) (es : List (Key × Value)) :
    tieIn [] (.map m es) = .map m (tieEntries (if m = 0 then [] else [m]) es) := by
  by_cases unmarked : m = 0
  · rw [tieIn, if_pos unmarked, if_pos unmarked, unmarked]
  · simp [tieIn, unmarked]

theorem tieIn_of_apart {around : List Nat} (closed : v.tie = v)
    (apart : ∀ m ∈ marks v, m ≠ 0 → m ∉ around) : tieIn around v = v :=
  (tieIn_append [] around v apart).trans closed

theorem mem_through_node {N : Nat}
    (found : Entries.get? (.str "nodes") s.tiers = some (.map N nodes)) (id : String)
    (rest : List String) : N ∈ through 0 s.tiers ("nodes" :: id :: rest) := by
  rw [through_cons 0 (List.cons_ne_nil id rest) found]
  exact List.mem_cons_of_mem 0 (mem_through N nodes (List.cons_ne_nil id rest))

/-- The mapping that is put in the place of a node's state is the state of the node. -/
theorem nodeMapping?_place (holds : s.HoldsNodes)
    (writable : s.shared = true → s.WritableAt ["nodes", id] (.map m es)) :
    (s.place ["nodes", id] (.map m es)).1.nodeMapping? id = some (m, s.ownEntries m es) := by
  obtain ⟨N, nodes, found⟩ := holds
  have own (n : Nat) (fs : List (Key × Value)) :
      (s.place ["nodes", id] (.map m es)).1.ownEntries n fs = s.ownEntries n fs := rfl
  refine nodeMapping?_eq_some_iff.2 ?_
  cases shared : s.shared with
  | false =>
    refine ⟨N, Entries.set (.str id) (.map m es) nodes, es, ?_, ?_, (own m es).symm⟩
    · rw [place_node_of_unshared shared found]
      exact Entries.get?_set_str_self _ _ _
    · rw [own, ownEntries_of_unshared shared, Entries.get?_set_str_self]
  | true =>
    obtain ⟨opened, now, -, rfl, node, -⟩ := tiers_place_node shared found id (.map m es)
    have writable := writable shared
    rw [tieIn_nil_map] at node
    have value : tieIn (if N = 0 then [] else [N]) (.map m es) = .map m es := by
      refine tieIn_of_apart writable.closed fun k member marked inside =>
        writable.apart k member marked ?_
      split at inside
      next => exact absurd inside List.not_mem_nil
      next => exact List.mem_singleton.1 inside ▸ mem_through_node found id []
    refine ⟨N, _, es, node, ?_, (own m es).symm⟩
    rw [own, get?_ownEntries, get?_tieEntries, Entries.get?_set_str_self, Option.map_some, value,
      Option.map_some,
      within, writable.whole]
    simp

/-- Where an entry stands in the place of a node's state, the state is a mapping with that entry. -/
theorem exists_nodeState_of_under (there : s.root.under ["nodes", id, k] = some v)
    (whole : s.shared = true → ∀ c : Value, c.fill v = v) :
    ∃ m es, s.nodeState id = .ok (.map m es) ∧ Entries.get? (.str k) es = some v := by
  obtain ⟨w, found, inner⟩ := Option.bind_eq_some_iff.1 there
  obtain ⟨N, nodes, w', rfl, found', inner'⟩ := exists_child (Option.isSome_iff_exists.2 ⟨v, inner⟩)
  obtain ⟨m, es, u, rfl, found'', -⟩ := exists_child inner'
  rw [under, found', Option.bind_some, under, found'', Option.bind_some, under] at inner
  obtain rfl := Option.some.inj inner
  obtain ⟨fs, node, kept⟩ : ∃ fs, Entries.get? (.str id) (s.ownEntries N nodes) = some (.map m fs) ∧
      Entries.get? (.str k) fs = some u := by
    rw [get?_ownEntries, found', Option.map_some]
    split
    next shared =>
      obtain ⟨fs, opened, kept⟩ := exists_within_map (.map N nodes) m es
      exact ⟨fs, by rw [opened], kept _ _ found'' (whole shared)⟩
    next => exact ⟨es, rfl, found''⟩
  have held : (Value.map m fs).truthy = true := by
    cases fs with
    | nil => cases kept
    | cons e fs => rfl
  refine ⟨m, fs, ?_, kept⟩
  rw [nodeState, nodeEntries_eq_ok_iff.2 found]
  show Except.ok (if ((Entries.get? (.str id) (s.ownEntries N nodes)).getD .null).truthy
    then _ else _) = _
  rw [node, Option.getD_some, if_pos held]

/-! ### Updates of a node -/

theorem tieIn_map_of_not_mem {around : List Nat} (out : m ≠ 0 → m ∉ around) :
    tieIn around (.map m es) = .map m (tieEntries (if m = 0 then around else m :: around) es) := by
  by_cases unmarked : m = 0
  · rw [tieIn, if_pos unmarked, if_pos unmarked, unmarked]
  · simp [tieIn, unmarked, out unmarked]

/-- What a merge into the state of a node leaves of the tier. -/
theorem exists_tier_mergeNode (shared : s.shared = true) {N : Nat}
    (found : Entries.get? (.str "nodes") s.tiers = some (.map N nodes))
    (here : s.nodeMapping? id = some (n, old)) (other : n ≠ 0 → N ≠ n) (news : List (Key × Value)) :
    ∃ fs,
      Entries.get? (.str "nodes") (s.mergeNode id news).1.tiers = some (tieIn [] (.map N fs)) ∧
        Entries.get? (.str id) fs = some (.map n (Entries.setAll news old)) := by
  have tiers : (s.mergeNode id news).1.tiers =
      s.afterEdit (s.drafted ["nodes", id] (.map n (Entries.setAll news old))).1
      ⟨n, .map n (Entries.setAll news old)⟩ := by
    rw [mergeNode_of_some here, edited]
    exact if_pos shared
  rw [tiers, afterEdit, get?_tieEntries]
  by_cases unmarked : n = 0
  · obtain ⟨es, opened, entry, -⟩ := s.exists_opened_cons "nodes" [id]
    obtain ⟨fs, along'⟩ : ∃ fs, along [id] (.map N nodes) = .map N fs := ⟨_, rfl⟩
    have there : Entries.get? (.str "nodes") es = some (.map N fs) := by
      rw [entry, found]
      simp only [shared, if_true, Option.map_some, along']
    rw [if_pos unmarked, drafted, opened]
    show ∃ gs, (Entries.get? (.str "nodes") (write s.next 0 es ["nodes", id] _).1).map _ = _ ∧ _
    rw [write_into there (List.cons_ne_nil id []), Entries.get?_set_str_self]
    exact ⟨_, rfl, Entries.get?_set_str_self _ _ _⟩
  · obtain ⟨N', nodes', fs, found', node, -⟩ := nodeMapping?_eq_some_iff.1 here
    obtain ⟨rfl, rfl⟩ := Value.map.inj (Option.some.inj (found.symm.trans found'))
    rw [get?_ownEntries] at node
    obtain ⟨u, there, opened⟩ := Option.map_eq_some_iff.1 node
    simp only [shared, if_true] at opened
    obtain ⟨gs, rfl⟩ := exists_map_of_within opened (other unmarked)
    rw [if_neg unmarked, get?_followEntries, found, Option.map_some, follow,
      if_neg fun same => other unmarked same.1]
    refine ⟨_, rfl, ?_⟩
    rw [get?_followEntries, there, Option.map_some, follow, if_pos ⟨rfl, unmarked⟩]

/-- After a merge into the state of a node all that was merged stands there. -/
theorem exists_nodeMapping_mergeNode {N : Nat}
    (found : Entries.get? (.str "nodes") s.tiers = some (.map N nodes))
    (here : s.nodeMapping? id = some (n, old)) (other : s.shared = true → n ≠ 0 → N ≠ n)
    (news : List (Key × Value)) :
    ∃ fs, (s.mergeNode id news).1.nodeMapping? id = some (n, fs) ∧ ∀ k v,
      Entries.get? k (Entries.setAll news old) = some v →
        (s.shared = true → v.isCyclic = false ∧ v.tie = v ∧ ∀ m ∈ marks v, m ≠ 0 → m ≠ N ∧ m ≠ n) →
          Entries.get? k fs = some v := by
  have own : (s.mergeNode id news).1.ownEntries = s.ownEntries := by
    funext m es
    rw [ownEntries, ownEntries, shared_mergeNode]
  cases shared : s.shared with
  | false =>
    have stands := (nodeMapping?_of_unshared shared found).1 here
    let now : List (Key × Value) := Entries.set (.str id) (.map n (Entries.setAll news old)) nodes
    refine ⟨Entries.setAll news old, nodeMapping?_eq_some_iff.2
      ⟨N, now, Entries.setAll news old, ?_, ?_, ?_⟩,
      fun _ _ there _ => there⟩
    · rw [mergeNode_of_unshared shared found stands]
      exact Entries.get?_set_str_self _ _ _
    · rw [own, ownEntries_of_unshared shared]
      exact Entries.get?_set_str_self _ _ _
    · rw [own, ownEntries_of_unshared shared]
  | true =>
    obtain ⟨gs, tier, node⟩ := exists_tier_mergeNode shared found here (other shared) news
    let around : List Nat := if N = 0 then [] else [N]
    have out : n ≠ 0 → n ∉ around := fun marked inside => by
      simp only [around] at inside
      split at inside
      next => exact absurd inside List.not_mem_nil
      next => exact other shared marked (List.mem_singleton.1 inside).symm
    obtain ⟨hs, opened, kept⟩ := exists_within_map (.map N (tieEntries around gs)) n
      (tieEntries (if n = 0 then around else n :: around) (Entries.setAll news old))
    rw [tieIn_nil_map] at tier
    refine ⟨s.ownEntries n hs, nodeMapping?_eq_some_iff.2 ⟨N, _, hs, tier, ?_, by rw [own]⟩,
      fun k v there fit => ?_⟩
    · rw [own, get?_ownEntries, get?_tieEntries, node, Option.map_some, tieIn_map_of_not_mem out,
        Option.map_some,
        if_pos shared, opened]
    · obtain ⟨acyclic, closed, apart⟩ := fit rfl
      have tied : tieIn (if n = 0 then around else n :: around) v = v := by
        refine tieIn_of_apart closed fun m member marked inside => ?_
        have near : m = N ∨ m = n := by
          simp only [around] at inside
          split at inside <;> split at inside <;> simp_all
        rcases near with same | same
        · exact (apart m member marked).1 same
        · exact (apart m member marked).2 same
      have there' := kept k v (by rw [get?_tieEntries, there, Option.map_some, tied]) fun c =>
        fill_of_isCyclic_eq_false c v acyclic
      rw [get?_ownEntries, there', Option.map_some, if_pos shared,
        within_of_isCyclic_eq_false _ v acyclic]

/-- A state in which no container stands inside itself, though perhaps at several places. All its
marks were given out before. -/
structure Layered (s : Store) : Prop where
  acyclic : s.root.isCyclic = false
  closed : s.root.tie = s.root
  given : ∀ m ∈ marks s.root, m < s.next

theorem Tree.layered (tree : s.Tree) : s.Layered where
  acyclic := tree.acyclic
  closed := tieIn_eq_self [] s.root tree.once fun _ _ _ => List.not_mem_nil
  given := tree.given

namespace Layered

variable (layered : s.Layered) {N : Nat}
  (found : Entries.get? (.str "nodes") s.tiers = some (.map N nodes))

include layered found

/-- The state of a node stands in the tier as it is, and is not the tier. -/
theorem node_of_nodeMapping (shared : s.shared = true) (here : s.nodeMapping? id = some (n, old)) :
    Entries.get? (.str id) nodes = some (.map n old) ∧ (n ≠ 0 → N ≠ n) := by
  obtain ⟨N', nodes', fs, found', node, rfl⟩ := nodeMapping?_eq_some_iff.1 here
  obtain ⟨rfl, rfl⟩ := Value.map.inj (Option.some.inj (found.symm.trans found'))
  obtain ⟨_, inside⟩ := exists_of_get? found
  have tier : (Value.map N nodes).isCyclic = false := isCyclic_of_mem layered.acyclic inside
  rw [get?_ownEntries] at node
  obtain ⟨u, there, opened⟩ := Option.map_eq_some_iff.1 node
  obtain ⟨_, inside'⟩ := exists_of_get? there
  have own : u.isCyclic = false := isCyclic_of_mem tier inside'
  simp only [shared, if_true] at opened
  rw [within_of_isCyclic_eq_false _ u own] at opened
  subst opened
  have entries : s.ownEntries n fs = fs := by
    rw [ownEntries, if_pos shared, entries_of_anyCyclicEntry_eq_false n own]
  rw [entries]
  refine ⟨there, fun marked same => ?_⟩
  have closed := tieIn_of_get? (Value.map.inj layered.closed).2 found
  have inner := ((tieIn_map_eq_self_iff [] N nodes).1 closed).2
  have node := ((tieIn_map_eq_self_iff _ n fs).1 (tieIn_of_get? inner there)).1 marked
  rw [if_neg (same ▸ marked), same] at node
  exact node List.mem_cons_self

theorem lt_next : N < s.next :=
  layered.given N (List.mem_cons_of_mem 0 (marks_subset_of_get? found List.mem_cons_self))

end Layered

/-- A value that has no container in common with the edited ones is merged as it is. -/
theorem ownParts_of_apart {edits : List Edit}
    (fit : s.shared = true → v.isCyclic = false ∧ v.tie = v ∧
      ∀ e ∈ edits, e.mark ∈ marks v → e.mark = 0) : s.ownParts edits v = v := by
  rw [ownParts]
  split
  next shared =>
    obtain ⟨acyclic, closed, apart⟩ := fit shared
    rw [followAll_eq_self apart, closed]
    cases v with
    | map m es => simp [unroll, entries_of_anyCyclicEntry_eq_false m acyclic]
    | list m xs => simp [unroll, items_of_anyCyclic_eq_false m acyclic]
    | pair a b => simp [unroll]
    | _ => rfl
  next => rfl

/-- The edit of a write into a node is of the tier. -/
theorem mark_place_node {N : Nat}
    (found : Entries.get? (.str "nodes") s.tiers = some (.map N nodes)) (id : String) (v : Value) :
    ∀ e ∈ (s.place ["nodes", id] v).2, e.mark = N := by
  obtain ⟨es, opened, entry, -⟩ := s.exists_opened_cons "nodes" [id]
  obtain ⟨fs, there⟩ : ∃ fs, Entries.get? (.str "nodes") es = some (.map N fs) := by
    rw [entry, found, Option.map_some]
    split <;> exact ⟨_, rfl⟩
  refine List.forall_mem_singleton.2 ?_
  rw [opened]
  show (write s.next 0 es ["nodes", id] v).2.mark = N
  rw [write_into there (List.cons_ne_nil id [])]
  simp only [write]

/-- A new mapping can be put in the place of a node's state. -/
theorem writable_new {N : Nat} (found : Entries.get? (.str "nodes") s.tiers = some (.map N nodes))
    (below : N < s.next) (id : String) :
    WritableAt { s with next := s.next + 1 } ["nodes", id] (.map s.next []) where
  whole c := fill_of_isCyclic_eq_false c _ rfl
  closed := (tieIn_map_eq_self_iff [] s.next []).2 ⟨fun _ => List.not_mem_nil, by split <;> rfl⟩
  given := List.forall_mem_singleton.2 fun _ => Nat.lt_succ_self s.next
  apart := by
    refine List.forall_mem_singleton.2 fun marked inside => ?_
    simp only [through, found, List.mem_cons, List.not_mem_nil, or_false] at inside
    rcases inside with same | rfl
    · exact marked same
    · exact Nat.lt_irrefl _ below

/-- The state of the node after it was made a mapping, in the tier that is the same mapping as
before. -/
theorem nodeMapping?_makeNode {N : Nat}
    (found : Entries.get? (.str "nodes") s.tiers = some (.map N nodes))
    (below : s.shared = true → N < s.next) (id : String) : ∃ fs n old,
      Entries.get? (.str "nodes") (s.makeNode id).1.tiers = some (.map N fs) ∧
        (s.makeNode id).1.nodeMapping? id = some (n, old) ∧ (∀ e ∈ (s.makeNode id).2, e.mark = N) ∧
        (s.nodeMapping? id = some (n, old) ∨ n = s.next) := by
  rcases s.makeNode_cases id with ⟨here, same⟩ | ⟨-, made⟩
  · obtain ⟨⟨n, old⟩, here⟩ := Option.isSome_iff_exists.1 here
    rw [same]
    exact ⟨nodes, n, old, found, here, fun _ none => absurd none List.not_mem_nil, Or.inl here⟩
  · let s' : Store := { s with next := s.next + 1 }
    have node : (s'.place ["nodes", id] (.map s.next [])).1.nodeMapping? id =
        some (s.next, s'.ownEntries s.next []) :=
      nodeMapping?_place ⟨N, nodes, found⟩ fun shared => writable_new found (below shared) id
    obtain ⟨fs, tier⟩ : ∃ fs, Entries.get? (.str "nodes")
      (s'.place ["nodes", id] (.map s.next [])).1.tiers =
        some (.map N fs) := by
      cases shared : s.shared with
      | false =>
        rw [place_node_of_unshared (s := s') shared found]
        exact ⟨_, Entries.get?_set_str_self _ _ _⟩
      | true =>
        obtain ⟨opened, now, -, rfl, tier, -⟩ :=
          tiers_place_node (s := s') shared found id (.map s.next [])
        exact ⟨_, tier.trans (congrArg some (tieIn_nil_map N _))⟩
    rw [made]
    exact ⟨fs, s.next, _, tier, node, mark_place_node (s := s') found id _, Or.inr rfl⟩

/-- Updates leave all their entries in the state of the node. -/
theorem exists_updateNodeState (holds : s.HoldsNodes) (layered : s.shared = true → s.Layered)
    (once : Distinct es)
    (fit : s.shared = true → (Value.map m es).isCyclic = false ∧
      s.WritableAt ["nodes", id, ""] (.map m es)) :
    ∃ t edits n fs, s.updateNodeState id (.map m es) = .ok (t, edits, none) ∧
      t.nodeMapping? id = some (n, fs) ∧
      ∀ k v, Entries.get? (.str k) es = some v → Entries.get? (.str k) fs = some v := by
  obtain ⟨N, nodes, found⟩ := holds
  obtain ⟨gs, n, old, tier, node, edited, before⟩ :=
    nodeMapping?_makeNode found (fun shared => (layered shared).lt_next found) id
  -- the mapping of the tier is another one, and a write to an entry of the node goes through both
  have around (shared : (s.makeNode id).1.shared = true) : (n ≠ 0 → N ≠ n) ∧
      (n ∈ through 0 s.tiers ["nodes", id, ""] ∨ n = s.next) := by
    rw [shared_makeNode] at shared
    rcases before with here | rfl
    · obtain ⟨there, other⟩ := (layered shared).node_of_nodeMapping found shared here
      rw [through_cons 0 (List.cons_ne_nil id [""]) found,
        through_cons N (List.cons_ne_nil "" []) there]
      exact ⟨other, Or.inl (List.mem_cons_of_mem 0
        (List.mem_cons_of_mem N (mem_through n old (List.cons_ne_nil "" []))))⟩
    · exact ⟨fun _ same => Nat.ne_of_lt ((layered shared).lt_next found) same, Or.inr rfl⟩
  have tierThrough := mem_through_node found id [""]
  have parts : (s.makeNode id).1.ownParts (s.makeNode id).2 (.map m es) = .map m es := by
    refine ownParts_of_apart fun shared => ?_
    obtain ⟨acyclic, writable⟩ := fit (shared_makeNode s id ▸ shared)
    refine ⟨acyclic, writable.closed, fun e member inside => by_contra fun marked => ?_⟩
    exact writable.apart e.mark inside marked (edited e member ▸ tierThrough)
  obtain ⟨fs, merged, kept⟩ := exists_nodeMapping_mergeNode tier node
    (fun shared => (around shared).1) es
  refine ⟨((s.makeNode id).1.mergeNode id es).1,
    (s.makeNode id).2 ++ ((s.makeNode id).1.mergeNode id es).2, n, fs, ?_,
    merged, fun k v there => kept (.str k) v ?_ fun shared => ?_⟩
  · exact updateNodeState_of_parts ⟨N, nodes, found⟩ parts
  · rw [Entries.get?_setAll once, there, Option.some_or]
  · obtain ⟨acyclic, writable⟩ := fit (shared_makeNode s id ▸ shared)
    obtain ⟨-, nodeThrough⟩ := around shared
    obtain ⟨_, member⟩ := exists_of_get? there
    have inner := ((tieIn_map_eq_self_iff [] m es).1 writable.closed).2
    refine ⟨isCyclic_of_mem acyclic member,
      tieIn_of_subset (List.nil_subset _) v (tieIn_of_get? inner there),
      fun k inside marked => ⟨fun same => ?_, fun same => ?_⟩⟩
    · exact writable.apart k (List.mem_cons_of_mem m (marks_subset_of_get? there inside)) marked
        (same ▸ tierThrough)
    · have inside := List.mem_cons_of_mem m (marks_subset_of_get? there inside)
      rcases nodeThrough with before | new
      · exact writable.apart k inside marked (same ▸ before)
      · exact Nat.ne_of_lt (writable.given k inside marked) (same.trans new)

/-! ### The two ways -/

/-- What is written to a node by its id is read along the path through the id, and the other way
round. -/
structure WaysAgree (s : Store) (id : String) : Prop where
  set : ∀ m es, (s.shared = true → s.WritableAt ["nodes", id] (.map m es)) → ∃ t edits,
    s.setNodeState id (.map m es) = .ok (t, edits) ∧
      ∀ k v, Undivided k → Entries.get? (.str k) (s.ownEntries m es) = some v →
        t.get (statePath id k) = .ok v
  update : ∀ m es, Distinct es →
    (s.shared = true → (Value.map m es).isCyclic = false ∧
      s.WritableAt ["nodes", id, ""] (.map m es)) → ∃ t edits,
      s.updateNodeState id (.map m es) = .ok (t, edits, none) ∧
        ∀ k v, Undivided k → Entries.get? (.str k) es = some v → t.get (statePath id k) = .ok v
  write : ∀ k v, Undivided k → (s.shared = true → s.Tree ∧ s.Writable (statePath id k) v) →
    ∃ m es, (s.set (statePath id k) v).1.nodeState id = .ok (.map m es) ∧
      Entries.get? (.str k) es = some v
  reset : ∀ (η : Type) (cb : Callbacks η) (u : Session η), u.store = s → ∃ t,
    Session.execute cb (.resetNode id) u = (.done (), t) ∧ ∀ k, Undivided k →
      t.store.get (statePath id k) = .ok .null

theorem adopt_emptyMap (s : Store) :
    s.adopt .emptyMap = (.map s.next [], { s with next := s.next + 1 }) := by
  unfold adopt
  split <;> rfl

theorem setNode_of_done {η : Type} {u : Session η} {edits : List Edit}
    (done : (u.store.adopt v).2.setNodeState id (u.store.adopt v).1 = .ok (t, edits)) :
    Session.setNode id v u = (.done (), u.commit t edits) := by
  rw [Session.setNode]
  simp only [done]

theorem waysAgree_of_addressable (holds : s.HoldsNodes) (layered : s.shared = true → s.Layered)
    (h : Addressable id) : s.WaysAgree id where
  set m es writable := by
    refine ⟨{ (s.place ["nodes", id] (.map m es)).1 with next := s.next }, _,
      setNodeState_of_holds holds id (.map m es),
      fun k v whole found => ?_⟩
    exact (get_of_nodeMapping (nodeMapping?_place holds writable) h whole).trans
      (by rw [found, Option.getD_some])
  update m es once fit := by
    obtain ⟨t, edits, n, fs, done, node, kept⟩ := exists_updateNodeState holds layered once fit
    refine ⟨t, edits, done, fun k v whole found => ?_⟩
    rw [get_of_nodeMapping node h whole, kept k v found, Option.getD_some]
  write k v whole tree := by
    refine exists_nodeState_of_under ?_ fun shared => (tree shared).2.whole
    rw [set_eq_write tree, root, segments_of_addressable h, nameParts_of_undivided whole]
    exact under_write s.next 0 s.tiers v (List.cons_ne_nil _ _)
  reset η cb u same := by
    subst same
    let v : Session η := u.addEntry { level := .debug, category := .action, message :=
      "Executing action: resetNode" }
    have plain : Session.execute cb (.resetNode id) u = Session.setNode id .emptyMap v := by
      simp only [Session.execute, Session.announce, Session.write_null]
      rfl
    let s' : Store := { u.store with next := u.store.next + 1 }
    have adopted : v.store.adopt .emptyMap = (.map u.store.next [], s') := adopt_emptyMap u.store
    have done : (v.store.adopt .emptyMap).2.setNodeState id (v.store.adopt .emptyMap).1 =
        .ok ({ (s'.place ["nodes", id] (.map u.store.next [])).1 with next := s'.next },
          (s'.place ["nodes", id] (.map u.store.next [])).2) := by
      rw [adopted]
      exact setNodeState_of_holds (s := s') holds id (.map u.store.next [])
    refine ⟨_, plain.trans (setNode_of_done (u := v) done), fun k single => ?_⟩
    refine (get_of_nodeMapping (nodeMapping?_place (s := s') holds ?_) h single).trans ?_
    · obtain ⟨N, nodes, found⟩ := holds
      exact fun shared => writable_new found ((layered shared).lt_next found) id
    · rw [get?_ownEntries]
      rfl

/-- An integer that was not there before is hidden below the id of the node that it is put into. -/
theorem hides_place_node (holds : s.HoldsNodes) {n : Int} (hidden : ∀ e ∈ s.tiers, Hides n id e.2)
    {name : String} {w : Value}
    (found : Entries.get? (.str name) (s.place ["nodes", id] v).1.tiers = some w) :
    Hides n id w := by
  obtain ⟨N, nodes, tier⟩ := holds
  have before {name : String} {w : Value} (found : Entries.get? (.str name) s.tiers = some w) :
      Hides n id w := by
    obtain ⟨k, member⟩ := exists_of_get? found
    exact hidden (k, w) member
  cases shared : s.shared with
  | false =>
    rw [place_node_of_unshared shared tier] at found
    by_cases same : "nodes" = name
    · subst same
      obtain rfl := Option.some.inj ((Entries.get?_set_str_self _ _ _).symm.trans found)
      exact HidesEntries.set (before tier) v
    · rw [Entries.get?_set_str_of_ne same] at found
      exact before found
  | true =>
    obtain ⟨opened, now, along', rfl, node, others⟩ := tiers_place_node shared tier id v
    have now : Hides n id (.map N (Entries.set (.str id) v opened)) := by
      have inner : Hides n id (.map N opened) := along' ▸ (before tier).along [id]
      exact HidesEntries.set inner v
    by_cases same : name = "nodes"
    · subst same
      obtain rfl := Option.some.inj (node.symm.trans found)
      exact now.tieIn [] _
    · obtain ⟨u, there, rfl⟩ := Option.map_eq_some_iff.1 ((others name same).symm.trans found)
      refine Hides.tieIn [] _ ?_
      split
      next => exact before there
      next => exact Hides.follow now u (before there)

/-- Any other path goes past what is put in the place of the node's state. -/
theorem get_ne_of_not_addressable (holds : s.HoldsNodes) (past : ¬Addressable id) {n : Int}
    (hidden : ∀ e ∈ s.tiers, Hides n id e.2) :
    (s.place ["nodes", id] (.map 0 [(.str "", .int n)])).1.get (statePath id "") ≠ .ok
      (.int n) := by
  let t : Store := (s.place ["nodes", id] (.map 0 [(.str "", .int n)])).1
  obtain ⟨tier, rest, path, off⟩ := past_of_not_addressable past
  obtain ⟨es, opened, entry, -⟩ := t.exists_opened_cons tier rest
  show (t.opened (segments (statePath id ""))).lookup (segments (statePath id "")) ≠ _
  rw [path, opened, lookup_map_cons, entry]
  cases found : Entries.get? (.str tier) t.tiers with
  | none =>
    rw [Option.map_none, Option.getD_none, lookup_null]
    exact fun there => nomatch there
  | some w =>
    have own : Hides n id w := hides_place_node holds hidden found
    refine Hides.lookup ?_ off
    rw [Option.map_some, Option.getD_some]
    split
    next => exact own.along rest
    next => exact own

end Store

end SceneCourse
