import SceneCourse.Proofs.Sites

/-! States in which every container stands where it stands. Proved: every operation of a store keeps
such a state, places the containers that it makes, and tells only edits that put nothing out of its
place. The edit of a write, followed by a holder of the mapping that the write goes through, is that
write. -/

namespace SceneCourse

open Value (Edit)

namespace Store

open Value

variable {σ τ : Sites} {p : List String} {v : Value} {m next : Nat} {es : List (Key × Value)}
  {path : List String} {s t : Store}

/-! ### Writes -/

/-- A write edits a mapping on its path. -/
theorem place_write (h : Sited σ (some p) (.map m es)) (long : path ≠ []) (next : Nat) (v : Value) :
    ∃ r, r <+: path ∧ r.length < path.length ∧ σ.place (write next m es path v).2.mark = some
      (p ++ r) := by
  induction path generalizing m es p with
  | nil => exact absurd rfl long
  | cons s rest ih =>
    rcases write_cons next m es s rest v with ⟨n, gs, more, found, written⟩ | ⟨-, written⟩
    · obtain ⟨r, above, shorter, place⟩ := ih (h.2.child found List.not_mem_nil) more
      rw [written]
      refine ⟨s :: r, List.cons_prefix_cons.2 ⟨rfl, above⟩, Nat.succ_lt_succ shorter, ?_⟩
      rw [place, List.append_assoc]
      rfl
    · rw [written]
      refine ⟨[], List.nil_prefix, Nat.succ_pos _, ?_⟩
      rw [List.append_nil]
      exact h.1.place

/-- A write into a state edits a mapping on its path, or the state itself. -/
theorem place_write_root (h : SitedEntries σ (some []) [] es) (next : Nat) (path : List String)
    (v : Value) :
    (write next 0 es path v).2.mark = 0 ∨
      ∃ r, r <+: path ∧ r.length < path.length ∧ σ.place
        (write next 0 es path v).2.mark = some r := by
  cases path with
  | nil => exact Or.inl rfl
  | cons s rest =>
    rcases write_cons next 0 es s rest v with ⟨n, gs, more, found, written⟩ | ⟨-, written⟩
    · obtain ⟨r, above, shorter, place⟩ := place_write (h.child found List.not_mem_nil) more next v
      rw [written]
      exact Or.inr ⟨s :: r, List.cons_prefix_cons.2 ⟨rfl, above⟩, Nat.succ_lt_succ shorter, place⟩
    · rw [written]
      exact Or.inl rfl

/-- A write below a mapping is a write into that mapping. -/
theorem write_below {mark : Nat} {fs : List (Key × Value)} {rest : List String}
    (there : under (.map mark es) path = some (.map m fs)) (more : rest ≠ []) (next : Nat)
    (v : Value) :
    under (.map mark (write next mark es (path ++ rest) v).1) path = some
      (.map m (write next m fs rest v).1) ∧
      (write next mark es (path ++ rest) v).2 = (write next m fs rest v).2 := by
  induction path generalizing mark es with
  | nil =>
    obtain ⟨rfl, rfl⟩ := Value.map.inj (Option.some.inj there)
    exact ⟨rfl, rfl⟩
  | cons s path ih =>
    obtain ⟨w, found, inner⟩ := Option.bind_eq_some_iff.1 there
    obtain ⟨n, gs, rfl⟩ := exists_map_of_under inner
    rw [List.cons_append, write_into found (by simp [more]), under_set_self]
    exact ih inner

/-- A write is not seen at a place that lies neither above nor below its path. -/
theorem under_write_of_apart {mark : Nat} {place : List String} (below : ¬place <+: path)
    (above : ¬path <+: place) (next : Nat) (v : Value) {w : Value}
    (there : under (.map mark es) place = some w) :
    under (.map mark (write next mark es path v).1) place = some w := by
  induction path generalizing mark es place with
  | nil => exact absurd List.nil_prefix above
  | cons s rest ih =>
    cases place with
    | nil => exact absurd List.nil_prefix below
    | cons t place =>
      by_cases same : s = t
      · subst same
        rw [List.cons_prefix_cons] at below above
        obtain ⟨u, found, inner⟩ := Option.bind_eq_some_iff.1 there
        have down : place ≠ [] := fun none => below ⟨rfl, none ▸ List.nil_prefix⟩
        obtain ⟨t, place', rfl⟩ := List.exists_cons_of_ne_nil down
        have mapping : ∃ n gs, u = .map n gs := by
          cases u with
          | map n gs => exact ⟨n, gs, rfl⟩
          | _ => cases inner
        obtain ⟨n, gs, rfl⟩ := mapping
        have more : rest ≠ [] := fun none => above ⟨rfl, none ▸ List.nil_prefix⟩
        rw [write_into found more, under_set_self]
        exact ih (fun h => below ⟨rfl, h⟩) (fun h => above ⟨rfl, h⟩) inner
      · rw [under_write_of_ne _ _ _ same, there]

/-- A holder of the mapping follows the edit of a write by making the write. -/
theorem follow_write_of_sited (h : Sited σ (some p) (.map m es)) (long : path ≠ []) (next : Nat)
    (v : Value) :
    follow (write next m es path v).2 (.map m es) = .map m (write next m es path v).1 := by
  induction path generalizing m es p with
  | nil => exact absurd rfl long
  | cons s rest ih =>
    rcases write_cons next m es s rest v with ⟨n, gs, more, found, written⟩ | ⟨-, written⟩
    · have child := h.2.child found List.not_mem_nil
      obtain ⟨r, -, -, place⟩ := place_write child more next v
      rw [List.append_assoc] at place
      have deeper : ¬(m = (write next n gs rest v).2.mark ∧ m ≠ 0) := by
        rintro ⟨same, -⟩
        rw [← same, h.1.place] at place
        have length := congrArg List.length (Option.some.inj place)
        simp at length
      rw [written, follow, if_neg deeper, h.2.followEntries_eq_set place List.not_mem_nil found,
        ih child more]
    · rw [written]
      exact if_pos ⟨rfl, Nat.ne_of_gt h.1.positive⟩

theorem sited_nest (new : ∀ i < path.length, σ.Given (some (p ++ path.take i)) (next + i))
    (value : Sited σ (some (p ++ path)) v) : Sited σ (some p) (nest next path v) := by
  induction path generalizing next p with
  | nil => rwa [List.append_nil] at value
  | cons s rest ih =>
    refine ⟨by simpa using new 0 (Nat.succ_pos _), ?_, trivial⟩
    refine ih (fun i hi => ?_) (by simpa using value)
    have inner := new (i + 1) (Nat.succ_lt_succ hi)
    rw [List.take_succ_cons] at inner
    rwa [Nat.add_assoc, Nat.add_comm 1, List.append_assoc]

/-- When a value is written that may stand at the end of the path, the mappings that are made can be
placed on the path. The edit then puts nothing out of its place, or it is the one of the outermost
mapping. -/
theorem exists_sited_write (h : SitedEntries σ (some p) [] es) (positive : 0 < next) (m : Nat)
    (path : List String) (v : Value) :
    ∃ f, ∀ τ : Sites, σ.Grown τ → τ.Follows f next (next + path.length) → Sited τ
      (some (p ++ path)) v →
      SitedEntries τ (some p) [] (write next m es path v).1 ∧
        (Edit.InPlace τ (write next m es path v).2 ∨
          (write next m es path v).2 = ⟨m, .map m (write next m es path v).1⟩) := by
  induction path generalizing m es p with
  | nil => exact ⟨fun _ => none, fun τ grown _ _ => ⟨h.mono grown _ _ _, Or.inr rfl⟩⟩
  | cons s rest ih =>
    rcases write_cons next m es s rest v with ⟨n, gs, -, found, written⟩ | ⟨-, written⟩
    · have child := h.child found List.not_mem_nil
      obtain ⟨f, inner⟩ := ih child.2 n
      refine ⟨f, fun τ grown made value => ?_⟩
      rw [List.length_cons] at made
      obtain ⟨entries, edit⟩ := inner τ grown
        ⟨Nat.le_trans (Nat.le_succ _) made.given,
          fun m after before => made.place m after (Nat.lt_succ_of_lt before)⟩
        (by rwa [List.append_assoc])
      have put : Sited τ (some (p ++ [s])) (.map n (write next n gs rest v).1) :=
        ⟨child.1.mono grown, entries⟩
      rw [written]
      refine ⟨(h.mono grown _ _ _).set_str put, Or.inl ?_⟩
      rcases edit with edit | edit
      · exact edit
      · rw [edit]
        exact fun _ => ⟨p ++ [s], put.1, put⟩
    · refine ⟨fun m => some ((p ++ [s]) ++ rest.take (m - next)), fun τ grown made value => ?_⟩
      rw [List.length_cons] at made
      have nested : Sited τ (some (p ++ [s])) (nest next rest v) := by
        refine sited_nest (fun i hi => ⟨by omega, ?_, ?_⟩) (by rwa [List.append_assoc])
        · exact Nat.lt_of_lt_of_le (by omega) made.given
        · rw [made.place (next + i) (Nat.le_add_right _ _) (by omega), Nat.add_sub_cancel_left]
      rw [written]
      exact ⟨(h.mono grown _ _ _).set_str nested, Or.inr rfl⟩

/-! ### States -/

/-- A state whose containers stand where they stand; all marks ahead are free. -/
structure Sited (σ : Sites) (s : Store) : Prop where
  unshared : s.shared = false
  next : σ.next = s.next
  positive : 0 < s.next
  tiers : SitedEntries σ (some []) [] s.tiers

/-- A state after an operation on one whose containers stand where they stand, and the edits that
the operation tells. -/
structure Moved (σ τ : Sites) (t : Store) (edits : List Edit) : Prop where
  grown : σ.Grown τ
  sited : t.Sited τ
  edits : ∀ e ∈ edits, Edit.InPlace τ e

theorem Sited.withTiers (h : s.Sited σ) {tiers : List (Key × Value)} {next : Nat}
    (later : s.next ≤ next) {f : Nat → Option (List String)}
    (entries : SitedEntries (σ.extend next f) (some []) [] tiers) :
    Sited (σ.extend next f) { s with tiers, next } :=
  ⟨h.unshared, rfl, Nat.lt_of_lt_of_le h.positive later, entries⟩

/-- All that was made before stands where it stood. -/
theorem Sited.kept (h : s.Sited σ) {next : Nat} (later : s.next ≤ next)
    (f : Nat → Option (List String)) :
    σ.Grown (σ.extend next f) := σ.grown_extend (h.next ▸ later) f

theorem Sited.follows (h : s.Sited σ) (f : Nat → Option (List String)) (next : Nat) :
    (σ.extend next f).Follows f s.next next := h.next ▸ σ.follows_extend f next

theorem Sited.place (h : s.Sited σ) (segs : List String) (value : Value.Sited σ (some segs) v) :
    ∃ τ, Moved σ τ (s.place segs v).1 (s.place segs v).2 := by
  obtain ⟨f, written⟩ := exists_sited_write h.tiers h.positive 0 segs v
  have later : s.next ≤ s.next + segs.length := Nat.le_add_right _ _
  obtain ⟨entries, edit⟩ := written _ (h.kept later f) (h.follows f _)
    (value.mono (h.kept later f) _ _)
  rw [place_of_unshared h.unshared]
  refine ⟨_, h.kept later f, h.withTiers later entries, fun e member => ?_⟩
  obtain rfl := List.mem_singleton.1 member
  rcases edit with edit | edit
  · exact edit
  · rw [edit]
    exact fun whole => absurd rfl whole

theorem Sited.set (h : s.Sited σ) (path : String) (value : Value.Sited σ (some (segments path)) v) :
    ∃ τ, Moved σ τ (s.set path v).1 (s.set path v).2 := h.place (segments path) value

/-- A value is taken in as a copy that may stand anywhere. -/
theorem Sited.adopt (h : s.Sited σ) (at_ : Option (List String)) (v : Value) :
    ∃ τ, σ.Grown τ ∧ (s.adopt v).2.Sited τ ∧ Value.Sited τ at_ (s.adopt v).1 := by
  obtain ⟨f, copied⟩ := exists_sited_copy h.positive at_ v
  have later := (marks_copy s.next v).1
  rw [adopt_of_unshared h.unshared]
  exact ⟨_, h.kept later f, h.withTiers later (h.tiers.mono (h.kept later f) _ _ _),
    copied _ (h.follows f _)⟩

/-- And entries as copies, each of which may stand below its key. -/
theorem Sited.adoptEntries (h : s.Sited σ) (at_ : Option (List String)) (es : List (Key × Value)) :
    ∃ τ, σ.Grown τ ∧ (s.adoptEntries es).2.Sited τ ∧
      ∀ e ∈ (s.adoptEntries es).1, Value.Sited τ (e.1.below at_ []) e.2 := by
  obtain ⟨f, copied⟩ := exists_sited_copyEach h.positive at_ es
  have later := (marks_copyEntries s.next es).1
  rw [adoptEntries_of_unshared h.unshared]
  exact ⟨_, h.kept later f, h.withTiers later (h.tiers.mono (h.kept later f) _ _ _),
    copied _ (h.follows f _)⟩

/-! ### Tiers -/

theorem Sited.setTier (h : s.Sited σ) {name : String} (value : Value.Sited σ (some [name]) v) :
    (s.setTier name v).Sited σ :=
  ⟨h.unshared, h.next, h.positive, h.tiers.set_str value⟩

theorem Sited.setNodeState (h : s.Sited σ) {id : String}
    (value : Value.Sited σ (some ["nodes", id]) v) {edits : List Edit}
    (done : s.setNodeState id v = .ok (t, edits)) : Moved σ σ t edits := by
  obtain ⟨⟨m, nodes, found⟩, rfl, rfl⟩ := setNodeState_ok done
  have there : Value.Sited σ (some ["nodes"]) (.map m nodes) := h.tiers.child found List.not_mem_nil
  have now : Value.Sited σ (some ["nodes"]) (.map m (Entries.set (.str id) v nodes)) :=
    ⟨there.1, there.2.set_str value⟩
  rw [place_node_of_unshared h.unshared found]
  refine ⟨.refl σ, h.setTier now, fun e member _ => ?_⟩
  obtain rfl := List.mem_singleton.1 member
  exact ⟨_, there.1, now⟩

theorem Sited.makeNode (h : s.Sited σ) (id : String) :
    ∃ τ, Moved σ τ (s.makeNode id).1 (s.makeNode id).2 := by
  rcases s.makeNode_cases id with ⟨-, same⟩ | ⟨-, made⟩
  · rw [same]
    exact ⟨σ, .refl σ, h, fun e member => absurd member List.not_mem_nil⟩
  · obtain ⟨f, copied⟩ := exists_sited_copy h.positive (some ["nodes", id]) emptyMap
    have grown := h.kept (Nat.le_succ s.next) f
    have fresh : Value.Sited (σ.extend (s.next + 1) f) (some ["nodes", id]) (.map s.next []) :=
      copied _ (h.follows f _)
    have ready := h.withTiers (Nat.le_succ s.next) (h.tiers.mono grown _ _ _)
    obtain ⟨τ, moved⟩ := ready.place ["nodes", id] fresh
    rw [made]
    exact ⟨τ, grown.trans moved.grown, moved.sited, moved.edits⟩

theorem Sited.mergeNode (h : s.Sited σ) (holds : s.HoldsNodes) (id : String)
    {news : List (Key × Value)}
    (values : ∀ e ∈ news, Value.Sited σ (e.1.below (some ["nodes", id]) []) e.2) :
    Moved σ σ (s.mergeNode id news).1 (s.mergeNode id news).2 := by
  obtain ⟨m, nodes, found⟩ := holds
  cases here : s.nodeMapping? id with
  | none =>
    rw [mergeNode_of_none here]
    exact ⟨.refl σ, h, fun e member => absurd member List.not_mem_nil⟩
  | some p =>
    obtain ⟨node, old⟩ := p
    have stands := (nodeMapping?_of_unshared h.unshared found).1 here
    have there : Value.Sited σ (some ["nodes"]) (.map m nodes) :=
      h.tiers.child found List.not_mem_nil
    have own := there.2.child stands List.not_mem_nil
    have now : Value.Sited σ (some ["nodes", id]) (.map node (Entries.setAll news old)) :=
      ⟨own.1, own.2.setAll values⟩
    rw [mergeNode_of_unshared h.unshared found stands]
    refine ⟨.refl σ, h.setTier ⟨there.1, there.2.set_str now⟩, fun e member _ => ?_⟩
    obtain rfl := List.mem_singleton.1 member
    exact ⟨_, own.1, now⟩

theorem Sited.adoptUpdates (h : s.Sited σ) {id : String} {updates : Value} {edits : List Edit}
    {fault : Option Fault} (done : s.adoptUpdates id updates = .ok (t, edits, fault)) :
    ∃ τ, Moved σ τ t edits := by
  obtain ⟨pairs, -, fault', written⟩ := adoptUpdates_ok done
  obtain ⟨τ, grown, sited, values⟩ := h.adoptEntries (some ["nodes", id]) pairs
  obtain ⟨holds, news, pairs, rfl, rfl⟩ := updateNodeState_ok written
  obtain ⟨υ, made⟩ := sited.makeNode id
  rw [ownParts_of_unshared made.sited.unshared] at pairs
  obtain ⟨rfl, -⟩ := Prod.mk.inj pairs
  have merged := made.sited.mergeNode (holdsNodes_makeNode sited.unshared holds id) id
    fun e member => (values e member).mono made.grown _ _
  refine ⟨υ, grown.trans made.grown, merged.sited, fun e member => ?_⟩
  rcases List.mem_append.1 member with earlier | later
  · exact made.edits e earlier
  · exact merged.edits e later

/-! ### Lifecycle -/

theorem Sited.resetScene (h : s.Sited σ) : ∃ τ, σ.Grown τ ∧ s.resetScene.Sited τ := by
  -- the empty tiers are copies of empty tiers
  obtain ⟨f, scene⟩ := exists_sited_copy h.positive (some ["scene"])
    (.map 0 [(.str "vars", .map 0 [])])
  obtain ⟨g, nodes⟩ := exists_sited_copy (show 0 < s.next + 2 from Nat.succ_pos _)
    (some ["nodes"]) (.map 0 [])
  have later : s.next ≤ s.next + 3 := Nat.le_add_right _ _
  have made := h.follows (Sites.joined (s.next + 2) f g) (s.next + 3)
  have grown := h.kept later (Sites.joined (s.next + 2) f g)
  have scene' := scene _ (made.left (Nat.le_succ _))
  have nodes' := nodes _ (made.right (Nat.le_add_right _ _))
  exact ⟨_, grown, h.withTiers later (((h.tiers.mono grown _ _ _).set_str scene').set_str nodes')⟩

theorem exists_sited_emptyTiers {next : Nat} (positive : 0 < next) :
    ∃ f, ∀ τ : Sites, τ.Follows f next (next + 5) → SitedEntries τ (some []) [] (emptyTiers next) :=
  exists_sited_copyEntries positive (some []) [] (emptyTiers 0)

theorem sited_empty : ∃ σ, empty.Sited σ := by
  obtain ⟨f, tiers⟩ := exists_sited_emptyTiers (show 0 < 1 from Nat.succ_pos 0)
  exact ⟨⟨6, f⟩, rfl, rfl, Nat.succ_pos _, tiers ⟨6, f⟩ ⟨Nat.le_refl _, fun _ _ _ => rfl⟩⟩

theorem Sited.reset (h : s.Sited σ) : ∃ τ, s.reset.Sited τ := by
  obtain ⟨f, tiers⟩ := exists_sited_emptyTiers h.positive
  exact ⟨⟨s.next + 5, f⟩, rfl, rfl, Nat.succ_pos _, tiers _ ⟨Nat.le_refl _, fun _ _ _ => rfl⟩⟩

theorem Sited.restore (h : s.Sited σ) {snapshot : Value} (done : s.restore snapshot = .ok t) :
    ∃ τ, σ.Grown τ ∧ t.Sited τ := by
  obtain ⟨-, rfl⟩ := restore_ok_of_unshared h.unshared done
  generalize (mergePairs snapshot).1 = pairs
  have more := (marks_copyEntries (s.next + 5) pairs).1
  have later : s.next ≤ (copyEntries (s.next + 5) pairs).2 := by omega
  obtain ⟨f, empty⟩ := exists_sited_emptyTiers h.positive
  obtain ⟨g, copied⟩ := exists_sited_copyEach (show 0 < s.next + 5 from Nat.succ_pos _)
    (some []) pairs
  have made := h.follows (Sites.joined (s.next + 5) f g) (copyEntries (s.next + 5) pairs).2
  have tiers := empty _ (made.left more)
  exact ⟨_, h.kept later _, h.withTiers later
    (tiers.setAll (copied _ (made.right (Nat.le_add_right _ _))))⟩

end Store

end SceneCourse
