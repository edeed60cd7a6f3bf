import SceneCourse.Proofs.Grafting
import SceneCourse.Proofs.Navigation
import SceneCourse.Proofs.RecordReading

/-! Merging a snapshot into the state. The state of a node is put in its place by the id as it is,
while the name of a variable becomes a part of a path, so a name with points in it leads somewhere
else. Proved: merging a snapshot sets every variable and every state of a node that the snapshot
holds, and leaves everything else as it was, whatever the state is, exactly if no variable of the
snapshot has a name with a point; and then merging the state into itself changes nothing. -/

namespace SceneCourse

namespace Value

variable {u v x : Value} {p q : List String} {ws : List (List String × Value)}

/-! ### Values at places that diverge -/

theorem diverge_of_length_eq (same : p.length = q.length) : q = p ∨ Diverge p q := by
  by_cases eq : q = p
  · exact Or.inl eq
  · exact Or.inr ⟨fun below => eq (below.eq_of_length same).symm,
      fun above => eq (above.eq_of_length same.symm)⟩

theorem under_putAll_of_diverge (apart : ∀ w ∈ ws, Diverge p w.1) (u : Value) :
    (putAll ws u).under p = u.under p := by
  induction ws generalizing u with
  | nil => rfl
  | cons w ws ih =>
    rw [putAll_cons, ih fun w' member => apart w' (List.mem_cons_of_mem w member),
      under_put_of_diverge (apart w List.mem_cons_self)]

/-- Values that are put at diverging places are found there, and nothing else has changed at such a
place. -/
theorem under_putAll (once : (ws.map Prod.fst).Nodup) (apart : ∀ w ∈ ws, w.1 = p ∨ Diverge p w.1)
    (u : Value) : (putAll ws u).under p = (ws.lookup p).or (u.under p) := by
  induction ws generalizing u with
  | nil => rfl
  | cons w ws ih =>
    obtain ⟨q, y⟩ := w
    rw [List.map_cons, List.nodup_cons] at once
    have apart' : ∀ w ∈ ws, w.1 = p ∨ Diverge p w.1 :=
      fun w member => apart w (List.mem_cons_of_mem _ member)
    rw [putAll_cons, List.lookup_cons]
    rcases apart (q, y) List.mem_cons_self with rfl | away
    · -- the value stays, since nothing later has the same place
      have others : ∀ w ∈ ws, Diverge q w.1 := fun w member =>
        (apart' w member).resolve_left fun same => once.1 (same ▸ List.mem_map_of_mem member)
      rw [under_putAll_of_diverge others, under_put, beq_self_eq_true]
      rfl
    · have other : (p == q) = false := by
        rw [beq_eq_false_iff_ne]
        rintro rfl
        exact away.1 (List.prefix_refl _)
      rw [ih once.2 apart', under_put_of_diverge away, other]

theorem putAll_of_under (there : ∀ w ∈ ws, u.under w.1 = some w.2) : putAll ws u = u := by
  induction ws with
  | nil => rfl
  | cons w ws ih =>
    rw [putAll_cons, put_of_under (there w List.mem_cons_self)]
    exact ih fun w' member => there w' (List.mem_cons_of_mem w member)

theorem mapAt_put (before : v.MapAt q) (above : ¬p <+: q) (x : Value) : (put p x v).MapAt q := by
  by_cases below : q <+: p
  · obtain ⟨r, rfl⟩ := below
    obtain ⟨m, es, here⟩ := before
    cases r with
    | nil => exact absurd (by simp) above
    | cons s r => exact ⟨_, _, under_put_append here (s :: r) x⟩
  · rw [MapAt, under_put_of_diverge ⟨below, above⟩]
    exact before

theorem once_of_get? {k : Key} {es : List (Key × Value)} (once : Once (marksEntries es))
    (found : Entries.get? k es = some v) : Once (marks v) := by
  induction es with
  | nil => cases found
  | cons e es ih =>
    obtain ⟨l, w⟩ := e
    rw [Entries.get?] at found
    split at found
    next => exact Option.some.inj found ▸ once.left
    next => exact ih once.right found

/-- Whatever stands in a tree is one. -/
theorem Treelike.under (tree : u.Treelike) (there : u.under p = some v) : v.Treelike := by
  refine ⟨isCyclic_of_under tree.acyclic there, ?_⟩
  have once := tree.once
  clear tree
  induction p generalizing u with
  | nil => exact Option.some.inj there ▸ once
  | cons s p ih =>
    cases u with
    | map m es =>
      obtain ⟨w, found, inner⟩ := Option.bind_eq_some_iff.1 there
      exact ih inner (once_of_get? once.tail found)
    | _ => cases there

end Value

namespace Session

variable {η α : Type} {deep : Bool} {s t : Session η} {ws vs : List (List String × Value)}
  {f g : Step (Session η) Unit}

open Value (plain put putAll)

/-! ### Steps that put values -/

/-- A session that values can be put into, in the places of nodes' states too. -/
structure Ready (deep : Bool) (s : Session η) : Prop where
  shared : s.store.shared = deep
  treelike : s.store.Treelike
  nodes : s.store.HoldsNodes

/-- A step after which a reader finds certain values put into the state, one after the other. -/
def Puts (deep : Bool) (ws : List (List String × Value)) (f : Step (Session η) Unit) : Prop :=
  ∀ s, Ready deep s → ∃ t, f s = (.done (), t) ∧ Ready deep t ∧
    t.store.root.plain = putAll ws s.store.root.plain

theorem Puts.nothing : Puts deep [] (Step.pure () : Step (Session η) Unit) :=
  fun s ready => ⟨s, rfl, ready, rfl⟩

theorem Puts.seq (first : Puts deep ws f) (later : Puts deep vs g) :
    Puts deep (ws ++ vs) (Step.bind f fun _ => g) := by
  intro s ready
  obtain ⟨t, done, ready', seen⟩ := first s ready
  obtain ⟨u, done', ready'', seen'⟩ := later t ready'
  refine ⟨u, ?_, ready'', ?_⟩
  · rw [Step.bind, done]
    exact done'
  · rw [seen', seen, putAll, putAll, putAll, List.foldl_append]

theorem Puts.each {place : α → List String × Value} {f : α → Step (Session η) Unit} {xs : List α}
    (h : ∀ x ∈ xs, Puts deep [place x] (f x)) : Puts deep (xs.map place) (Step.each f xs) := by
  induction xs with
  | nil => exact .nothing
  | cons x xs ih =>
    exact (h x List.mem_cons_self).seq (ih fun y member => h y (List.mem_cons_of_mem x member))

/-- Nothing takes the place of the tier of the nodes that is put further down. -/
theorem Ready.put {p : List String} {x : Value} (ready : Ready deep s)
    (shared : t.store.shared = s.store.shared) (treelike : t.store.Treelike)
    (seen : t.store.root.plain = put p x s.store.root.plain) (long : 1 < p.length) :
    Ready deep t := by
  refine ⟨shared.trans ready.shared, treelike, ?_⟩
  have nodes := ready.nodes
  rw [Store.holdsNodes_iff_mapAt, ← Value.mapAt_plain] at nodes ⊢
  rw [seen]
  exact Value.mapAt_put nodes (fun above => absurd above.length_le (Nat.not_le_of_gt long)) x

theorem puts_setCopy {path : String} {v : Value} (own : deep = true → v.Treelike)
    (long : 1 < (segments path).length) :
    Puts deep [(segments path, v.plain)] (do let _ ← setCopy path v : Step (Session η) Unit) := by
  intro s ready
  have graft := Store.graft_adopt s.store (v := v) fun shared => own (ready.shared ▸ shared)
  obtain ⟨shared, treelike, seen⟩ := graft.set ready.treelike path
  rw [adopt_plain] at seen
  exact ⟨_, rfl, ready.put shared treelike seen long, seen⟩

theorem puts_setNode {id : String} {v : Value} (own : deep = true → v.Treelike) :
    Puts deep [(["nodes", id], v.plain)] (setNode id v : Step (Session η) Unit) := by
  intro s ready
  have graft := Store.graft_adopt s.store (v := v) fun shared => own (ready.shared ▸ shared)
  have holds : (s.store.adopt v).2.HoldsNodes := by
    rw [Store.HoldsNodes, graft.tiers]
    exact ready.nodes
  obtain ⟨t, edits, written, node⟩ := Store.exists_setNodeState holds id fun shared =>
    ⟨graft.tree (ready.treelike (graft.shared ▸ shared)),
      graft.writable (graft.shared ▸ shared) (ready.treelike (graft.shared ▸ shared)) ["nodes", id]⟩
  have done : setNode id v s = (.done (), s.commit t edits) := Store.setNode_of_done written
  have seen : t.root.plain = put ["nodes", id] v.plain s.store.root.plain := by
    rw [node.plain, adopt_plain, Store.root, graft.tiers]
    rfl
  have treelike := node.treelike ready.nodes graft ready.treelike
  exact ⟨_, done, ready.put (node.shared.trans graft.shared) treelike seen (Nat.lt_add_one 1), seen⟩

end Session

/-! ### What a snapshot holds -/

/-- The variables of two tiers and the states of nodes. -/
structure Holdings where
  globals : List (String × Value)
  scene : List (String × Value)
  nodes : List (String × Value)

namespace Holdings

open Session (mappingAt varsAt mergeVars setNode setState varPath Puts Ready)
open Value (plain putAll)

variable {η : Type} {h : Holdings} {es : List (Key × Value)} {m : Nat} {deep : Bool} {s : Session η}

/-- A snapshot holds these variables and states of nodes, each under a text, and no others. -/
structure Of (h : Holdings) (es : List (Key × Value)) : Prop where
  globals : varsAt es "globals" = .ok (keyed h.globals)
  scene : varsAt es "scene" = .ok (keyed h.scene)
  nodes : mappingAt es "nodes" = .ok (keyed h.nodes)
  globalsOnce : (h.globals.map Prod.fst).Nodup
  sceneOnce : (h.scene.map Prod.fst).Nodup
  nodesOnce : (h.nodes.map Prod.fst).Nodup

def names (h : Holdings) : List String := (h.globals ++ h.scene).map Prod.fst

def values (h : Holdings) : List Value := (h.globals ++ h.scene ++ h.nodes).map Prod.snd

def placed (place : String → List String) (fields : List (String × Value)) :
    List (List String × Value) :=
  fields.map fun (k, v) => (place k, v.plain)

/-- The places that the snapshot is written to, with the names of variables as paths. -/
def writes (h : Holdings) : List (List String × Value) :=
  placed (varPath "globals") h.globals ++
    (placed (varPath "scene") h.scene ++ placed (["nodes", ·]) h.nodes)

/-- The places that the snapshot has its values at, with the names of variables as keys. -/
def places (h : Holdings) : List (List String × Value) :=
  placed (["globals", "vars", ·]) h.globals ++
    (placed (["scene", "vars", ·]) h.scene ++ placed (["nodes", ·]) h.nodes)

theorem placed_congr {place place' : String → List String} {fields : List (String × Value)}
    (same : ∀ k ∈ fields.map Prod.fst, place k = place' k) :
    placed place fields = placed place' fields :=
  List.map_congr_left fun e member => congrArg (·, e.2.plain)
    (same e.1 (List.mem_map_of_mem member))

theorem writes_eq_places (whole : ∀ name ∈ h.names, Undivided name) : h.writes = h.places := by
  rw [names, List.map_append] at whole
  rw [writes, places]
  congr 1
  · refine placed_congr fun k member => ?_
    rw [varPath, nameParts_of_undivided (whole k (List.mem_append_left _ member))]
  · congr 1
    refine placed_congr fun k member => ?_
    rw [varPath, nameParts_of_undivided (whole k (List.mem_append_right _ member))]

/-! ### Merging as writes -/

theorem puts_mergeVars {tier : String} (known : tier = "globals" ∨ tier = "scene")
    {fields : List (String × Value)} (found : varsAt es tier = .ok (keyed fields))
    (own : ∀ e ∈ fields, deep = true → e.2.Treelike) :
    Puts deep (placed (varPath tier) fields) (mergeVars es tier : Step (Session η) Unit) := by
  have all : placed (varPath tier) fields =
      (keyed fields).map fun e => (segments s!"{tier}.vars.{e.1.value.shown}", e.2.plain) := by
    rw [placed, keyed, List.map_map]
    refine List.map_congr_left fun e _ => ?_
    show _ = (segments s!"{tier}.vars.{e.1}", e.2.plain)
    rw [segments_variable known]
    rfl
  rw [mergeVars, found, all]
  refine Puts.each fun e member => ?_
  obtain ⟨k, v⟩ := e
  obtain ⟨name, rfl, inside⟩ := mem_keyed.1 member
  refine Session.puts_setCopy (own (name, v) inside) ?_
  show 1 < (segments s!"{tier}.vars.{name}").length
  rw [segments_variable known]
  exact Nat.lt_add_of_pos_left (Nat.succ_pos _)

theorem Of.puts_setState (held : h.Of es) (own : ∀ v ∈ h.values, deep = true → v.Treelike)
    (m : Nat) : Puts deep h.writes (setState (.map m es) : Step (Session η) Unit) := by
  have own' {e : String × Value} (member : e ∈ h.globals ++ h.scene ++ h.nodes) : deep = true →
      e.2.Treelike :=
    own e.2 (List.mem_map_of_mem member)
  have nodes : Puts deep (placed (["nodes", ·]) h.nodes)
      (Step.each (fun e => Session.setNode e.1.value.shown e.2) (keyed h.nodes) : Step
          (Session η) Unit) := by
    have all : placed (["nodes", ·]) h.nodes = (keyed h.nodes).map fun e =>
      (["nodes", e.1.value.shown], e.2.plain) := by
      rw [placed, keyed, List.map_map]
      rfl
    rw [all]
    refine Puts.each fun e member => Session.puts_setNode ?_
    obtain ⟨k, v⟩ := e
    obtain ⟨id, rfl, inside⟩ := mem_keyed.1 member
    exact own' (e := (id, v)) (List.mem_append_right _ inside)
  have globals := puts_mergeVars (η := η) (Or.inl rfl) held.globals fun e member =>
    own' (List.mem_append_left _ (List.mem_append_left _ member))
  have scene := puts_mergeVars (η := η) (Or.inr rfl) held.scene fun e member =>
    own' (List.mem_append_left _ (List.mem_append_right _ member))
  have whole : (setState (.map m es) : Step (Session η) Unit) =
      Step.bind (mergeVars es "globals") fun _ => Step.bind (mergeVars es "scene") fun _ =>
        Step.each (fun e => setNode e.1.value.shown e.2) (keyed h.nodes) := by
    rw [setState, held.nodes]
    rfl
  rw [whole]
  exact globals.seq (scene.seq nodes)

/-! ### What a reader finds -/

/-- A state has what a snapshot holds, and otherwise what there was before. -/
structure Merged (h : Holdings) (before after : Value) : Prop where
  globals : ∀ k, after.under ["globals", "vars", k] =
    ((h.globals.lookup k).map plain).or (before.under ["globals", "vars", k])
  scene : ∀ k, after.under ["scene", "vars", k] =
    ((h.scene.lookup k).map plain).or (before.under ["scene", "vars", k])
  nodes : ∀ id, after.under ["nodes", id] =
    ((h.nodes.lookup id).map plain).or (before.under ["nodes", id])
  beside : ∀ tier, tier = "globals" ∨ tier = "scene" → ∀ k, k ≠ "vars" →
    after.under [tier, k] = before.under [tier, k]
  roots : ∀ name, name ∉ tierNames → after.under [name] = before.under [name]

theorem lookup_placed (place : String → List String) (injective : ∀ k l, place k = place l → k = l)
    (fields : List (String × Value)) (k : String) :
    (placed place fields).lookup (place k) = (fields.lookup k).map plain := by
  induction fields with
  | nil => rfl
  | cons e fields ih =>
    obtain ⟨l, v⟩ := e
    show List.lookup (place k) ((place l, v.plain) :: placed place fields) = _
    rw [List.lookup_cons, List.lookup_cons, ih]
    by_cases same : k = l
    · subst same
      simp
    · have other : (place k == place l) = false :=
        beq_eq_false_iff_ne.2 fun eq => same (injective k l eq)
      rw [other, beq_eq_false_iff_ne.2 same]

theorem lookup_placed_of_ne {place : String → List String} {p : List String}
    (other : ∀ k, place k ≠ p) (fields : List (String × Value)) :
    (placed place fields).lookup p = none := by
  rw [List.lookup_eq_none_iff]
  intro w member
  obtain ⟨e, -, rfl⟩ := List.mem_map.1 member
  simpa using Ne.symm (other e.1)

theorem mem_places {w : List String × Value} (member : w ∈ h.places) :
    (∃ k, w.1 = ["globals", "vars", k]) ∨ (∃ k, w.1 = ["scene", "vars", k]) ∨
      ∃ id, w.1 = ["nodes", id] := by
  rw [places, List.mem_append, List.mem_append] at member
  rcases member with member | member | member <;> obtain ⟨e, -, rfl⟩ := List.mem_map.1 member
  · exact Or.inl ⟨_, rfl⟩
  · exact Or.inr (Or.inl ⟨_, rfl⟩)
  · exact Or.inr (Or.inr ⟨_, rfl⟩)

theorem Of.places_once (held : h.Of es) : (h.places.map Prod.fst).Nodup := by
  have single {place : String → List String} (injective : Function.Injective place)
      {fields : List (String × Value)}
      (once : (fields.map Prod.fst).Nodup) : ((placed place fields).map Prod.fst).Nodup := by
    have names : (placed place fields).map Prod.fst = (fields.map Prod.fst).map place := by
      rw [placed, List.map_map, List.map_map]
      rfl
    rw [names]
    exact once.map injective
  have first {place : String → List String} {fields : List (String × Value)} {p : List String}
      (member : p ∈ (placed place fields).map Prod.fst) : ∃ k, p = place k := by
    rw [placed, List.map_map] at member
    obtain ⟨e, -, rfl⟩ := List.mem_map.1 member
    exact ⟨e.1, rfl⟩
  rw [places, List.map_append, List.map_append]
  refine (single (fun k l => by simp) held.globalsOnce).append
    ((single (fun k l => by simp) held.sceneOnce).append
      (single (fun k l => by simp) held.nodesOnce) ?_) ?_
  · intro p scene node
    obtain ⟨k, rfl⟩ := first scene
    obtain ⟨id, same⟩ := first node
    simp at same
  · intro p global other
    obtain ⟨k, rfl⟩ := first global
    rcases List.mem_append.1 other with scene | node
    · obtain ⟨l, same⟩ := first scene
      simp at same
    · obtain ⟨id, same⟩ := first node
      simp at same

theorem Of.under_putAll_places (held : h.Of es) {p : List String}
    (global : ∀ k, ["globals", "vars", k] = p ∨ Diverge p ["globals", "vars", k])
    (scene : ∀ k, ["scene", "vars", k] = p ∨ Diverge p ["scene", "vars", k])
    (node : ∀ id, ["nodes", id] = p ∨ Diverge p ["nodes", id]) (u : Value) :
    (putAll h.places u).under p = (h.places.lookup p).or (u.under p) := by
  refine Value.under_putAll held.places_once (fun w member => ?_) u
  rcases mem_places member with ⟨k, same⟩ | ⟨k, same⟩ | ⟨id, same⟩ <;> rw [same]
  · exact global k
  · exact scene k
  · exact node id

theorem Of.merged (held : h.Of es) (u : Value) : h.Merged u (putAll h.places u) where
  globals k := by
    rw [held.under_putAll_places (fun _ => Value.diverge_of_length_eq rfl)
      (fun _ => Value.diverge_of_length_eq rfl)
      (fun _ => Or.inr (by simp [Diverge])), places, List.lookup_append, List.lookup_append,
      lookup_placed (["globals", "vars", ·]) (fun k l => by simp), lookup_placed_of_ne (by simp),
      lookup_placed_of_ne (by simp), Option.or_none, Option.or_none]
  scene k := by
    rw [held.under_putAll_places (fun _ => Value.diverge_of_length_eq rfl)
      (fun _ => Value.diverge_of_length_eq rfl)
      (fun _ => Or.inr (by simp [Diverge])), places, List.lookup_append, List.lookup_append,
      lookup_placed (["scene", "vars", ·]) (fun k l => by simp), lookup_placed_of_ne (by simp),
      lookup_placed_of_ne (by simp), Option.or_none, Option.none_or]
  nodes id := by
    rw [held.under_putAll_places (fun _ => Or.inr (by simp [Diverge]))
      (fun _ => Or.inr (by simp [Diverge]))
      (fun _ => Value.diverge_of_length_eq rfl), places, List.lookup_append, List.lookup_append,
      lookup_placed (["nodes", ·]) (fun k l => by simp), lookup_placed_of_ne (by simp),
      lookup_placed_of_ne (by simp), Option.none_or, Option.none_or]
  beside tier known k other := by
    refine Value.under_putAll_of_diverge (fun w member => ?_) u
    have away : ¬tier = "nodes" := by rcases known with rfl | rfl <;> decide
    rcases mem_places member with ⟨l, same⟩ | ⟨l, same⟩ | ⟨id, same⟩ <;> rw [same]
    · simp [Diverge, other]
    · simp [Diverge, other]
    · simp [Diverge, away, Ne.symm away]
  roots name other := by
    refine Value.under_putAll_of_diverge (fun w member => ?_) u
    simp only [tierNames, List.mem_cons, not_or] at other
    rcases mem_places member with ⟨l, same⟩ | ⟨l, same⟩ | ⟨id, same⟩ <;> rw [same] <;>
      simp [Diverge, other]

/-! ### A snapshot of the state itself -/

theorem under_of_mappingAt {name : String} {fs : List (Key × Value)}
    (found : mappingAt es name = .ok fs) (k : String) (rest : List String) :
    (Value.map m es).under (name :: k :: rest) = (Value.map 0 fs).under (k :: rest) := by
  rw [Value.under_cons, Value.fields]
  unfold mappingAt at found
  dsimp only at found
  cases there : Entries.get? (.str name) es with
  | none =>
    rw [there] at found
    obtain rfl := Except.ok.inj found
    rfl
  | some v =>
    rw [there, Option.getD_some] at found
    rw [Option.bind_some]
    split at found
    next falsy =>
      obtain rfl := Except.ok.inj found
      cases v with
      | map n gs =>
        cases gs with
        | nil => rfl
        | cons e gs => cases falsy
      | _ => rfl
    next =>
      cases v with
      | map n gs =>
        obtain rfl := Except.ok.inj found
        rfl
      | _ => cases found

theorem under_of_varsAt {tier : String} {fs : List (Key × Value)} (found : varsAt es tier = .ok fs)
    (k : String) : (Value.map m es).under [tier, "vars", k] = Entries.get? (.str k) fs := by
  unfold varsAt at found
  cases tiers : mappingAt es tier with
  | error e =>
    rw [tiers] at found
    cases found
  | ok gs =>
    rw [tiers] at found
    rw [under_of_mappingAt tiers, Value.under_cons, Value.fields]
    dsimp only [Bind.bind, Except.bind] at found
    split at found
    next none_ =>
      obtain rfl := Except.ok.inj found
      rw [none_]
      rfl
    next n hs there =>
      obtain rfl := Except.ok.inj found
      rw [there, Option.bind_some, Value.under_cons, Value.fields]
      cases Entries.get? (.str k) hs <;> rfl
    next => cases found

/-- What a snapshot holds stands in it. -/
theorem Of.under (held : h.Of es) :
    (∀ e ∈ h.globals, (Value.map m es).under ["globals", "vars", e.1] = some e.2) ∧
    (∀ e ∈ h.scene, (Value.map m es).under ["scene", "vars", e.1] = some e.2) ∧
    ∀ e ∈ h.nodes, (Value.map m es).under ["nodes", e.1] = some e.2 := by
  refine ⟨fun e member => ?_, fun e member => ?_, fun e member => ?_⟩
  · rw [under_of_varsAt held.globals, get?_keyed_of_mem held.globalsOnce member]
  · rw [under_of_varsAt held.scene, get?_keyed_of_mem held.sceneOnce member]
  · rw [under_of_mappingAt held.nodes, Value.under_cons, Value.fields,
      get?_keyed_of_mem held.nodesOnce member]
    rfl

theorem Of.under_places (held : h.Of es) :
    ∀ w ∈ h.places, (Value.map m es).plain.under w.1 = some w.2 := by
  obtain ⟨globals, scene, nodes⟩ := held.under (m := m)
  intro w member
  rw [places, List.mem_append, List.mem_append] at member
  rcases member with member | member | member <;> obtain ⟨e, inside, rfl⟩ := List.mem_map.1 member
  · rw [Value.under_plain, globals e inside, Option.map_some]
  · rw [Value.under_plain, scene e inside, Option.map_some]
  · rw [Value.under_plain, nodes e inside, Option.map_some]

theorem Of.treelike (held : h.Of es) (tree : (Value.map m es).Treelike) :
    ∀ v ∈ h.values, v.Treelike := by
  obtain ⟨globals, scene, nodes⟩ := held.under (m := m)
  intro v member
  obtain ⟨e, inside, rfl⟩ := List.mem_map.1 member
  rw [List.mem_append, List.mem_append] at inside
  rcases inside with (inside | inside) | inside
  · exact tree.under (globals e inside)
  · exact tree.under (scene e inside)
  · exact tree.under (nodes e inside)

end Holdings

namespace Session

open Holdings
open Value (putAll)

variable {η : Type} {h : Holdings} {es : List (Key × Value)} {m : Nat}

/-! ### Merging -/

/-- Merging a snapshot does not put anything under a name with a point. -/
theorem under_writes_of_divided {tier name : String} (known : tier = "globals" ∨ tier = "scene")
    (divided : ¬Undivided name) (u : Value) :
    (putAll h.writes u).under [tier, "vars", name] = u.under [tier, "vars", name] := by
  have apart (tier' k : String) : Diverge [tier, "vars", name] (varPath tier' k) := by
    have part_of (member : name ∈ nameParts k) : False :=
      divided (undivided_of_mem_nameParts member)
    constructor <;> intro above <;> refine part_of ?_
    · obtain ⟨-, above⟩ := List.cons_prefix_cons.1 above
      obtain ⟨-, above⟩ := List.cons_prefix_cons.1 above
      exact above.subset List.mem_cons_self
    · obtain ⟨-, above⟩ := List.cons_prefix_cons.1 above
      obtain ⟨-, above⟩ := List.cons_prefix_cons.1 above
      obtain ⟨part, parts, nonempty⟩ := List.exists_cons_of_ne_nil (nameParts_ne_nil k)
      rw [nonempty] at above ⊢
      obtain ⟨rfl, -⟩ := List.cons_prefix_cons.1 above
      exact List.mem_cons_self
  refine Value.under_putAll_of_diverge (fun w member => ?_) u
  rw [writes, List.mem_append, List.mem_append] at member
  rcases member with member | member | member <;> obtain ⟨e, -, rfl⟩ := List.mem_map.1 member
  · exact apart "globals" e.1
  · exact apart "scene" e.1
  · have away : ¬tier = "nodes" := by rcases known with rfl | rfl <;> decide
    simp [Diverge, away, Ne.symm away]

/-- The names of the variables of a snapshot that every state takes over by key have no points in
them. -/
theorem undivided_of_merges (kept : η) (held : h.Of es)
    (merges : ∃ t, setState (.map m es) (fresh {} {} kept) = (.done (), t) ∧
      h.Merged (fresh {} {} kept).store.root.plain t.store.root.plain) :
    ∀ name ∈ h.names, Undivided name := by
  intro name member
  by_contra divided
  obtain ⟨t, done, merged⟩ := merges
  have ready : Ready false (fresh {} {} kept) := ⟨rfl, nofun, 5, [], rfl⟩
  have own : ∀ v ∈ h.values, false = true → v.Treelike := fun _ _ => nofun
  obtain ⟨t', done', -, seen⟩ := held.puts_setState own m _ ready
  obtain rfl : t = t' := congrArg Prod.snd (done.symm.trans done')
  rw [names, List.map_append, List.mem_append] at member
  rcases member with member | member <;> obtain ⟨e, inside, rfl⟩ := List.mem_map.1 member
  · have here := merged.globals e.1
    rw [seen, under_writes_of_divided (Or.inl rfl) divided, ← get?_keyed,
      get?_keyed_of_mem held.globalsOnce inside] at here
    cases here
  · have here := merged.scene e.1
    rw [seen, under_writes_of_divided (Or.inr rfl) divided, ← get?_keyed,
      get?_keyed_of_mem held.sceneOnce inside] at here
    cases here

/-- Every state takes over a snapshot by key just if no variable of the snapshot has a name with a
point. Then a state that takes over a snapshot of its own reads as before. -/
theorem setState_merges_iff (kept : η) (held : h.Of es) :
    ((∀ s : Session η, s.store.Treelike → s.store.HoldsNodes →
      (s.store.shared = true → ∀ v ∈ h.values, v.Treelike) →
        ∃ t, setState (.map m es) s = (.done (), t) ∧
        h.Merged s.store.root.plain t.store.root.plain) ↔
      ∀ name ∈ h.names, Undivided name) ∧
    ((∀ name ∈ h.names, Undivided name) → ∀ s : Session η, s.store.Treelike → s.store.HoldsNodes →
      s.store.tiers = es →
      ∃ t, setState s.store.root s = (.done (), t) ∧ t.store.root.plain = s.store.root.plain) := by
  refine ⟨⟨fun merges => ?_, fun whole s treelike nodes own => ?_⟩,
    fun whole s treelike nodes same => ?_⟩
  · exact undivided_of_merges kept held (merges (fresh {} {} kept) nofun ⟨5, [], rfl⟩ nofun)
  · have puts := held.puts_setState (η := η) (fun v member shared => own shared v member) m
    obtain ⟨t, done, -, seen⟩ := puts s ⟨rfl, treelike, nodes⟩
    rw [writes_eq_places whole] at seen
    exact ⟨t, done, seen ▸ held.merged _⟩
  · subst same
    have own (shared : s.store.shared = true) : s.store.root.Treelike :=
      ⟨(treelike shared).acyclic, (treelike shared).once⟩
    have puts := held.puts_setState (η := η)
      (fun v member shared => held.treelike (own shared) v member) 0
    obtain ⟨t, done, -, seen⟩ := puts s ⟨rfl, treelike, nodes⟩
    rw [writes_eq_places whole] at seen
    exact ⟨t, done, seen.trans (Value.putAll_of_under held.under_places)⟩

/-! ### A satchel -/

/-- What a pupil brings along: a variable without a point in its name, and the state of a node with
one. -/
def satchel : Holdings where
  globals := [("score", .int 3)]
  scene := []
  nodes := [("quiz.1", .object [("done", .bool true)])]

def satchelState : List (Key × Value) :=
  keyed [("globals", .object [("vars", .object [("score", .int 3)])]),
    ("scene", .object [("vars", .object [])]),
    ("nodes", .object [("quiz.1", .object [("done", .bool true)])])]

theorem of_satchel : satchel.Of satchelState where
  globals := rfl
  scene := rfl
  nodes := rfl
  globalsOnce := by decide
  sceneOnce := by decide
  nodesOnce := by decide

/-- A pupil finds in the satchel what was there, and nothing else, and the satchel itself takes over
what it holds. -/
theorem setState_merges_satchel : satchel.Of satchelState ∧
    (∃ t, setState (.map 0 satchelState) (fresh {} {} ()) = (.done (), t) ∧
      satchel.Merged (fresh {} {} ()).store.root.plain t.store.root.plain) ∧
    ∃ t, setState (.map 0 satchelState) { fresh {} {} () with store := ⟨satchelState, 6, false⟩ } =
      (.done (), t) ∧
      t.store.root.plain = (Value.map 0 satchelState).plain := by
  obtain ⟨merges, still⟩ := setState_merges_iff (m := 0) () of_satchel
  have whole : ∀ name ∈ satchel.names, Undivided name := by decide
  exact ⟨of_satchel, merges.2 whole (fresh {} {} ()) nofun ⟨5, [], rfl⟩ nofun,
    still whole { fresh {} {} () with store := ⟨satchelState, 6, false⟩ } nofun ⟨0, _, rfl⟩ rfl⟩

def pointed : Value := .object [("globals", .object [("vars", .object [("a.b", .int 1)])])]

def hasPart (state : Value) : Bool := (state.under ["globals", "vars", "a"]).isSome

def pointedTour : Session ScriptHost :=
  (start (ScriptHost.callbacks {}) (emit (ScriptHost.callbacks {}) 5) none pointed
    Course.houseTour).2

/-- Whoever merges the state of that tour into itself finds a variable more. -/
theorem setState_pointed : hasPart pointedTour.store.root.plain = false ∧
    hasPart (setState pointedTour.store.root pointedTour).2.store.root.plain = true := by
  constructor <;> decide +kernel

end Session

end SceneCourse
