import Mathlib.Data.List.Nodup
import SceneCourse.DryRun.Analysis
import SceneCourse.Proofs.Presenting

/-! Which nodes a dry run calls unused. A scene names a node as the target of a trigger, or by a
parameter of an action at any depth; it points at those names that a dry run looks for. References
are kept as one set of texts, a scene's id and a name with a colon between them, and a text with
several colons can be divided at each. So a scene that points at a name is also taken for another
scene that points at another name. Proved: a node is called unused exactly if its scene does not
point at it and nobody else is mistaken for its scene. No mistake is possible unless some scene has
a colon in its id. -/

namespace SceneCourse

/-! ### Names and what is looked for -/

namespace Action

/-- An action names a node by its parameter `nodeId` or `target`. -/
def Names (a : Action) (n : String) : Prop :=
  a.fields.lookup "nodeId" = some (.str n) ∨ a.fields.lookup "target" = some (.str n)

/-- What an action names without pointing at it. -/
inductive Hides : Action → String → Prop where
  /-- The parameters of toasts and dialogs are shown; none of them is looked at. -/
  | shown {a : Action} {w : UiRequest} {n : String} (wording : a.wording? = some w)
    (names : a.Names n) : Hides a n
  /-- Beside a `target`, even one that is no text, a `nodeId` is not looked at. -/
  | behind {tag n : String} {params : List (String × Value)} {v : Value}
    (target : params.lookup "target" = some v)
    (other : v ≠ .str n) (nodeId : params.lookup "nodeId" = some (.str n)) :
      Hides (.unknown tag params) n

theorem nodeTarget?_unknown_eq_some_iff {tag n : String} {params : List (String × Value)} :
    (unknown tag params).nodeTarget? = some n ↔
      (params.lookup "target").or (params.lookup "nodeId") = some (.str n) := by
  rw [nodeTarget?]
  split
  next s found => simp [found]
  next other =>
    simp only [reduceCtorEq, false_iff]
    exact other n

theorem names_resetNode_iff {nodeId n : String} : (resetNode nodeId).Names n ↔ nodeId = n := by
  simp [Names, fields, List.lookup_cons]

theorem names_iff {a : Action} {n : String} : a.Names n ↔ a.nodeTarget? = some n ∨ a.Hides n := by
  constructor
  · intro names
    cases a with
    | resetNode nodeId => exact Or.inl (congrArg some (names_resetNode_iff.1 names))
    | toast text extras => exact Or.inr (.shown rfl names)
    | modal text extras => exact Or.inr (.shown rfl names)
    | unknown tag params =>
      rw [nodeTarget?_unknown_eq_some_iff]
      cases target : params.lookup "target" with
      | none => exact Or.inl (by simpa [Names, fields, target] using names)
      | some v =>
        by_cases same : v = .str n
        · exact Or.inl (by simp [same])
        · have nodeId : params.lookup "nodeId" = some (.str n) := by
            simpa [Names, fields, target, same] using names
          exact Or.inr (.behind target same nodeId)
    | _ => simp [Names, fields, List.lookup_cons] at names
  · rintro (points | ⟨-, names⟩ | ⟨-, -, nodeId⟩)
    · cases a with
      | resetNode nodeId => exact names_resetNode_iff.2 (Option.some.inj points)
      | unknown tag params =>
        rw [nodeTarget?_unknown_eq_some_iff] at points
        cases target : params.lookup "target" with
        | none =>
          rw [target, Option.none_or] at points
          exact Or.inl points
        | some v =>
          rw [target, Option.some_or] at points
          exact Or.inr (target.trans points)
      | _ => simp [nodeTarget?] at points
    · exact names
    · exact Or.inl nodeId

end Action

namespace Scene

variable {s : Scene} {n : String}

/-- Some trigger has the node for its target, or some action in a branch of a trigger, at any depth,
names it. -/
def Names (s : Scene) (n : String) : Prop :=
  ∃ t ∈ s.triggers, t.on.target = some n ∨ ∃ a ∈ Action.preorderAll t.actions, a.Names n

/-- Some trigger has the node for its target, or some action points at it; an empty name counts as
none. -/
def PointsAt (s : Scene) (n : String) : Prop :=
  n ≠ "" ∧ ∃ t ∈ s.triggers, t.on.target = some n ∨
    ∃ a ∈ Action.preorderAll t.actions, a.nodeTarget? = some n

/-- What a scene names and a dry run does not look at. -/
def Overlooks (s : Scene) (n : String) : Prop :=
  n = "" ∧ s.Names n ∨ ∃ t ∈ s.triggers, ∃ a ∈ Action.preorderAll t.actions, a.Hides n

theorem names_iff : s.Names n ↔ s.PointsAt n ∨ s.Overlooks n := by
  constructor
  · intro names
    by_cases empty : n = ""
    · exact Or.inr (Or.inl ⟨empty, names⟩)
    · obtain ⟨t, ht, target | ⟨a, ha, names⟩⟩ := names
      · exact Or.inl ⟨empty, t, ht, Or.inl target⟩
      · rcases Action.names_iff.1 names with points | hides
        · exact Or.inl ⟨empty, t, ht, Or.inr ⟨a, ha, points⟩⟩
        · exact Or.inr (Or.inr ⟨t, ht, a, ha, hides⟩)
  · rintro (⟨-, t, ht, target | ⟨a, ha, points⟩⟩ | ⟨-, names⟩ | ⟨t, ht, a, ha, hides⟩)
    · exact ⟨t, ht, Or.inl target⟩
    · exact ⟨t, ht, Or.inr ⟨a, ha, Action.names_iff.2 (Or.inl points)⟩⟩
    · exact names
    · exact ⟨t, ht, Or.inr ⟨a, ha, Action.names_iff.2 (Or.inr hides)⟩⟩

end Scene

namespace Course

/-! ### Texts that can be divided twice -/

variable {a b m n : String}

/-- The key of `m` under `a` divided at a colon further behind: `b` and `n` have moved a piece from
`m` to `a`. -/
def Shifted (a m b n : String) : Prop := ∃ r, b = nodeKey a r ∧ m = nodeKey r n

theorem toList_nodeKey (a m : String) : (nodeKey a m).toList = a.toList ++ ':' :: m.toList := by
  simp [nodeKey, String.toList_append]

theorem Shifted.nodeKey_eq (h : Shifted a m b n) : nodeKey a m = nodeKey b n := by
  obtain ⟨r, rfl, rfl⟩ := h
  simp [nodeKey, String.append_assoc]

theorem Shifted.colon (h : Shifted a m b n) : ':' ∈ b.toList := by
  obtain ⟨r, rfl, -⟩ := h
  simp [toList_nodeKey]

/-- Where the first id of a key reaches no further than that of another one, they are the same or
divided elsewhere. -/
theorem eq_or_shifted {r : List Char} (ids : b.toList = a.toList ++ r)
    (rest : ':' :: m.toList = r ++ ':' :: n.toList) : a = b ∧ m = n ∨ Shifted a m b n := by
  cases r with
  | nil =>
    rw [List.append_nil] at ids
    rw [List.nil_append] at rest
    exact Or.inl ⟨(String.toList_inj.1 ids).symm, String.toList_inj.1 (List.cons.inj rest).2⟩
  | cons colon r =>
    obtain ⟨rfl, inner⟩ := List.cons.inj rest
    refine Or.inr ⟨String.ofList r, String.toList_inj.1 ?_, String.toList_inj.1 ?_⟩
    · rw [ids, toList_nodeKey, String.toList_ofList]
    · rw [inner, toList_nodeKey, String.toList_ofList]
      rfl

theorem nodeKey_eq_iff :
    nodeKey a m = nodeKey b n ↔ a = b ∧ m = n ∨ Shifted a m b n ∨ Shifted b n a m := by
  constructor
  · intro same
    rw [← String.toList_inj, toList_nodeKey, toList_nodeKey, List.append_eq_append_iff] at same
    obtain ⟨r, ids, rest⟩ | ⟨r, ids, rest⟩ := same
    · exact (eq_or_shifted ids rest).imp_right Or.inl
    · refine (eq_or_shifted ids rest).imp ?_ Or.inr
      rintro ⟨rfl, rfl⟩
      exact ⟨rfl, rfl⟩
  · rintro (⟨rfl, rfl⟩ | further | nearer)
    · rfl
    · exact further.nodeKey_eq
    · exact nearer.nodeKey_eq.symm

/-! ### References -/

variable {c : Course} {s : Scene}

theorem mem_placedTriggers_iff {p : Scene × Nat × Trigger} :
    p ∈ c.placedTriggers ↔ p.1 ∈ c.scenes ∧ (p.2.2, p.2.1) ∈ p.1.triggers.zipIdx := by
  obtain ⟨s, i, t⟩ := p
  simp only [placedTriggers, List.mem_flatMap, List.mem_map, Prod.exists, Prod.mk.injEq]
  constructor
  · rintro ⟨s, hs, t, i, ht, rfl, rfl, rfl⟩
    exact ⟨hs, ht⟩
  · rintro ⟨hs, ht⟩
    exact ⟨s, hs, t, i, ht, rfl, rfl, rfl⟩

theorem mem_referencedKeys_iff {key : String} :
    key ∈ c.referencedKeys ↔ ∃ s ∈ c.scenes, ∃ n, s.PointsAt n ∧ key = nodeKey s.id n := by
  simp only [referencedKeys, List.mem_flatMap, List.mem_filterMap, List.mem_append,
    Option.mem_toList]
  constructor
  · rintro ⟨⟨s, i, t⟩, placed, n, found, keyed⟩
    obtain ⟨hs, ht⟩ := mem_placedTriggers_iff.1 placed
    split at keyed
    next => exact absurd keyed (by simp)
    next nonempty =>
      obtain rfl := Option.some.inj keyed
      exact ⟨s, hs, n, ⟨nonempty, t, List.fst_mem_of_mem_zipIdx ht, found⟩, rfl⟩
  · rintro ⟨s, hs, n, ⟨nonempty, t, ht, found⟩, rfl⟩
    obtain ⟨i, hi, rfl⟩ := List.getElem_of_mem ht
    refine ⟨(s, i, s.triggers[i]), mem_placedTriggers_iff.2 ⟨hs, ?_⟩, n, found, if_neg nonempty⟩
    exact List.mem_zipIdx_iff_getElem?.2 (List.getElem?_eq_getElem hi)

/-- Some scene points at a name, and with its id the name makes the key of a node of another
scene. -/
def Mistakes (c : Course) (s : Scene) (n : String) : Prop :=
  ∃ other ∈ c.scenes, ∃ m, other.PointsAt m ∧
    (Shifted other.id m s.id n ∨ Shifted s.id n other.id m)

theorem not_mistakes_of_no_colon (plain : ∀ s ∈ c.scenes, ':' ∉ s.id.toList) (hs : s ∈ c.scenes) :
    ¬c.Mistakes s n := by
  rintro ⟨other, ho, m, -, further | nearer⟩
  · exact plain s hs further.colon
  · exact plain other ho nearer.colon

theorem nodeKey_mem_referencedKeys_iff (unique : c.sceneIds.Nodup) (hs : s ∈ c.scenes) :
    nodeKey s.id n ∈ c.referencedKeys ↔ s.PointsAt n ∨ c.Mistakes s n := by
  rw [mem_referencedKeys_iff]
  constructor
  · rintro ⟨other, ho, m, points, same⟩
    rcases nodeKey_eq_iff.1 same with ⟨ids, rfl⟩ | further | nearer
    · obtain rfl := List.inj_on_of_nodup_map unique hs ho ids
      exact Or.inl points
    · exact Or.inr ⟨other, ho, m, points, Or.inr further⟩
    · exact Or.inr ⟨other, ho, m, points, Or.inl nearer⟩
  · rintro (points | ⟨other, ho, m, points, further | nearer⟩)
    · exact ⟨s, hs, n, points, rfl⟩
    · exact ⟨other, ho, m, points, further.nodeKey_eq.symm⟩
    · exact ⟨other, ho, m, points, nearer.nodeKey_eq⟩

/-- A declared node is called unused exactly if its scene does not point at it and no scene is
mistaken for pointing at it, and where no scene has a colon in its id there are no mistakes. What a
scene names it points at or overlooks, so the nodes called unused are those that are not named, but
for nodes that their scene does not point at and for which there is a mistake or an oversight, and
not both. -/
theorem unusedNodes_iff (c : Course) (limit : Int) (unique : c.sceneIds.Nodup) (hs : s ∈ c.scenes)
    (declared : n ∈ s.nodeIds) :
    (nodeKey s.id n ∈ (c.dryRun limit).deadCode.unusedNodes ↔ ¬s.PointsAt n ∧ ¬c.Mistakes s n) ∧
      ((∀ other ∈ c.scenes, ':' ∉ other.id.toList) → ¬c.Mistakes s n) ∧
      (s.Names n ↔ s.PointsAt n ∨ s.Overlooks n) ∧
      ((nodeKey s.id n ∈ (c.dryRun limit).deadCode.unusedNodes ↔ ¬s.Names n) ↔
        s.PointsAt n ∨ (c.Mistakes s n ↔ s.Overlooks n)) := by
  have listed : nodeKey s.id n ∈ (c.dryRun limit).deadCode.unusedNodes ↔
      ¬s.PointsAt n ∧ ¬c.Mistakes s n := by
    have known : nodeKey s.id n ∈ c.declaredKeys :=
      List.mem_flatMap.2 ⟨s, hs, List.mem_map_of_mem declared⟩
    rw [← not_or, ← nodeKey_mem_referencedKeys_iff unique hs]
    simp [dryRun, deadCode, known]
  refine ⟨listed, fun plain => not_mistakes_of_no_colon plain hs, Scene.names_iff, ?_⟩
  rw [listed, Scene.names_iff]
  by_cases points : s.PointsAt n
  · simp [points]
  · simp [points, not_iff_not]

def northWing : Scene where
  id := "ward:north"
  vars := []
  nodes := [⟨"bed", "image", [], []⟩]
  triggers := []
  extras := []

def ward : Course where
  schema := "vvce.dsl.v1"
  about := ⟨"ward", "1.0.0", []⟩
  globals := ⟨[], []⟩
  start := "ward"
  scenes :=
    [⟨"ward", [], [],
    [⟨⟨"tap", some "north:bed", []⟩, none, [.gotoScene "ward:north" .null], none, []⟩], []⟩,
    northWing]
  extras := []

theorem unusedNodes_iff_ward :
    ward.sceneIds.Nodup ∧ "bed" ∈ northWing.nodeIds ∧ ward.Mistakes northWing "bed" ∧
      nodeKey northWing.id "bed" ∉ (ward.dryRun 10).deadCode.unusedNodes := by
  have unique : ward.sceneIds.Nodup := by decide
  have declared : "bed" ∈ northWing.nodeIds := by decide
  have here : northWing ∈ ward.scenes := List.mem_cons_of_mem _ List.mem_cons_self
  have mistaken : ward.Mistakes northWing "bed" := by
    refine ⟨_, List.mem_cons_self, "north:bed",
      ⟨by decide, _, List.mem_cons_self, Or.inl rfl⟩, Or.inl ?_⟩
    exact ⟨"north", by decide, by decide⟩
  obtain ⟨listed, -, -⟩ := unusedNodes_iff ward 10 unique here declared
  exact ⟨unique, declared, mistaken, fun unused => (listed.1 unused).2 mistaken⟩

/-- Nothing in the north wing names the bed, which is not called unused. -/
theorem bed_kept :
    ¬(nodeKey northWing.id "bed" ∈ (ward.dryRun 10).deadCode.unusedNodes ↔
      ¬northWing.Names "bed") := by
  have kept : nodeKey northWing.id "bed" ∉ (ward.dryRun 10).deadCode.unusedNodes := by
    decide +kernel
  have unnamed : ¬northWing.Names "bed" := by
    rintro ⟨t, ht, -⟩
    exact absurd ht List.not_mem_nil
  exact fun exactly => kept (exactly.2 unnamed)

end Course

end SceneCourse
