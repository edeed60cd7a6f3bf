import SceneCourse.DryRun.Analysis
import SceneCourse.Proofs.Steps
import SceneCourse.Session.Execution

/-! The leaves of a list of actions: the actions in it and inside it that are no composites, in
document order. Proved: a run of the list visits the actions in the order in which they are listed
without a run, and what is listed and counted of a course without a run is listed and counted of the
leaves, but for the tags of the composites. -/

namespace SceneCourse

namespace Action

/-- The actions that are no composites, in document order, composites opened. -/
def leaves (as : List Action) : List Action := (preorderAll as).filter (!·.isComposite)

theorem isComposite_of_mem_leaves {as : List Action} {a : Action} (leaf : a ∈ leaves as) :
    a.isComposite = false := by
  simpa using (List.mem_filter.mp leaf).2

theorem preorderAll_of_plain {as : List Action} (plain : ∀ a ∈ as, a.isComposite = false) :
    preorderAll as = as := by
  induction as with
  | nil => rfl
  | cons a as ih =>
    have first : preorder a = [a] := by
      have := plain a (by simp)
      cases a with
      | sequence _ => simp [isComposite] at this
      | parallel _ => simp [isComposite] at this
      | _ => rfl
    rw [preorderAll, first, ih fun b mem => plain b (by simp [mem])]
    rfl

/-- What composites have no part in is the same of the leaves. -/
theorem filterMap_leaves {β : Type} {f : Action → Option β}
    (unmoved : ∀ a : Action, a.isComposite = true → f a = none) (as : List Action) :
    (leaves as).filterMap f = (preorderAll as).filterMap f := by
  rw [leaves, List.filterMap_filter]
  refine congrArg (List.filterMap · _) (funext fun a => ?_)
  cases composite : a.isComposite with
  | true => simp [unmoved a composite]
  | false => simp

def plainTag (tag : String) : Bool := tag != "sequence" && tag != "parallel"

theorem filter_tags_leaves (as : List Action) :
    ((leaves as).map (·.tag)).filter plainTag = ((preorderAll as).map (·.tag)).filter plainTag := by
  rw [leaves, List.filter_map, List.filter_map, List.filter_filter]
  refine congrArg (List.map _) (List.filter_congr fun a _ => ?_)
  cases a with
  | sequence _ => rfl
  | parallel _ => rfl
  | _ => simp [isComposite]

theorem destinations_eq_leaves (as : List Action) :
    destinations as = firstMentions ((leaves as).filterMap destination?) := by
  rw [destinations, filterMap_leaves]
  intro a composite
  cases a <;> first | rfl | simp [isComposite] at composite

end Action

/-! ### What is counted without a run -/

section

variable {α : Type} [BEq α] [LawfulBEq α]

theorem firstMentions_filter (p : α → Bool) (xs : List α) :
    firstMentions (xs.filter p) = (firstMentions xs).filter p := by
  suffices h : ∀ seen : List α, (xs.filter p).foldl
    (fun seen x => if seen.contains x then seen else seen ++ [x])
      (seen.filter p) = (xs.foldl (fun seen x => if seen.contains x then seen else seen ++ [x])
        seen).filter p from h []
  induction xs with
  | nil => exact fun _ => rfl
  | cons x xs ih =>
    intro seen
    rw [List.foldl_cons, ← ih]
    cases kept : p x with
    | true =>
      rw [List.filter_cons_of_pos kept, List.foldl_cons]
      refine congrArg (fun s => List.foldl _ s _) ?_
      by_cases known : x ∈ seen <;> simp [known, kept]
    | false =>
      rw [List.filter_cons_of_neg (by simp [kept])]
      refine congrArg (fun s => List.foldl _ s _) ?_
      split <;> simp [kept]

theorem tally_filter (p : α → Bool) (xs : List α) :
    tally (xs.filter p) = (tally xs).filter fun (x, _) => p x := by
  rw [tally, tally, firstMentions_filter, List.filter_map]
  refine List.map_congr_left fun x kept => ?_
  rw [List.count_filter (List.mem_filter.mp kept).2]

end

namespace Course

open SceneCourse.Action (leaves plainTag)

variable (c : Course)

theorem mutations_eq_leaves :
    c.mutations = c.placedTriggers.flatMap fun (s, i, t) => (leaves t.actions).filterMap fun a =>
    a.writtenPath?.map fun path => ⟨path, a.tag, s.id, i⟩ := by
  refine congrArg (List.flatMap · _)
    (funext fun (s, i, t) => (Action.filterMap_leaves (fun a composite => ?_) _).symm)
  cases a <;> first | rfl | simp [Action.isComposite] at composite

theorem referencedKeys_eq_leaves : c.referencedKeys = c.placedTriggers.flatMap fun (s, _, t) =>
    (t.on.target.toList ++ (leaves t.actions).filterMap (·.nodeTarget?)).filterMap fun target =>
      if target = "" then none else some (nodeKey s.id target) := by
  refine congrArg (List.flatMap · _) (funext fun (s, i, t) => ?_)
  dsimp only
  rw [Action.filterMap_leaves]
  intro a composite
  cases a <;> first | rfl | simp [Action.isComposite] at composite

theorem tags_eq_leaves :
    c.tags.filter plainTag =
      (c.placedTriggers.flatMap fun (_, _, t) => (leaves t.actions).map (·.tag)).filter
      plainTag := by
  rw [tags, List.filter_flatMap, List.filter_flatMap]
  exact congrArg (List.flatMap · _)
    (funext fun (_, _, t) => (Action.filter_tags_leaves t.actions).symm)

theorem triggerSummaries_eq_leaves : c.triggerSummaries.map (fun r => r.tags.filter plainTag) =
    c.placedTriggers.map fun (_, _, t) => firstMentions
      (((leaves t.actions).map (·.tag)).filter plainTag) := by
  rw [triggerSummaries, List.map_map]
  refine List.map_congr_left fun (_, _, t) _ => ?_
  dsimp only [Function.comp_apply]
  rw [Action.filter_tags_leaves, firstMentions_filter]

end Course

namespace Session

open SceneCourse.Action (leaves preorder preorderAll)

variable {η α β : Type}

/-! ### A run over the preorder -/

/-- What a run does at an action before anything inside it is run: a composite is announced, a leaf
is run. -/
def visit (cb : Callbacks η) (a : Action) : Step (Session η) Unit :=
  if a.isComposite then announce a.tag else execute cb a

mutual

theorem execute_eq_visits (cb : Callbacks η) (a : Action) :
    execute cb a = Step.each (visit cb) (preorder a) := by
  have alone (plain : a.isComposite = false) : execute cb a = Step.each (visit cb) [a] := by
    funext s
    rw [Step.each, visit, plain, if_neg (by simp), Step.bind]
    obtain ⟨_ | _ | _, t⟩ := execute cb a s <;> rfl
  cases a with
  | sequence as =>
    rw [preorder, Step.each, ← executeAll_eq_visits cb as]
    rfl
  | parallel as =>
    rw [preorder, Step.each, ← executeAll_eq_visits cb as]
    rfl
  | _ => exact alone rfl

/-- Running actions is visiting them and everything inside them, in document order. -/
theorem executeAll_eq_visits (cb : Callbacks η) (as : List Action) :
    executeAll cb as = Step.each (visit cb) (preorderAll as) := by
  cases as with
  | nil => rfl
  | cons a as =>
    rw [executeAll, preorderAll, Step.each_append, execute_eq_visits cb a,
      executeAll_eq_visits cb as]

end

theorem executeAll_leaves (cb : Callbacks η) (as : List Action) :
    executeAll cb (leaves as) = Step.each (visit cb) (leaves as) := by
  rw [executeAll_eq_visits, Action.preorderAll_of_plain fun a leaf =>
    Action.isComposite_of_mem_leaves leaf]

end Session

end SceneCourse
