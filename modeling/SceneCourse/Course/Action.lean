import SceneCourse.Course.Checked
import SceneCourse.Json.Text

/-!
Actions of triggers. `sequence` and `parallel` hold further actions; an action with a tag of no
meaning is kept with all its parameters. `Action.ofValue` reads one, `Action.dump` writes it back
with every field filled in, and `Action.preorder` lists an action and all actions inside it. An
action that is a part of itself is nested too deeply.
-/

namespace SceneCourse

inductive Action where
  | gotoScene (sceneId : String) (transition : Value)
  | setVar (path : String) (value : Value)
  | incVar (path : String) (amount : Amount)
  | addScore (value : Amount)
  | toast (text : String) (extras : List (String × Value))
  | modal (text : String) (extras : List (String × Value))
  | resetNode (nodeId : String)
  | delay (duration : Amount)
  | sequence (actions : List Action)
  | parallel (actions : List Action)
  | unknown (tag : String) (params : List (String × Value))
  deriving Repr, Inhabited

/-- The variable that `addScore` adds to. -/
def scorePath : String := "globals.vars.score"

namespace Action

/-- The name of an action's variant. -/
def variant : Action → String
  | gotoScene .. => "GotoSceneAction"
  | setVar .. => "SetVarAction"
  | incVar .. => "IncVarAction"
  | addScore .. => "AddScoreAction"
  | toast .. => "ToastAction"
  | modal .. => "ModalAction"
  | resetNode .. => "ResetNodeAction"
  | delay .. => "DelayAction"
  | sequence .. => "SequenceAction"
  | parallel .. => "ParallelAction"
  | unknown .. => "UnknownAction"

def tag : Action → String
  | gotoScene .. => "gotoScene"
  | setVar .. => "setVar"
  | incVar .. => "incVar"
  | addScore .. => "addScore"
  | toast .. => "toast"
  | modal .. => "modal"
  | resetNode .. => "resetNode"
  | delay .. => "delay"
  | sequence .. => "sequence"
  | parallel .. => "parallel"
  | unknown tag _ => tag

/-! ### Reading -/

/-- An action with a tag of no meaning keeps all other entries. -/
def readUnknown (tag : String) (es : List (Key × Value)) : Except Fault Action :=
  ((readExtras (Entries.set (.str "action") (.str tag) es) [["action"]]).map (unknown tag)).toExcept
    "UnknownAction"

def sceneIdNames : List String := ["sceneId", "scene_id"]

def nodeIdNames : List String := ["nodeId", "node_id"]

def readPresented (make : String → List (String × Value) → Action) (es : List (Key × Value)) :
    Checked Action :=
  make <$> requiredField es ["text"] Value.readText <*> readExtras es [["action"], ["text"]]

/-- Actions are no keys, so a set of keys holds none. -/
def refuseKeys (ks : List Key) : Checked (List Action) :=
  Value.readItems (fun v => .ofExcept (.error (.badValue (.action v)))) 0 (ks.map Key.value)

/-- The action that the entries of a mapping write, with the actions under its entry `actions`. -/
def ofEntries (es : List (Key × Value)) (children : Checked (List Action)) : Except Fault Action :=
  match (Entries.get? (.str "action") es).getD .null with
  | .str "gotoScene" =>
    (gotoScene <$> requiredField es sceneIdNames Value.readText
      <*> optionalField es ["transition"] .null .ok).toExcept "GotoSceneAction"
  | .str "setVar" =>
    (setVar <$> requiredField es ["path"] Value.readText <*>
      optionalField es ["value"] .null .ok).toExcept
      "SetVarAction"
  | .str "incVar" =>
    (incVar <$> requiredField es ["path"] Value.readText
      <*> optionalField es ["by"] (.int 1) Value.readAmount).toExcept "IncVarAction"
  | .str "addScore" =>
    (addScore <$> requiredField es ["value"] Value.readAmount).toExcept "AddScoreAction"
  | .str "toast" => (readPresented toast es).toExcept "ToastAction"
  | .str "modal" => (readPresented modal es).toExcept "ModalAction"
  | .str "resetNode" =>
    (resetNode <$> requiredField es nodeIdNames Value.readText).toExcept "ResetNodeAction"
  | .str "delay" =>
    (delay <$> optionalField es ["duration"] (.int 0) Value.readAmount).toExcept "DelayAction"
  | .str "sequence" => (children.map sequence).toExcept "SequenceAction"
  | .str "parallel" => (children.map parallel).toExcept "ParallelAction"
  | v => do readUnknown (← v.told) es

mutual

/-- The action that a part of the containers `around` writes. -/
def ofPart (around : List Value) : Value → Except Fault Action
  | .map m es =>
    let around := Value.inside around (.map m es)
    ofEntries (es.map fun (k, v) => (k, Value.partOf around v)) (readChildren around es)
  | .again _ true => .error .tooDeep
  | v => .error (.badValue (.action v))

/-- The actions under the entry `actions`, none if there is no such entry. -/
def readChildren (around : List Value) : List (Key × Value) → Checked (List Action)
  | [] => .ok []
  | (k, v) :: es =>
    if k.same (.str "actions") then (readNested around v).inside (.field "actions")
      else readChildren around es

def readNested (around : List Value) : Value → Checked (List Action)
  | .list m vs => readEach (Value.inside around (.list m vs)) 0 vs
  | .set ks => refuseKeys ks
  | .again _ false => .stopped .tooDeep
  | _ => .complain .notList

def readEach (around : List Value) : Nat → List Value → Checked (List Action)
  | _, [] => .ok []
  | i, v :: vs =>
    (· :: ·) <$> (Checked.ofExcept (ofPart around v)).inside (.item i) <*>
      readEach around (i + 1) vs

end

/-- The action that a mapping writes. A tag that is no text counts as the text that shows it. -/
def ofValue (v : Value) : Except Fault Action := ofPart [] v

/-- An action as a part of a larger record. -/
def read (v : Value) : Checked Action := .ofExcept (ofValue v)

/-! ### Writing -/

mutual

/-- The fields of an action after its tag. -/
def fields : Action → List (String × Value)
  | gotoScene sceneId transition => [("sceneId", .str sceneId), ("transition", transition)]
  | setVar path value => [("path", .str path), ("value", value)]
  | incVar path amount => [("path", .str path), ("by", amount.value)]
  | addScore value => [("value", value.value)]
  | toast text extras => ("text", .str text) :: extras
  | modal text extras => ("text", .str text) :: extras
  | resetNode nodeId => [("nodeId", .str nodeId)]
  | delay duration => [("duration", duration.value)]
  | sequence actions => [("actions", .ofList (dumpAll actions))]
  | parallel actions => [("actions", .ofList (dumpAll actions))]
  | unknown _ params => params

def dumpAll : List Action → List Value
  | [] => []
  | a :: as => .object (("action", .str a.tag) :: fields a) :: dumpAll as

end

def dump (a : Action) : Value := .object (("action", .str a.tag) :: a.fields)

theorem dumpAll_eq_map (as : List Action) : dumpAll as = as.map dump := by
  induction as with
  | nil => rfl
  | cons a as ih => simp [dumpAll, dump, ih]

mutual

/-- The same action with other values in it. -/
def mapValues (f : Value → Value) : Action → Action
  | gotoScene sceneId transition => gotoScene sceneId (f transition)
  | setVar path value => setVar path (f value)
  | toast text extras => toast text (mapFields f extras)
  | modal text extras => modal text (mapFields f extras)
  | sequence actions => sequence (mapAllValues f actions)
  | parallel actions => parallel (mapAllValues f actions)
  | unknown tag params => unknown tag (mapFields f params)
  | a => a

def mapAllValues (f : Value → Value) : List Action → List Action
  | [] => []
  | a :: as => mapValues f a :: mapAllValues f as

end

/-! ### What is inside an action -/

mutual

/-- The action itself, then everything inside it, in document order. -/
def preorder : Action → List Action
  | sequence actions => sequence actions :: preorderAll actions
  | parallel actions => parallel actions :: preorderAll actions
  | a => [a]

def preorderAll : List Action → List Action
  | [] => []
  | a :: as => preorder a ++ preorderAll as

end

theorem preorderAll_append (as bs : List Action) :
    preorderAll (as ++ bs) = preorderAll as ++ preorderAll bs := by
  induction as with
  | nil => rfl
  | cons a as ih => simp [preorderAll, ih]

/-- An action that holds further actions. -/
def isComposite : Action → Bool
  | sequence _ | parallel _ => true
  | _ => false

/-- The scene that an action goes to. -/
def destination? : Action → Option String
  | gotoScene sceneId _ => some sceneId
  | _ => none

/-- The node that an action points at: the node that `resetNode` resets, or the `target` of an
action of no meaning, or else its `nodeId`. -/
def nodeTarget? : Action → Option String
  | resetNode nodeId => some nodeId
  | unknown _ params =>
    match (params.lookup "target").or (params.lookup "nodeId") with
    | some (.str s) => some s
    | _ => none
  | _ => none

mutual

/-- Whether an action does more than wait. -/
def isSignificant : Action → Bool
  | delay _ => false
  | sequence actions => anySignificant actions
  | parallel actions => anySignificant actions
  | _ => true

def anySignificant : List Action → Bool
  | [] => false
  | a :: as => isSignificant a || anySignificant as

end

end Action

/-- The elements of a list without repetition, each at the place of its first mention. -/
def firstMentions {α : Type} [BEq α] (xs : List α) : List α :=
  xs.foldl (fun seen x => if seen.contains x then seen else seen ++ [x]) []

section FirstMentions

variable {α : Type} [BEq α] [LawfulBEq α]

theorem mem_mention {seen : List α} {x y : α} :
    y ∈ (if seen.contains x then seen else seen ++ [x]) ↔ y ∈ seen ∨ y = x := by
  by_cases h : seen.contains x
  · rw [if_pos h]
    constructor
    · exact Or.inl
    · rintro (hy | rfl)
      · exact hy
      · exact List.contains_iff_mem.1 h
  · rw [if_neg h, List.mem_append, List.mem_singleton]

theorem nodup_mention {seen : List α} (x : α) (h : seen.Nodup) :
    (if seen.contains x then seen else seen ++ [x]).Nodup := by
  split
  next => exact h
  next new =>
    rw [List.nodup_append]
    refine ⟨h, by simp, ?_⟩
    intro a ha b hb hab
    rw [List.mem_singleton] at hb
    subst hb hab
    exact new (List.contains_iff_mem.2 ha)

theorem mem_foldl_mention {seen xs : List α} {y : α} :
    y ∈ xs.foldl (fun seen x => if seen.contains x then seen else seen ++ [x]) seen ↔
      y ∈ seen ∨ y ∈ xs := by
  induction xs generalizing seen with
  | nil => simp
  | cons x xs ih => rw [List.foldl_cons, ih, mem_mention, List.mem_cons, or_assoc]

theorem mem_firstMentions {xs : List α} {y : α} : y ∈ firstMentions xs ↔ y ∈ xs := by
  rw [firstMentions, mem_foldl_mention]
  simp

theorem nodup_firstMentions (xs : List α) : (firstMentions xs).Nodup := by
  have grow : ∀ (xs seen : List α), seen.Nodup →
      (xs.foldl (fun seen x => if seen.contains x then seen else seen ++ [x]) seen).Nodup := by
    intro xs
    induction xs with
    | nil => exact fun _ h => h
    | cons x xs ih => exact fun seen h => ih _ (nodup_mention x h)
  exact grow xs [] List.nodup_nil

end FirstMentions

/-- The scenes that a list of actions goes to, composites included, first mention first. -/
def Action.destinations (actions : List Action) : List String :=
  firstMentions ((preorderAll actions).filterMap destination?)

end SceneCourse
