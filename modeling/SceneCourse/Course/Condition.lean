import SceneCourse.Course.Checked
import SceneCourse.Json.Text

/-!
Conditions of triggers: comparisons of two operands, combinations with `and`, `or` and `not`, and
conditions with an operator that has no meaning, which are kept as they are. `Condition.ofValue`
reads one, `Condition.dump` writes it back with every field filled in. A condition that is a part of
itself is nested too deeply.
-/

namespace SceneCourse

inductive CompareOp where
  | equals | notEquals | gt | gte | lt | lte
  deriving DecidableEq, Repr

inductive LogicOp where
  | and | or | not
  deriving DecidableEq, Repr

def CompareOp.name : CompareOp → String
  | .equals => "equals"
  | .notEquals => "notEquals"
  | .gt => "gt"
  | .gte => "gte"
  | .lt => "lt"
  | .lte => "lte"

def CompareOp.ofName? : String → Option CompareOp
  | "equals" => some .equals
  | "notEquals" => some .notEquals
  | "gt" => some .gt
  | "gte" => some .gte
  | "lt" => some .lt
  | "lte" => some .lte
  | _ => none

def LogicOp.name : LogicOp → String
  | .and => "and"
  | .or => "or"
  | .not => "not"

def LogicOp.ofName? : String → Option LogicOp
  | "and" => some .and
  | "or" => some .or
  | "not" => some .not
  | _ => none

theorem CompareOp.ofName?_name (op : CompareOp) : ofName? op.name = some op := by cases op <;> rfl

theorem LogicOp.ofName?_name (op : LogicOp) : ofName? op.name = some op := by cases op <;> rfl

inductive Condition where
  | comparison (op : CompareOp) (left right : Value)
  | logical (op : LogicOp) (conditions : List Condition)
  | unknown (op : String) (extras : List (String × Value))
  deriving Repr, Inhabited

namespace Condition

/-- The name of a condition's variant. -/
def variant : Condition → String
  | comparison .. => "Comparison"
  | logical .. => "Logical"
  | unknown .. => "UnknownCondition"

/-- A condition with an operator of no meaning keeps all other entries. -/
def readUnknown (op : String) (es : List (Key × Value)) : Except Fault Condition :=
  ((readExtras (Entries.set (.str "op") (.str op) es) [["op"]]).map (unknown op)).toExcept
    "UnknownCondition"

/-- Conditions are no keys, so a set of keys holds none. -/
def refuseKeys (ks : List Key) : Checked (List Condition) :=
  Value.readItems (fun v => .ofExcept (.error (.badValue (.condition v)))) 0 (ks.map Key.value)

mutual

/-- The condition that a part of the containers `around` writes. -/
def ofPart (around : List Value) : Value → Except Fault Condition
  | .map m es =>
    let around := Value.inside around (.map m es)
    let field (name : String) : Value :=
      Value.partOf around ((Entries.get? (.str name) es).getD .null)
    let whole (op : String) := readUnknown op (es.map fun (k, v) => (k, Value.partOf around v))
    match field "op" with
    | .list .. | .again _ false => .error (.wrongKind "looking up an operator" "list")
    | .map .. | .again _ true => .error (.wrongKind "looking up an operator" "dict")
    | .str s =>
      match CompareOp.ofName? s, LogicOp.ofName? s with
      | some op, _ => .ok (comparison op (field "left") (field "right"))
      | none, some op => ((readChildren around es).map (logical op)).toExcept "Logical"
      | none, none => whole s
    | v => do whole (← v.told)
  | .again _ true => .error .tooDeep
  | v => .error (.badValue (.condition v))

/-- The conditions under the entry `conditions`, none if there is no such entry. -/
def readChildren (around : List Value) : List (Key × Value) → Checked (List Condition)
  | [] => .ok []
  | (k, v) :: es =>
    if k.same (.str "conditions") then (readNested around v).inside (.field "conditions")
      else readChildren around es

def readNested (around : List Value) : Value → Checked (List Condition)
  | .list m vs => readEach (Value.inside around (.list m vs)) 0 vs
  | .set ks => refuseKeys ks
  | .again _ false => .stopped .tooDeep
  | _ => .complain .notList

def readEach (around : List Value) : Nat → List Value → Checked (List Condition)
  | _, [] => .ok []
  | i, v :: vs =>
    (· :: ·) <$> (Checked.ofExcept (ofPart around v)).inside (.item i) <*>
      readEach around (i + 1) vs

end

/-- The condition that a mapping writes. An operator that is no text counts as the text that shows
it. -/
def ofValue (v : Value) : Except Fault Condition := ofPart [] v

/-- A condition as a part of a larger record. -/
def read (v : Value) : Checked Condition := .ofExcept (ofValue v)

mutual

def dump : Condition → Value
  | comparison op left right => .object [("op", .str op.name), ("left", left), ("right", right)]
  | logical op conditions =>
    .object [("op", .str op.name), ("conditions", .ofList (dumpAll conditions))]
  | unknown op extras => .object (("op", .str op) :: extras)

def dumpAll : List Condition → List Value
  | [] => []
  | c :: cs => dump c :: dumpAll cs

end

mutual

/-- The same condition with other values in it. -/
def mapValues (f : Value → Value) : Condition → Condition
  | comparison op left right => comparison op (f left) (f right)
  | logical op conditions => logical op (mapAllValues f conditions)
  | unknown op extras => unknown op (mapFields f extras)

def mapAllValues (f : Value → Value) : List Condition → List Condition
  | [] => []
  | c :: cs => mapValues f c :: mapAllValues f cs

end

theorem dumpAll_eq_map (cs : List Condition) : dumpAll cs = cs.map dump := by
  induction cs with
  | nil => rfl
  | cons c cs ih => simp [dumpAll, ih]

end Condition

end SceneCourse
