import SceneCourse.Course.Condition
import SceneCourse.Number.Numeral
import SceneCourse.State.Reference
import SceneCourse.Value.Equality

/-!
Whether conditions hold in a state. Equality is strict about kinds; the order comparisons read both
operands as numbers and fail, with a note, when one is none. Conditions nested too deeply,
conditions that cannot be read and operators of no meaning count as false, each with a note.
-/

namespace SceneCourse

open Text

/-- A value as a number: nothing is not a number, a blank text is zero, other texts are read as
numerals. -/
def Value.toNumber : Value → Except Fault Binary64
  | .bool b => .ok (if b then .ofQuotient false 1 1 else .zero)
  | .int n => (Binary64.ofInt? n).elim (.error .tooLarge) .ok
  | .float x => .ok x
  | .str s =>
    let cs := stripList s.toList
    .ok (if cs.isEmpty then .zero else (Numeral.read? cs).getD (.nan 0))
  | _ => .ok (.nan 0)

/-- How two numbers compare; used for the four order comparisons. -/
def CompareOp.orders (op : CompareOp) (x y : Binary64) : Bool :=
  match op with
  | .gt => y.lt x
  | .gte => y.le x
  | .lt => x.lt y
  | _ => x.le y

namespace Store

/-- Whether two operands compare as an operator says. -/
def compare (op : CompareOp) (left right : Value) : Noted Bool :=
  match op with
  | .equals => return left.strictlySame right
  | .notEquals => return !left.strictlySame right
  | op => do
    let x ← Noted.ofExcept left.toNumber
    let y ← Noted.ofExcept right.toNumber
    if x.isNaN || y.isNaN then
      Noted.note .condition s!"Comparison operands must be numbers ({op.name})"
        (.object [("left", left), ("right", right)])
      return false
    else return op.orders x y

/-- The note about conditions nested beyond a limit. -/
def depthNote (limit : Value) : Noted Unit := do
  let levels ← Noted.ofExcept limit.told
  Noted.note .condition s!"Condition nesting exceeds {levels} levels; treated as false"

/-- A condition beyond the limit counts as false, with a note. -/
def withinDepth (limit : Value) (depth : Nat) (answer : Noted Bool) : Noted Bool := do
  if ← Noted.ofExcept (beyond limit depth) then
    depthNote limit
    return false
  else answer

mutual

/-- Whether a condition holds that lies at some depth. -/
def holds (s : Store) (limit : Value) (depth : Nat) : Condition → Noted Bool
  | .comparison op left right => withinDepth limit depth do
    let left ← s.resolve left
    let right ← s.resolve right
    compare op left right
  | .logical .and cs => withinDepth limit depth (s.allHold limit (depth + 1) cs)
  | .logical .or cs => withinDepth limit depth (s.anyHolds limit (depth + 1) cs)
  | .logical .not [] => withinDepth limit depth (return false)
  | .logical .not (c :: _) => withinDepth limit depth do return !(← s.holds limit (depth + 1) c)
  | .unknown op extras => withinDepth limit depth do
    Noted.note .condition s!"Unknown condition operator: {op}" (Condition.unknown op extras).dump
    return false

/-- Whether all conditions hold; none is looked at after the first that does not. -/
def allHold (s : Store) (limit : Value) (depth : Nat) : List Condition → Noted Bool
  | [] => return true
  | c :: cs => do if ← s.holds limit depth c then s.allHold limit depth cs else return false

/-- Whether some condition holds; none is looked at after the first that does. -/
def anyHolds (s : Store) (limit : Value) (depth : Nat) : List Condition → Noted Bool
  | [] => return false
  | c :: cs => do if ← s.holds limit depth c then return true else s.anyHolds limit depth cs

end

/-- Whether the condition that a value writes holds. -/
def holdsValue (s : Store) (limit : Value) (v : Value) : Noted Bool := withinDepth limit 0 (
  match Condition.ofValue v with
  | .ok c => s.holds limit 0 c
  | .error e =>
    if e.isRefusal then do
      Noted.note .condition s!"Malformed condition treated as false: {e.message}"
      return false
    else Noted.fail e)

/-- Whether the conditions that values write hold, each read only when it is reached. -/
def allHoldValues (s : Store) (limit : Value) : List Value → Noted Bool
  | [] => return true
  | v :: vs => do if ← s.holdsValue limit v then s.allHoldValues limit vs else return false

end Store

end SceneCourse
