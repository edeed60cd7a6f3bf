import SceneCourse.Fault
import SceneCourse.Json.Printer

/-!
JSON texts of values that may have none. A container that holds itself has no JSON text, an integer
with too many digits has none, and a mapping with a moment or bytes as a key has none. `Json.fault?`
finds the first such part, and `Json.text` is the text of a value without any.
-/

namespace SceneCourse

/-- The least natural number with more digits than are written. -/
def leastLong : Nat := Nat.pow 10 Numeral.mostDigits

theorem leastLong_pos : 0 < leastLong := by
  unfold leastLong
  generalize Numeral.mostDigits = n
  exact Nat.pow_pos (by decide)

/-- Whether a key is an integer with more digits than are written. -/
def Key.isLong : Key → Bool
  | .int n => leastLong ≤ n.natAbs
  | _ => false

mutual

/-- Whether some integer in a value has more digits than are written. -/
def Value.holdsLong : Value → Bool
  | .int n => leastLong ≤ n.natAbs
  | .set ks => ks.any Key.isLong
  | .pair a b => Value.holdsLong a || Value.holdsLong b
  | .list _ xs => Value.anyHoldsLong xs
  | .map _ es => Value.anyEntryHoldsLong es
  | _ => false

def Value.anyHoldsLong : List Value → Bool
  | [] => false
  | x :: xs => Value.holdsLong x || Value.anyHoldsLong xs

def Value.anyEntryHoldsLong : List (Key × Value) → Bool
  | [] => false
  | (k, v) :: es => k.isLong || Value.holdsLong v || Value.anyEntryHoldsLong es

end

/-- A value as it stands in a message, which has no place for an integer that is too long. -/
def Value.told (v : Value) : Except Fault String :=
  if v.holdsLong then .error (.badValue .longInteger) else .ok v.shown

namespace Json

/-- Why a key cannot be written. -/
def keyFault? : Key → Option Fault
  | .int n => if n.natAbs < leastLong then none else some (.badValue .longInteger)
  | .moment t => some (.wrongKind "being a JSON key" t.kindName)
  | .bytes _ => some (.wrongKind "being a JSON key" "bytes")
  | _ => none

mutual

/-- The first reason against writing a value. -/
def fault? : Value → Option Fault
  | .int n => if n.natAbs < leastLong then none else some (.badValue .longInteger)
  | .pair a b => (fault? a).or (fault? b)
  | .list _ xs => itemsFault? xs
  | .map _ es => entriesFault? es
  | .again _ _ => some (.badValue (.circular false))
  | _ => none

def itemsFault? : List Value → Option Fault
  | [] => none
  | x :: xs => (fault? x).or (itemsFault? xs)

def entriesFault? : List (Key × Value) → Option Fault
  | [] => none
  | (k, v) :: es => ((keyFault? k).or (fault? v)).or (entriesFault? es)

end

/-- The JSON text of a value. -/
def text (style : JsonStyle) (v : Value) : Except Fault String :=
  match fault? v with
  | some e => .error e
  | none => .ok (print style v)

end Json

end SceneCourse
