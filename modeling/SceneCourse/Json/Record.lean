import SceneCourse.Fault
import SceneCourse.Json.Printer
import SceneCourse.Value.Shared

/-!
The form that values have in exported records, where only what JSON knows is left: every key is a
text, and keys with one text are one key; numbers that are not finite are null; moments and bytes
are texts; sets and pairs are lists. A container that holds itself has no such form, and neither
have bytes that are not UTF-8 or a value of too many levels.
-/

namespace SceneCourse

def bytesText (bs : List UInt8) : Except Fault String :=
  match String.fromUTF8? ⟨bs.toArray⟩ with
  | some s => .ok s
  | none => .error .badBytes

/-- The text that a key has in a record. -/
def Key.recordText : Key → Except Fault String
  | .null => .ok "None"
  | .bool b => .ok (if b then "true" else "false")
  | .int n => .ok (toString n)
  | .float x => .ok (if x.toRat?.isSome then x.text else "None")
  | .str s => .ok s
  | .moment t => .ok (t.text "T")
  | .bytes bs => bytesText bs

/-- The part of a set, as it stands in a record. -/
def Key.recorded : Key → Except Fault Value
  | .float x => .ok (if x.toRat?.isSome then .float x else .null)
  | .moment t => .ok (.str (t.text "T"))
  | .bytes bs => (bytesText bs).map .str
  | k => .ok k.value

namespace Value

mutual

/-- The value in a record, where `room` says how many levels it may have. -/
def recorded (room : Nat) : Value → Except Fault Value
  | .again _ _ => .error (.badValue (.circular true))
  | v =>
    match room, v with
    | 0, _ => .error (.badValue .tooManyLevels)
    | _, .float x => .ok (if x.toRat?.isSome then .float x else .null)
    | _, .moment t => .ok (.str (t.text "T"))
    | _, .bytes bs => (bytesText bs).map .str
    | room + 1, .set ks =>
      if room = 0 ∧ ks ≠ [] then .error (.badValue .tooManyLevels)
        else (ks.mapM Key.recorded).map .ofList
    | room + 1, .pair a b => do return .ofList [← recorded room a, ← recorded room b]
    | room + 1, .list _ xs => do return .ofList (← recordedItems room xs)
    | room + 1, .map _ es => do return .ofEntries (← recordedEntries room [] es)
    | _, v => .ok v

def recordedItems (room : Nat) : List Value → Except Fault (List Value)
  | [] => .ok []
  | x :: xs => do return (← recorded room x) :: (← recordedItems room xs)

/-- The entries so far, with further ones written to them. -/
def recordedEntries (room : Nat) (done : Entries Value) :
    List (Key × Value) → Except Fault (Entries Value)
  | [] => .ok done
  | (k, v) :: es => do
    let name ← k.recordText
    let w ← recorded room v
    recordedEntries room (done.set (.str name) w) es

end

example : recorded 2 (.ofList [.ofList []]) = .ok (.ofList [.ofList []]) := rfl
example : recorded 2 (.ofList [.ofList [.int 1]]) = .error (.badValue .tooManyLevels) := rfl

/-- The levels that the fields of a record may have. -/
def mostLevels : Nat := 255

/-- The record of a value with fields; the level that the fields themselves are on does not
count. -/
def record (v : Value) : Except Fault Value := v.recorded (mostLevels + 1)

/-- The value, if it can be taken apart completely. -/
def finite (v : Value) : Except Fault Value := if v.isCyclic then .error .tooDeep else .ok v

end Value

end SceneCourse
