import SceneCourse.Json.Text
import SceneCourse.State.Noted
import SceneCourse.State.Store
import SceneCourse.Text.Blank

/-!
References to the state. A mapping with a key `ref` stands for the value at a path; a text may hold
placeholders, two braces around a path, which are replaced by the text of the value there. `pieces`
cuts a text at its placeholders, and what is put in their place is never cut again.
-/

namespace SceneCourse

open Text

/-- The text of a value inside another text. -/
def Value.inText : Value → Except Fault String
  | .bool b => .ok (if b then "true" else "false")
  | .float x =>
    match x.toInt? with
    | some n => .ok (toString n)
    | none => .ok x.text
  | .list m xs => Json.text (.line false) (.list m xs)
  | .map m es => Json.text (.line false) (.map m es)
  | v => v.told

def Value.isReference : Value → Bool
  | .map _ es => Entries.contains (.str "ref") es
  | _ => false

/-! ### Placeholders -/

inductive Piece where
  | char (c : Char)
  /-- A placeholder with what stands between its braces. -/
  | slot (inner : List Char)
  deriving DecidableEq, Repr

/-- What stands between the braces of the placeholder at the head of a text. -/
def placeholder? : List Char → Option (List Char)
  | '\x7b' :: '\x7b' :: cs =>
    let inner := cs.takeWhile (· != '\x7d')
    match cs.dropWhile (· != '\x7d') with
    | '\x7d' :: '\x7d' :: _ => if inner.isEmpty then none else some inner
    | _ => none
  | _ => none

/-- The pieces of a text after `skip` characters of it, leftmost placeholders first. -/
def pieces : (skip : Nat) → List Char → List Piece
  | _, [] => []
  | n + 1, _ :: cs => pieces n cs
  | 0, c :: cs =>
    match placeholder? (c :: cs) with
    | some inner => .slot inner :: pieces (inner.length + 3) cs
    | none => .char c :: pieces 0 cs

/-- The characters that a piece was cut from. -/
def Piece.chars : Piece → List Char
  | .char c => [c]
  | .slot inner => ['\x7b', '\x7b'] ++ inner ++ ['\x7d', '\x7d']

namespace Store

/-- What a piece becomes: a placeholder stays as it is when there is nothing at its path. -/
def fillPiece (s : Store) : Piece → Except Fault (List Char)
  | .char c => .ok [c]
  | .slot inner => do
    match ← s.get (.ofList (stripList inner)) with
    | .null => return (Piece.slot inner).chars
    | v => return (← v.inText).toList

/-- A text with its placeholders filled. -/
def interpolate (s : Store) (text : String) : Except Fault String := do
  return .ofList (← (pieces 0 text.toList).mapM s.fillPiece).flatten

/-- The value that a reference stands for; any other value stands for itself. A path that is no text
stands for nothing. -/
def resolve (s : Store) (v : Value) : Noted Value :=
  match v with
  | .map _ es =>
    match Entries.get? (.str "ref") es with
    | some (.str path) => .ofExcept (s.get path)
    | some path => do
      Noted.note .state "Reference path must be a string" (.object [("ref", path)])
      return .null
    | none => .answer v
  | v => .answer v

end Store

/-! ### Depth limits -/

/-- Whether a depth lies beyond a limit. A limit that is no number cannot be compared. -/
def beyond (limit : Value) (depth : Nat) : Except Fault Bool :=
  match limit.number?, limit with
  | some bound, _ => .ok (bound.lt (.at depth))
  | none, .float _ => .ok false
  | none, v => .error (.wrongKind "limiting a depth" v.kindName)

namespace Store

/-- A value beyond the limit stays as it is, with a note; any other is replaced. -/
def withinLimit (limit : Value) (depth : Nat) (v : Value) (replaced : Noted Value) : Noted Value :=
  do
  if ← Noted.ofExcept (beyond limit depth) then
    let levels ← Noted.ofExcept limit.told
    Noted.note .state s!"resolve_object nesting exceeds {levels} levels; branch left unresolved"
    return v
  else replaced

mutual

/-- A value with all references and placeholders in it replaced, down to a depth limit; what lies
deeper is left as it is, with a note. What comes from the state is not searched again. -/
def resolveAll (s : Store) (limit : Value) (depth : Nat) : Value → Noted Value
  | .str text =>
    withinLimit limit depth (.str text) do return .str (← Noted.ofExcept (s.interpolate text))
  | .map m es => withinLimit limit depth (.map m es)
    (if (Value.map m es).isReference then s.resolve (.map m es)
    else do return .ofEntries (← s.resolveEntries limit (depth + 1) es))
  | .list m xs =>
    withinLimit limit depth (.list m xs) do return .ofList (← s.resolveItems limit (depth + 1) xs)
  | .pair a b => withinLimit limit depth (.pair a b) do
    let a ← s.resolveAll limit (depth + 1) a
    return .ofList [a, ← s.resolveAll limit (depth + 1) b]
  | v => withinLimit limit depth v (return v)

def resolveItems (s : Store) (limit : Value) (depth : Nat) : List Value → Noted (List Value)
  | [] => return []
  | x :: xs => do
    let y ← s.resolveAll limit depth x
    return y :: (← s.resolveItems limit depth xs)

def resolveEntries (s : Store) (limit : Value) (depth : Nat) :
    List (Key × Value) → Noted (List (Key × Value))
  | [] => return []
  | (k, v) :: es => do
    let w ← s.resolveAll limit depth v
    return (k, w) :: (← s.resolveEntries limit depth es)

end

/-- How many levels of a container that holds itself are looked at under a limit. -/
def levels : Value → Nat
  | .int n => min (n.toNat + 2) 1000
  | _ => 1000

/-- `resolveAll` from the outside of a value. -/
def resolveWhole (s : Store) (limit : Value) (v : Value) : Noted Value :=
  s.resolveAll limit 0 (if v.isCyclic then v.unroll (levels limit) else v)

end Store

end SceneCourse
