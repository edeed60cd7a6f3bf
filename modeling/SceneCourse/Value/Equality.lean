import SceneCourse.Value.Basic

/-!
Two equalities of values. `Value.same` compares numbers by their value and lets a truth value equal
0 or 1; mappings are equal when they have the same entries in any order. What is not a number equals
nothing, but inside a container it is known again by its name. `Value.strictlySame` asks in addition
that both values be of one kind, but only at the top: inside lists and mappings it is `same`.
-/

namespace SceneCourse.Value

/-- The same thing that is not a number, held twice. -/
def isSameNaN : Value → Value → Bool
  | .float x, .float y => x.isSameNaN y
  | _, _ => false

/-- Sets with the same members in any order. -/
def sameKeys (ks ls : List Key) : Bool := ks.length == ls.length && ks.all fun k => ls.any k.same

mutual

def same : Value → Value → Bool
  | .null, .null => true
  | .str s, .str t => s == t
  | .moment s, .moment t => s.same t
  | .bytes a, .bytes b => a == b
  | .set ks, .set ls => sameKeys ks ls
  | .pair a b, .pair c d => (a.isSameNaN c || same a c) && (b.isSameNaN d || same b d)
  | .list _ xs, .list _ ys => sameItems xs ys
  | .map _ es, .map _ fs => es.length == fs.length && sameEntries es fs
  | .again m b, .again n c => m == n && b == c
  | v, w => match v.number?, w.number? with
    | some a, some b => a == b
    | _, _ => false

def sameItems : List Value → List Value → Bool
  | [], [] => true
  | x :: xs, y :: ys => (x.isSameNaN y || same x y) && sameItems xs ys
  | _, _ => false

/-- Every entry of the first mapping is one of the second. -/
def sameEntries : List (Key × Value) → List (Key × Value) → Bool
  | [], _ => true
  | (k, v) :: es, fs =>
    (match Entries.get? k fs with
    | some w => v.isSameNaN w || same v w
    | none => false) && sameEntries es fs

end

/-- Equality without coercion at the top: numbers with numbers, and otherwise only values of one
kind. -/
def strictlySame (v w : Value) : Bool :=
  if v.isNumber && w.isNumber then v.same w
  else v.kindName == w.kindName && v.same w

end SceneCourse.Value
