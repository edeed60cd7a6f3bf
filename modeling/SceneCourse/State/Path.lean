import SceneCourse.Text.Digit

/-!
Dotted paths into the state of a course. `n.state.k` is another name for `nodes.n.k`, unless `n` is
the name of a tier.
-/

namespace SceneCourse

/-- The parts of a text between its points; a text without points is one part. -/
def dotParts : List Char → List (List Char)
  | [] => [[]]
  | c :: cs =>
    if c = '.' then [] :: dotParts cs
    else match dotParts cs with
      | [] => [[c]]
      | p :: ps => (c :: p) :: ps

theorem dotParts_ne_nil (cs : List Char) : dotParts cs ≠ [] := by
  induction cs with
  | nil => simp [dotParts]
  | cons c cs ih =>
    simp only [dotParts]
    split
    · simp
    · split <;> simp

/-- The three tiers of the state. -/
def tierNames : List String := ["globals", "scene", "nodes"]

/-- Resolves the other name of a node's state. -/
def nodeAlias : List String → List String
  | node :: "state" :: rest =>
    if tierNames.contains node then node :: "state" :: rest else "nodes" :: node :: rest
  | parts => parts

/-- The segments of a dotted path. -/
def segments (path : String) : List String := nodeAlias ((dotParts path.toList).map String.ofList)

theorem segments_ne_nil (path : String) : segments path ≠ [] := by
  have h := dotParts_ne_nil path.toList
  unfold segments nodeAlias
  split
  · split <;> simp
  · simpa using h

/-- A segment made of digits, which may address an item of a list. -/
def isIndexText (s : String) : Bool := !s.isEmpty && s.toList.all Text.isDigitMark

example : segments "q1.state.selected" = ["nodes", "q1", "selected"] := by decide
example : segments "globals.state.x" = ["globals", "state", "x"] := by decide
example : segments "" = [""] := by decide

end SceneCourse
