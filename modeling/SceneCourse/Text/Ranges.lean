/-!
Sets of characters as ranges of code points.
-/

namespace SceneCourse.Text

/-- Whether a character lies in one of the ranges, ends included. -/
def isIn (ranges : List (Nat × Nat)) (c : Char) : Bool :=
  ranges.any fun (a, b) => a ≤ c.toNat && c.toNat ≤ b

end SceneCourse.Text
