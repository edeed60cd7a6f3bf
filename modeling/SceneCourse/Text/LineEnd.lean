/-!
Line ends of different systems.
-/

namespace SceneCourse.Text

/-- Every line end as one line feed. -/
def unifyLineList : List Char → List Char
  | '\r' :: '\n' :: cs => '\n' :: unifyLineList cs
  | '\r' :: cs => '\n' :: unifyLineList cs
  | c :: cs => c :: unifyLineList cs
  | [] => []

def unifyLines (s : String) : String := .ofList (unifyLineList s.toList)

example : unifyLines "a\r\nb\rc\n\r" = "a\nb\nc\n\n" := by decide +kernel

end SceneCourse.Text
