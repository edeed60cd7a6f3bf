import SceneCourse.Fault
import SceneCourse.Text.LineEnd

/-!
What paths lead to. Looking a path up is left to the caller; here is what a path's text says, and
how the text of a file is read.
-/

namespace SceneCourse

/-! ### Paths -/

/-- The parts of a path. Empty ones and those for the same folder again do not count. -/
def pathParts (path : String) : List String :=
  (path.splitOn "/").filter fun p => p != "" && p != "."

/-- A path without the parts that do not count. -/
def tidyPath (path : String) : String :=
  if path.startsWith "/" then "/" ++ "/".intercalate (pathParts path)
  else if (pathParts path).isEmpty then "." else "/".intercalate (pathParts path)

/-- The last part of a path. -/
def lastPart (path : String) : String := (pathParts path).getLastD ""

/-- The ending of a name from its last point on. A point at either end of the name starts none. -/
def nameEnding (name : String) : String :=
  let back := name.toList.reverse
  let ending := back.takeWhile (· != '.')
  if ending.isEmpty || back.length ≤ ending.length + 1 then "" else .ofList ('.' :: ending.reverse)

example : nameEnding "c.tar.gz" = ".gz" := by decide +kernel
example : nameEnding ".json" = "" := by decide +kernel
example : nameEnding "c." = "" := by decide +kernel

/-! ### Contents -/

inductive Stored where
  | nothing
  | folder
  | file (content : ByteArray)

/-- The text of a file, which must be UTF-8, with line feeds at the ends of its lines. Nothing
counts as an empty file. -/
def Stored.text : Stored → Except Fault String
  | nothing => .ok ""
  | folder => .error .notAFile
  | file content =>
    match String.fromUTF8? content with
    | some text => .ok (Text.unifyLines text)
    | none => .error .badBytes

end SceneCourse
