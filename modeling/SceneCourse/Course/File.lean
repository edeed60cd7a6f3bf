import SceneCourse.Course.Document
import SceneCourse.Stored
import SceneCourse.Text.Letter
import SceneCourse.Yaml.Reader

/-!
Courses in files. The ending of a file's name says how its text is to be read.
-/

namespace SceneCourse

inductive CourseFormat where
  | json | yaml
  deriving DecidableEq, Repr

namespace CourseFormat

def ofEnding? : String → Option CourseFormat
  | ".json" => some json
  | ".yaml" | ".yml" => some yaml
  | _ => none

/-- The value that a text writes. -/
def read (format : CourseFormat) (name path text : String) : Except Fault Value :=
  let unreadable : Fault := .load (.syntaxError name path)
  match format with
  | json =>
    match Json.parse .documents text with
    | .ok v => .ok v
    | .error .syntaxError => .error unreadable
    | .error (.badInteger cause) => .error (.badValue (.integer cause))
  | yaml =>
    match Yaml.parse text with
    | .ok v => .ok v
    | .error .badSyntax => .error unreadable
    | .error (.badContent cause) => .error cause

end CourseFormat

/-- The course that a file holds. -/
def Course.ofFile (path : String) (stored : Stored) : Except Fault Course := do
  let path := tidyPath path
  let name := lastPart path
  let ending := Text.lower (nameEnding name)
  match stored, CourseFormat.ofEnding? ending with
  | .nothing, _ => .error (.load (.notFound path))
  | _, none => .error (.load (.format ending path))
  | stored, some format =>
    match ← format.read name path (← stored.text) with
    | .map m es => Course.parse (.map m es)
    | _ => .error (.load (.notMapping path))

end SceneCourse
