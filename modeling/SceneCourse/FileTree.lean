import SceneCourse.Stored

/-!
A tree of files and folders in memory. Paths are walked part by part: two points lead back to the
folder above, and every part but the last must be a folder that is there. `write` makes the folders
that a file needs.
-/

namespace SceneCourse

/-- Files and folders, each under the names on the way to it. A folder with something in it need not
be listed. -/
structure FileTree where
  files : List (List String × ByteArray)
  folders : List (List String)

namespace FileTree

def isFolder (t : FileTree) (names : List String) : Bool :=
  names.isEmpty || t.folders.any names.isPrefixOf ||
    t.files.any fun (others, _) => names.isPrefixOf others && names != others

def isFile (t : FileTree) (names : List String) : Bool :=
  t.files.any fun (others, _) => names == others

/-- Why a walk ends before its path does. -/
inductive DeadEnd where
  | nothingThere
  | fileInTheWay
  deriving DecidableEq

/-- The names of the place that parts of a path lead to from some place. -/
def walk (t : FileTree) (here : List String) : List String → Except DeadEnd (List String)
  | [] => .ok here
  | p :: ps =>
    if !t.isFolder here then .error .fileInTheWay
    else if p == ".." then t.walk here.dropLast ps
    else if t.isFolder (here ++ [p]) || t.isFile (here ++ [p]) then t.walk (here ++ [p]) ps
    else .error .nothingThere

/-- What a path leads to. -/
def stored (t : FileTree) (path : String) : Stored :=
  match t.walk [] (pathParts path) with
  | .error _ => .nothing
  | .ok names => (t.files.lookup names).elim .folder .file

/-- The folder in which parts of a path end. -/
def enclosing (t : FileTree) (parts : List String) : Except DeadEnd (List String) := do
  let here ← t.walk [] parts
  if t.isFolder here then return here else .error .fileInTheWay

/-- Makes one folder in an enclosing one. -/
def addFolder (t : FileTree) (here : List String) (name : String) : Except Fault FileTree :=
  if name == ".." || t.isFolder (here ++ [name]) then .ok t
  else if t.isFile (here ++ [name]) then .error .alreadyThere
  else .ok { t with folders := (here ++ [name]) :: t.folders }

/-- Makes a folder and those above it. The parts of its path come last one first. -/
def makeFolders (t : FileTree) : List String → Except Fault FileTree
  | [] => .ok t
  | name :: above =>
    match t.enclosing above.reverse with
    | .ok here => t.addFolder here name
    | .error .fileInTheWay => .error .notAFolder
    | .error .nothingThere => do
      let t ← t.makeFolders above
      match t.enclosing above.reverse with
      | .ok here => t.addFolder here name
      | .error _ => .error .notAFolder

/-- Writes a file, with the folders that it needs. -/
def write (t : FileTree) (path : String) (content : ByteArray) : Except Fault FileTree := do
  if path.toList.contains '\x00' then .error (.badValue .zeroCharacter)
  match (pathParts path).reverse with
  | [] => .error .notAFile
  | name :: above =>
    let t ← t.makeFolders above
    match t.enclosing above.reverse with
    | .error _ => .error .notAFolder
    | .ok here =>
      if name == ".." || t.isFolder (here ++ [name]) then .error .notAFile
      else return { t with files := (here ++ [name], content) :: t.files }

end FileTree

end SceneCourse
