import SceneCourse.Fault
import SceneCourse.Text.Blank
import SceneCourse.Text.Letter

/-!
Files of environment variables. A line assigns a value to a name; `export` may stand before it, a
comment after it. Values in quotation marks may span lines and have escapes, others end with their
line or before a comment. A line that is none of this is passed over. A value may mention variables
as `$` with the name in braces, and a text for variables that are not set after `:-`.
-/

namespace SceneCourse.EnvFile

open Text

/-- Variables with their values, first mention first. -/
abbrev Variables := List (String × String)

namespace Variables

/-- Sets a variable: at the place of its name if there is one, at the end otherwise. -/
def set {α : Type} (name : String) (value : α) : List (String × α) → List (String × α)
  | [] => [(name, value)]
  | (n, v) :: vars => if n == name then (n, value) :: vars else (n, v) :: set name value vars

end Variables

def isLineEnd (c : Char) : Bool := c == '\n' || c == '\r'

/-- Blank characters within a line. -/
def isLineBlank (c : Char) : Bool := isBlank c && !isLineEnd c

def skipLineBlanks (cs : List Char) : List Char := cs.dropWhile isLineBlank

/-- The text after the end of the line, if nothing but blanks comes before it. -/
def afterLineEnd? (cs : List Char) : Option (List Char) :=
  match skipLineBlanks cs with
  | '\r' :: '\n' :: rest => some rest
  | '\n' :: rest => some rest
  | '\r' :: rest => some rest
  | [] => some []
  | _ => none

/-- The text after the rest of a line. -/
def afterLine (cs : List Char) : List Char :=
  match cs.dropWhile (!isLineEnd ·) with
  | _ :: rest => rest
  | [] => []

/-- Past a comment, if there is one. -/
def skipComment (cs : List Char) : List Char :=
  match skipLineBlanks cs with
  | '#' :: rest => rest.dropWhile (!isLineEnd ·)
  | _ => cs

/-- A text up to its closing mark, and what follows. A backslash and the character after it, which
ends no line, belong together. -/
def closed? (mark : Char) : List Char → Option (List Char × List Char)
  | [] => none
  | '\\' :: c :: cs =>
    if c == '\n' then none else (closed? mark cs).map fun (inside, rest) =>
      ('\\' :: c :: inside, rest)
  | c :: cs =>
    if c == mark then some ([], cs)
    else if c == '\\' then none
    else (closed? mark cs).map fun (inside, rest) => (c :: inside, rest)

/-- The character of an escape, for each of the two marks. -/
def escape? (mark : Char) : Char → Option Char
  | '\\' => some '\\'
  | '\'' => some '\''
  | c =>
    if mark == '\'' then none
    else match c with
      | '"' => some '"'
      | 'a' => some '\x07'
      | 'b' => some '\x08'
      | 'f' => some '\x0c'
      | 'n' => some '\n'
      | 'r' => some '\r'
      | 't' => some '\t'
      | 'v' => some '\x0b'
      | _ => none

/-- A text with its escapes resolved; a backslash before any other character stays. -/
def unescape (mark : Char) : List Char → List Char
  | '\\' :: c :: cs =>
    match escape? mark c with
    | some e => e :: unescape mark cs
    | none => '\\' :: unescape mark (c :: cs)
  | c :: cs => c :: unescape mark cs
  | [] => []

/-- A text without the comment that a number sign after a blank starts. -/
def dropComment : List Char → List Char
  | [] => []
  | c :: cs =>
    if isBlank c && (cs.dropWhile isBlank).head? == some '#' then [] else c :: dropComment cs

/-- The value at a place, and what follows. -/
def value? : List Char → Option (List Char × List Char)
  | '\'' :: cs => (closed? '\'' cs).map fun (v, rest) => (unescape '\'' v, rest)
  | '"' :: cs => (closed? '"' cs).map fun (v, rest) => (unescape '"' v, rest)
  | cs =>
    some (dropEndBlanks (dropComment (cs.takeWhile (!isLineEnd ·))), cs.dropWhile (!isLineEnd ·))

/-- The value after an equals sign, and what follows. A comment that stands off from the sign leaves
the value empty. -/
def assigned? (cs : List Char) : Option (List Char × List Char) :=
  match skipLineBlanks cs with
  | '#' :: rest => if cs.head? == some '#' then value? ('#' :: rest) else some ([], '#' :: rest)
  | cs => value? cs

/-- A name at a place, in single marks or without; none before a comment. -/
def name? : List Char → Option (Option (List Char) × List Char)
  | '#' :: cs => some (none, '#' :: cs)
  | '\'' :: cs =>
    match cs.takeWhile (· != '\''), cs.dropWhile (· != '\'') with
    | [], _ => none
    | _, [] => none
    | n, _ :: rest => some (some n, rest)
  | cs =>
    let isPart (c : Char) := !(c == '=' || c == '#' || isBlank c)
    match cs.takeWhile isPart with
    | [] => none
    | n => some (some n, cs.dropWhile isPart)

/-- Past `export` and the blanks after it. -/
def skipExport (cs : List Char) : List Char :=
  let word := "export".toList
  if word.isPrefixOf cs then
    let rest := cs.drop word.length
    if rest.head?.any isLineBlank then skipLineBlanks rest else cs
  else cs

/-- An assignment: a name, and a value if there is an equals sign. -/
structure Binding where
  name : String
  value : Option String

/-- What a line says, from its first character that is not blank, and the place where it has been
read to. Without an outcome the rest of the line is passed over. -/
def binding (cs : List Char) : Option Binding × List Char × Bool :=
  let cs := skipExport cs
  match name? cs with
  | none => (none, cs, false)
  | some (name, cs) =>
    let cs := skipLineBlanks cs
    let found := match cs with
      | '=' :: cs => (assigned? cs).map fun (v, rest) => (some (String.ofList v), rest)
      | cs => some (none, cs)
    match found with
    | none => (none, skipLineBlanks (cs.drop 1), false)
    | some (value, cs) =>
      let cs := skipComment cs
      match afterLineEnd? cs with
      | some rest => (name.map fun n => ⟨.ofList n, value⟩, rest, true)
      | none => (none, cs, false)

def bindingsFrom : Nat → List Char → List Binding
  | 0, _ => []
  | fuel + 1, cs =>
    let cs := cs.dropWhile isBlank
    if cs.isEmpty then []
    else match binding cs with
      | (b, rest, true) => b.toList ++ bindingsFrom fuel rest
      | (_, rest, false) => bindingsFrom fuel (afterLine rest)

/-- All assignments of a text. Each takes at least one character. -/
def bindings (text : String) : List Binding := bindingsFrom (text.length + 1) text.toList

/-! ### Mentions -/

/-- A mention of a variable, from the place after its brace: the name, the text for one that is not
set, and what follows. -/
def mention? (cs : List Char) : Option (List Char × List Char × List Char) :=
  let isPart (c : Char) := c != '\x7d' && c != ':'
  let name := cs.takeWhile isPart
  match cs.dropWhile isPart with
  | '\x7d' :: rest => some (name, [], rest)
  | ':' :: '-' :: rest =>
    match rest.dropWhile (· != '\x7d') with
    | _ :: after => some (name, rest.takeWhile (· != '\x7d'), after)
    | [] => none
  | _ => none

/-- A text with the values of the variables that it mentions. -/
def filled (lookup : String → Option String) : Nat → List Char → List Char
  | 0, cs => cs
  | fuel + 1, cs =>
    match cs with
    | [] => []
    | '$' :: '\x7b' :: rest =>
      match mention? rest with
      | some (name, absent, rest) =>
        ((lookup (.ofList name)).getD (.ofList absent)).toList ++ filled lookup fuel rest
      | none => '$' :: filled lookup fuel ('\x7b' :: rest)
    | c :: rest => c :: filled lookup fuel rest

/-- The variables that assignments set, in an environment whose own variables are mentioned first. A
name without a value hides an earlier value of the name, and a mention of it is empty. -/
def resolve (env : Variables) :
    List (String × Option String) → List Binding → List (String × Option String)
  | done, [] => done
  | done, b :: bs =>
    let lookup (name : String) : Option String :=
      match env.lookup name with
      | some v => some v
      | none => (done.lookup name).map (·.getD "")
    let value := b.value.map fun v => String.ofList (filled lookup v.length v.toList)
    resolve env (Variables.set b.name value done) bs

/-- Why a variable cannot be set. -/
def refusal? (name value : String) : Option Fault :=
  if name.toList.contains '\x00' || value.toList.contains '\x00'
    then some (.badValue .zeroCharacter)
  else if name.toList.contains '=' then some (.badValue .variableName)
  else none

/-- An environment with variables set that it did not have, up to one that cannot be set, and the
fault of that one. -/
def setMissing (env : Variables) : List (String × Option String) → Variables × Option Fault
  | [] => (env, none)
  | (name, value) :: vars =>
    match value, env.lookup name with
    | some v, none =>
      match refusal? name v with
      | none => setMissing (env ++ [(name, v)]) vars
      | some e => (env, some e)
    | _, _ => setMissing env vars

/-- The variable that keeps files from being read, and the words for it. -/
def isDisabled (env : Variables) : Bool :=
  match env.lookup "PYTHON_DOTENV_DISABLED" with
  | some word => ["1", "true", "t", "yes", "y"].contains (lower word)
  | none => false

/-- An environment after a file has been read. Variables that it has keep their values. -/
def extend (env : Variables) (text : String) : Variables × Option Fault :=
  setMissing env (resolve env [] (bindings text))

end SceneCourse.EnvFile
