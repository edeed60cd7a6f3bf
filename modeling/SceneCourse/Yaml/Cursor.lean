/-!
Places in a YAML text. A cursor holds what is still to be read, with the line and the column that it
has come to; the end of the text counts as the end of a line. Reading on never lengthens what is
left.
-/

namespace SceneCourse.Yaml

/-- Characters that end a line. -/
def isBreak (c : Char) : Bool := c == '\n' || c == '\u0085' || c == '\u2028' || c == '\u2029'

/-- A space or a tab. -/
def isWhite (c : Char) : Bool := c == ' ' || c == '\t'

/-- Letters, digits and the two joining lines, as names of anchors and tags have them. -/
def isWordChar (c : Char) : Bool := c.isAlphanum || c == '-' || c == '_'

/-- Whether a character, or the end of the text, ends a line. -/
def endsLine (c : Option Char) : Bool := c.all isBreak

/-- Whether a character, or the end of the text, ends a word. -/
def endsWord (c : Option Char) : Bool := c.all fun c => isWhite c || isBreak c

structure Cursor where
  rest : List Char
  index : Nat := 0
  line : Nat := 0
  column : Nat := 0

namespace Cursor

def head? (c : Cursor) : Option Char := c.rest.head?

/-- The character after the next one. -/
def second? (c : Cursor) : Option Char := c.rest[1]?

/-- One character further. A byte order mark takes no column. -/
def step (c : Cursor) : Cursor :=
  match c.rest with
  | [] => c
  | x :: rest =>
    if isBreak x then ⟨rest, c.index + 1, c.line + 1, 0⟩
    else ⟨rest, c.index + 1, c.line, if x == '\ufeff' then c.column else c.column + 1⟩

def skip : Nat → Cursor → Cursor
  | 0, c => c
  | n + 1, c => skip n c.step

/-- The characters of a kind that come next, and the place after them. -/
def span (p : Char → Bool) (c : Cursor) : List Char × Cursor :=
  let found := c.rest.takeWhile p
  (found, c.skip found.length)

def skipWhile (p : Char → Bool) (c : Cursor) : Cursor := (c.span p).2

/-- The end of a line, if it comes next: a line feed, or the mark that separates lines or
paragraphs. -/
def lineBreak? (c : Cursor) : Option (Char × Cursor) :=
  match c.rest with
  | x :: _ => if isBreak x then some (if x == '\u0085' then '\n' else x, c.step) else none
  | [] => none

/-- Whether three marks of a kind stand at the start of a line, and nothing joins them. -/
def isAtMarks (mark : Char) (c : Cursor) : Bool :=
  c.column == 0 && c.rest.take 3 == [mark, mark, mark] && endsWord c.rest[3]?

/-- Whether the document ends here, by the marks of its end or of the next one's start. -/
def isAtBoundary (c : Cursor) : Bool := c.isAtMarks '-' || c.isAtMarks '.'

/-- Past the spaces and the comment that may follow on the line; none if anything else follows. -/
def restOfLine? (c : Cursor) : Option Cursor :=
  let c := c.skipWhile (· == ' ')
  let c := if c.head? == some '#' then c.skipWhile (!isBreak ·) else c
  if endsLine c.head? then some ((c.lineBreak?.map (·.2)).getD c) else none

end Cursor

end SceneCourse.Yaml
