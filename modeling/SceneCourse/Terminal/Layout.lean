import SceneCourse.Number.Binary64
import SceneCourse.Terminal.Markup
import SceneCourse.Text.Width

/-!
Lines for a terminal: texts broken at words where they are too long, tables, and panels under a
title. The columns of a table are as wide as their widest text, less what the terminal has no room
for; its title is broken at the width of the table.
-/

namespace SceneCourse.Terminal

/-! ### Broken lines -/

/-- A word with the blanks before and after it, and what follows. -/
def wordAt (cs : List Char) : List Char × List Char :=
  let before := cs.takeWhile Text.isBlank
  let rest := cs.drop before.length
  let word := rest.takeWhile (!Text.isBlank ·)
  let rest := rest.drop word.length
  let after := rest.takeWhile Text.isBlank
  (before ++ word ++ after, rest.drop after.length)

/-- All words of a line. Blanks alone make no word. -/
def wordsOf : Nat → List Char → List (List Char)
  | 0, _ => []
  | fuel + 1, cs =>
    if cs.all Text.isBlank then []
    else
      let (word, rest) := wordAt cs
      word :: wordsOf fuel rest

/-- What becomes of a word that is longer than a line: it goes on in the next line, or it is cut off
with dots. -/
inductive LongWord where
  | folded
  | cut
  deriving DecidableEq

/-- Groups of characters in parts of a width at most; `last` is the part being filled, which takes
`used` columns. -/
def chop (limit : Nat) (last : List Char) (used : Nat) : List Text.Group → List (List Char)
  | [] => [last]
  | (cs, columns) :: groups =>
    if used + columns > limit then last :: chop limit cs columns groups
    else chop limit (last ++ cs) (used + columns) groups

/-- Words on lines of a width at most; `here` is the line being filled, which takes `used` columns.
A word that is too long for any line starts a new one. -/
def fill (long : LongWord) (limit : Nat) (here : List Char) (used : Nat) :
    List (List Char) → List (List Char)
  | [] => [here]
  | word :: words =>
    let needed := Text.width (Text.dropEndBlanks word)
    if used + needed ≤ limit then fill long limit (here ++ word) (used + Text.width word) words
    else
      let parts := if long == .folded && needed > limit
        then chop limit [] 0 (Text.groups word) else [word]
      let full := (if here.isEmpty then [] else [here]) ++ parts.dropLast
      let last := parts.getLastD []
      full ++ fill long limit last (Text.width last) words

/-- The first groups that fit into a width; a blank stands for half a group. -/
def fit : Nat → List Text.Group → List Char
  | 0, _ => []
  | _, [] => []
  | limit + 1, (cs, columns) :: groups =>
    if columns ≤ limit + 1 then cs ++ fit (limit + 1 - columns) groups else [' ']

/-- A line without what does not fit into a width. Blanks at its end go first. -/
def trimLine (long : LongWord) (limit : Nat) (line : List Char) : List Char :=
  let blanks := line.length - (Text.dropEndBlanks line).length
  let line := line.take (line.length - min blanks (line.length - limit))
  if Text.width line ≤ limit then line
  else match long with
    | .folded => fit limit (Text.groups line)
    | .cut => fit (limit - 1) (Text.groups line) ++ ['…']

/-- The columns from one tab stop to the next. -/
def tabStep : Nat := 8

/-- Parts between tabs with blanks up to the next tab stop instead of each tab, from a column on. -/
def spreadParts (column : Nat) : List (List Char) → List Char
  | [] => []
  | [part] => part
  | part :: parts =>
    let next := column + Text.width (part ++ [' '])
    let more := (tabStep - next % tabStep) % tabStep
    part ++ ' ' :: (List.replicate more ' ' ++ spreadParts (next + more) parts)

/-- A line without tabs. -/
def expandTabs (line : List Char) : List Char :=
  if line.contains '\t' then spreadParts 0 (line.splitOnP (· == '\t')) else line

/-- A line, broken where it is too long. -/
def wrapLine (long : LongWord) (limit : Nat) (line : List Char) : List String :=
  let line := expandTabs line
  let lines := match wordsOf line.length line with
    | [] => [line]
    | words => fill long limit [] 0 words
  lines.map fun line => .ofList (trimLine long limit line)

def splitLines (text : String) : List (List Char) := (text.splitOn "\n").map String.toList

def wrap (long : LongWord) (limit : Nat) (text : String) : List String :=
  (splitLines text).flatMap (wrapLine long limit)

/-- The lines of a text with styles. -/
def Styled.lines (long : LongWord) (limit : Nat) (s : Styled) : Except Fault (List String) := do
  let lines := wrap long limit (.ofList s.text)
  s.check (lines.length == 1)
  return lines

/-- The width of the terminal that everything is laid out for. -/
def screenWidth : Nat := 1000

/-- A text with tags as it is printed. -/
def printed (markup : String) : Except Fault (List String) :=
  do (← Styled.ofMarkup markup).lines .folded screenWidth

/-- A text without tags as it is printed. -/
def printedPlain (text : String) : List String :=
  wrap .folded screenWidth (.ofList (visible (pictured text.toList)))

/-! ### Tables -/

/-- A text filled up to a width. -/
def pad (width : Nat) (text : String) : String :=
  text ++ .ofList (List.replicate (width - Text.width text.toList) ' ')

/-- Characters that end a line for the measure of a cell. -/
def endsLine (c : Char) : Bool := let n := c.toNat
  (10 ≤ n && n ≤ 13) || (28 ≤ n && n ≤ 30) || n == 0x85 || n == 0x2028 || n == 0x2029

/-- The width of the widest line of a text. -/
def textWidth (text : List Char) : Nat := ((text.splitOnP endsLine).map Text.width).foldl max 0

structure Table where
  title : String
  header : List String
  rows : List (List String)

namespace Table

/-- The blanks on either side of a cell. -/
def gap : Nat := 2

/-- The widest text of each column, at most `limit` wide. -/
def columnWidths (limit : Nat) (columns : List (List (List Char))) : List Nat :=
  columns.map fun cells => (cells.map fun cell => min (textWidth cell + gap) limit).foldl max 0

def total (widths : List Nat) : Nat := widths.foldl (· + ·) 0

/-- Takes `excess` columns away in even parts from those widths that a test picks, at most `most`
from each. -/
def shrinkEvenly (picked : Nat → Bool) (most : Nat) : Nat → List Nat → List Nat
  | _, [] => []
  | excess, width :: widths =>
    if picked width then
      let part := min (min most width)
        (Binary64.roundQuotient excess ((widths.filter picked).length + 1))
      (width - part) :: shrinkEvenly picked most (excess - part) widths
    else width :: shrinkEvenly picked most excess widths

/-- Takes columns from the widest columns, first down to the next widest, until all fit. -/
def shrink (limit : Nat) : Nat → List Nat → List Nat
  | 0, widths => widths
  | fuel + 1, widths =>
    let excess := total widths - limit
    let widest := widths.foldl max 0
    let second := (widths.filter (· != widest)).foldl max 0
    if excess == 0 then widths
    else shrink limit fuel (shrinkEvenly (· == widest) (min excess (widest - second)) excess widths)

/-- The lines of a row: as many as its highest cell has. -/
def rowLines (widths : List Nat) (row : List Styled) : Except Fault (List String) := do
  let cells ← (widths.zip row).mapM fun (width, cell) => cell.lines .cut (width - gap)
  let height := (cells.map List.length).foldl max 0
  return (List.range height).map fun i =>
    " ".intercalate ((widths.zip cells).map fun (width, lines) => " " ++
      pad (width - gap) (lines[i]?.getD "") ++ " ")

/-- The table's lines. A column has a blank on either side, and a rule stands between columns and
around them. -/
def lines (t : Table) : Except Fault (List String) := do
  let columns ← (List.range t.header.length).mapM fun i =>
    (t.header :: t.rows).mapM fun row => Styled.ofMarkup (row[i]?.getD "")
  let rules := columns.length + 1
  let limit := screenWidth - rules
  let widths := columnWidths limit (columns.map fun cells => cells.map (·.text))
  let widths := shrink limit (total widths) widths
  let title ← (← Styled.ofMarkup t.title).lines .folded (total widths + rules)
  let rows ← (List.range (t.rows.length + 1)).mapM fun i =>
    rowLines widths (columns.filterMap (·[i]?))
  return title ++ rows.flatten

end Table

/-! ### Panels -/

/-- A title on one line, as far as it fits. -/
def titleLine (limit : Nat) (title : List Char) : String :=
  let line := ' ' :: (expandTabs (title.map fun c => if c == '\n' then ' ' else c) ++ [' '])
  .ofList (if Text.width line ≤ limit then line else fit limit (Text.groups line))

/-- A text under a title. -/
def panel (title content : String) : Except Fault (List String) := do
  let title ← Styled.ofMarkup title
  let content ← (← Styled.ofMarkup content).lines .folded (screenWidth - 4)
  title.check true
  return titleLine (screenWidth - 4) title.text :: content

end SceneCourse.Terminal
