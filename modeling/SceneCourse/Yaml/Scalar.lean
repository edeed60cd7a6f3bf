import SceneCourse.Fault
import SceneCourse.Json.Reader
import SceneCourse.Yaml.Cursor

/-!
Texts of scalars: plain ones, quoted ones and blocks. A line end between two words of a plain or
quoted text counts as a space, and of several line ends in a row the first one is dropped. A block
keeps its line ends or folds them, and treats those at its end as its header says.
-/

namespace SceneCourse.Yaml

/-- Why a text has no value: it follows no syntax, or a scalar in it has no meaning. -/
inductive Problem where
  | badSyntax
  | badContent (cause : Fault)

abbrev Scanned := Except Problem

def refused {α : Type} : Scanned α := .error .badSyntax

/-- What stands for the line end between two words, by the line end and those that follow it. -/
def folded (first : Char) (more : List Char) : List Char :=
  if first != '\n' then first :: more else if more.isEmpty then [' '] else more

/-! ### Plain text -/

/-- Marks that end a plain text inside brackets. -/
def isFlowMark (c : Char) : Bool := c == ',' || c == '[' || c == ']' || c == '\x7b' || c == '\x7d'

/-- A word of plain text: up to a blank, to a colon that ends a key, or inside brackets to one of
their marks. -/
def plainWord (flow : Bool) : List Char → List Char
  | [] => []
  | c :: cs =>
    if isWhite c || isBreak c then []
    else if c == ':' && (endsWord cs.head? || (flow && cs.head?.any isFlowMark)) then []
    else if flow && (c == '?' || isFlowMark c) then []
    else c :: plainWord flow cs

/-- Line ends and spaces up to the next word; nothing counts where the document ends. -/
def plainBreaks : Nat → Cursor → Option (List Char) × Cursor
  | 0, c => (some [], c)
  | fuel + 1, c =>
    if c.head? == some ' ' then plainBreaks fuel c.step
    else match c.lineBreak? with
      | none => (some [], c)
      | some (b, c) =>
        if c.isAtBoundary then (none, c)
        else
          let (bs, c) := plainBreaks fuel c
          (bs.map (b :: ·), c)

/-- What stands between two words, and whether a line ended there. -/
def plainGap (c : Cursor) : List Char × Bool × Cursor :=
  let (blanks, c) := c.span (· == ' ')
  match c.lineBreak? with
  | none => (blanks, false, c)
  | some (b, c) =>
    if c.isAtBoundary then ([], true, c)
    else match plainBreaks c.rest.length c with
      | (none, c) => ([], true, c)
      | (some bs, c) => (folded b bs, true, c)

/-- Plain text, whether its last line has ended, and the place after it. Outside brackets a line
that stands left of `indent` is not part of it. -/
def plainText (flow : Bool) (indent : Int) : Nat → Cursor → List Char × Bool × Cursor
  | 0, c => ([], false, c)
  | fuel + 1, c =>
    let word := if c.head? == some '#' then [] else plainWord flow c.rest
    if word.isEmpty then ([], false, c)
    else
      let (gap, ended, c) := plainGap (c.skip word.length)
      if gap.isEmpty || c.head? == some '#' || (!flow && c.column < indent) then (word, ended, c)
      else match plainText flow indent fuel c with
        | ([], _, _) => (word, ended, c)
        | (more, ended, c) => (word ++ gap ++ more, ended, c)

/-! ### Quoted text -/

/-- Line ends and blanks up to the next word; the document must not end there. -/
def quotedBreaks : Nat → Cursor → Scanned (List Char × Cursor)
  | 0, c => .ok ([], c)
  | fuel + 1, c =>
    if c.isAtBoundary then refused
    else
      let c := c.skipWhile isWhite
      match c.lineBreak? with
      | none => .ok ([], c)
      | some (b, c) => do
        let (bs, c) ← quotedBreaks fuel c
        return (b :: bs, c)

/-- The character of an escape with one letter. -/
def shortEscape? : Char → Option Char
  | '0' => some '\x00'
  | 'a' => some '\x07'
  | 'b' => some '\x08'
  | 't' | '\t' => some '\t'
  | 'n' => some '\n'
  | 'v' => some '\x0b'
  | 'f' => some '\x0c'
  | 'r' => some '\r'
  | 'e' => some '\x1b'
  | ' ' => some ' '
  | '"' => some '"'
  | '\\' => some '\\'
  | '/' => some '/'
  | 'N' => some '\u0085'
  | '_' => some '\u00a0'
  | 'L' => some '\u2028'
  | 'P' => some '\u2029'
  | _ => none

/-- How many digits follow the letter of a numbered escape. -/
def escapeWidth? : Char → Option Nat
  | 'x' => some 2
  | 'u' => some 4
  | 'U' => some 8
  | _ => none

/-- The character with a number. A half of a surrogate pair reads as U+FFFD. -/
def characterOf (n : Nat) : Scanned Char :=
  if n < 0xd800 || (0xdfff < n && n ≤ 0x10ffff) then .ok (.ofNat n)
  else if n ≤ 0xdfff then .ok '\ufffd'
  else if n < 0x80000000 then .error (.badContent (.badValue .codePoint))
  else .error (.badContent .tooLarge)

/-- The characters of an escape, from the place after its backslash. An escaped line end leaves only
the line ends after it. -/
def escaped (c : Cursor) : Scanned (List Char × Cursor) :=
  match c.head? with
  | none => refused
  | some x =>
    match shortEscape? x, escapeWidth? x, c.lineBreak? with
    | some y, _, _ => .ok ([y], c.step)
    | none, some width, _ => do
      let c := c.step
      let some ds := (c.rest.take width).mapM Json.hexValue? | refused
      if ds.length < width then refused
      let y ← characterOf (ds.foldl (fun n d => 16 * n + d) 0)
      return ([y], c.skip width)
    | none, none, some (_, c) => quotedBreaks c.rest.length c
    | none, none, none => refused

/-- Text up to its closing mark. Only double marks know escapes; two single marks stand for one. -/
def quotedText (mark : Char) : Nat → Cursor → Scanned (List Char × Cursor)
  | 0, _ => refused
  | fuel + 1, c => do
    match c.head? with
    | none => refused
    | some x =>
      if isWhite x || isBreak x then
        let (blanks, c) := c.span isWhite
        let (gap, c) ← match c.lineBreak? with
          | none => pure (blanks, c)
          | some (b, c) => do
            let (bs, c) ← quotedBreaks c.rest.length c
            pure (folded b bs, c)
        let (more, c) ← quotedText mark fuel c
        return (gap ++ more, c)
      else if x == mark then
        if mark == '\'' && c.second? == some '\'' then
          let (more, c) ← quotedText mark fuel (c.skip 2)
          return ('\'' :: more, c)
        else return ([], c.step)
      else if x == '\\' && mark == '"' then
        let (here, c) ← escaped c.step
        let (more, c) ← quotedText mark fuel c
        return (here ++ more, c)
      else
        let (more, c) ← quotedText mark fuel c.step
        return (x :: more, c)

/-! ### Blocks -/

/-- What happens to the line ends at the end of a block. -/
inductive Chomping where
  | strip | clip | keep

def Chomping.ofMark? : Char → Option Chomping
  | '+' => some .keep
  | '-' => some .strip
  | _ => none

/-- The digit of a header; a zero is refused. -/
def blockDigit (c : Cursor) : Scanned (Option Nat × Cursor) :=
  match c.head? with
  | some x =>
    if x.isDigit then if x == '0' then refused else .ok (some (x.toNat - 48), c.step)
      else .ok (none, c)
  | none => .ok (none, c)

/-- What the header says about the end, if anything. -/
def blockChomping (c : Cursor) : Option Chomping × Cursor :=
  match c.head?.bind Chomping.ofMark? with
  | some m => (some m, c.step)
  | none => (none, c)

/-- The header of a block: the treatment of its end and its indentation in either order, and a
comment. -/
def blockHeader (c : Cursor) : Scanned (Chomping × Option Nat × Cursor) := do
  let (first, c) := blockChomping c
  let (digit, c) ← blockDigit c
  let (second, c) := if first.isNone && digit.isSome then blockChomping c else (none, c)
  if !(c.head? == some ' ' || endsLine c.head?) then refused
  match c.restOfLine? with
  | some c => return ((first.or second).getD .clip, digit, c)
  | none => refused

/-- Past the spaces left of a column. -/
def skipIndent (indent : Nat) (c : Cursor) : Cursor :=
  c.skip (min ((c.rest.takeWhile (· == ' ')).length) (indent - c.column))

/-- Empty lines, and the indentation of the line after them. -/
def blockBreaks (indent : Nat) : Nat → Cursor → List Char × Cursor
  | 0, c => ([], c)
  | fuel + 1, c =>
    let c := skipIndent indent c
    match c.lineBreak? with
    | none => ([], c)
    | some (b, c) =>
      let (bs, c) := blockBreaks indent fuel c
      (b :: bs, c)

/-- Empty lines at the start of a block, and the rightmost column that spaces reach there. -/
def blockStart : Nat → Nat → Cursor → List Char × Nat × Cursor
  | 0, widest, c => ([], widest, c)
  | fuel + 1, widest, c =>
    if c.head? == some ' ' then blockStart fuel (max widest c.step.column) c.step
    else match c.lineBreak? with
      | none => ([], widest, c)
      | some (b, c) =>
        let (bs, widest, c) := blockStart fuel widest c
        (b :: bs, widest, c)

/-- Lines of a block: their text, the end of the last one, the empty lines after it. -/
structure BlockLines where
  text : List Char
  lastEnd : List Char
  after : List Char
  cursor : Cursor

/-- The lines of a block from a place where `before` empty lines have been read. -/
def blockLines (fold : Bool) (indent : Nat) : Nat → List Char → Cursor → BlockLines
  | 0, before, c => ⟨[], [], before, c⟩
  | fuel + 1, before, c =>
    if c.column == indent && !c.rest.isEmpty then
      let indented := c.head?.any isWhite
      let (line, c) := c.span (!isBreak ·)
      let (ending, c) := match c.lineBreak? with
        | some (b, c) => ([b], c)
        | none => ([], c)
      let (after, c) := blockBreaks indent c.rest.length c
      if c.column == indent && !c.rest.isEmpty then
        let joint :=
          if fold && ending == ['\n'] && !indented && !c.head?.any isWhite then
            if after.isEmpty then [' '] else []
          else ending
        let more := blockLines fold indent fuel after c
        { more with text := before ++ line ++ joint ++ more.text }
      else ⟨before ++ line, ending, after, c⟩
    else ⟨[], [], before, c⟩

/-- A block, from the place after its mark, inside a collection that stands at column `outer`. -/
def blockText (fold : Bool) (outer : Int) (c : Cursor) : Scanned (List Char × Cursor) := do
  let (chomping, digit, c) ← blockHeader c
  let least := max (outer + 1) 1 |>.toNat
  let (indent, before, c) := match digit with
    | some d =>
      let indent := least + d - 1
      let (before, c) := blockBreaks indent c.rest.length c
      (indent, before, c)
    | none =>
      let (before, widest, c) := blockStart c.rest.length 0 c
      (max least widest, before, c)
  let lines := blockLines fold indent c.rest.length before c
  let tail := match chomping with
    | .strip => []
    | .clip => lines.lastEnd
    | .keep => lines.lastEnd ++ lines.after
  return (lines.text ++ tail, lines.cursor)

end SceneCourse.Yaml
