import SceneCourse.Fault
import SceneCourse.Terminal.Parameter
import SceneCourse.Terminal.Picture
import SceneCourse.Terminal.Style

/-!
Texts with tags for a terminal. A tag stands in brackets and starts with a small letter or one of
three marks; one that starts with a slash closes the last open tag of its name, or with no name the
last one. A backslash before a tag makes it plain text. The tags say how a text looks, and what
happens at an action on it; `plain` is what it says, with pictures for their names.
-/

namespace SceneCourse.Terminal

/-- A part of a text: plain, or a tag with what follows an equals sign in it. -/
inductive Piece where
  | text (cs : List Char)
  | tag (name : List Char) (parameter : Option (List Char))

def startsTag (c : Char) : Bool := ('a' ≤ c && c ≤ 'z') || c == '#' || c == '/' || c == '@'

/-- The inside of a tag, and what follows it. -/
def tagAt? : List Char → Option (List Char × List Char)
  | '[' :: c :: cs =>
    if startsTag c then
      match cs.takeWhile (fun x => x != ']' && x != '['), cs.dropWhile fun x =>
        x != ']' && x != '[' with
      | inside, ']' :: rest => some (c :: inside, rest)
      | _, _ => none
    else none
  | _ => none

/-- A tag by what stands in its brackets. -/
def Piece.ofInside (inside : List Char) : Piece :=
  match inside.dropWhile (· != '=') with
  | _ :: parameter => .tag (inside.takeWhile (· != '=')) (some parameter)
  | [] => .tag inside none

/-- The parts of a text with the places where they start. `before` is the plain text just read, last
character first. Two backslashes before a tag are one, and a single one makes the tag plain. -/
def pieces : Nat → Nat → List Char → List Char → List (Nat × Piece)
  | 0, _, _, _ => []
  | fuel + 1, start, before, cs =>
    let flush (more : List (Nat × Piece)) := if before.isEmpty then more
      else (start, .text before.reverse) :: more
    match cs with
    | [] => flush []
    | c :: rest =>
      let slashes := (cs.takeWhile (· == '\\')).length
      match tagAt? (cs.drop slashes) with
      | none => pieces fuel (start + 1) (c :: before) rest
      | some (inside, after) =>
        let doubled := List.replicate (slashes / 2) '\\'
        let place := start + 2 * doubled.length
        let next := start + slashes + inside.length + 2
        let here := if slashes % 2 == 1 then Piece.text ('[' :: (inside ++ [']']))
          else .ofInside inside
        flush ((if doubled.isEmpty then [] else [(start, .text doubled)]) ++
          (place, here) :: pieces fuel next [] after)

/-- A bracket that needs no backslash loses it. -/
def dropBracketSlash : List Char → List Char
  | '\\' :: '[' :: cs => '[' :: dropBracketSlash cs
  | c :: cs => c :: dropBracketSlash cs
  | [] => []

/-- Controls that a terminal would act on. -/
def isActing (c : Char) : Bool := [7, 8, 11, 12, 13].contains c.toNat

def visible (cs : List Char) : List Char := cs.filter (!isActing ·)

/-- A tag as it is written. -/
def tagText (name : List Char) (parameter : Option (List Char)) : String :=
  .ofList ('[' :: (name ++ (parameter.elim [] ('=' :: ·)) ++ [']']))

/-- An open tag by its normal name, and where its part of the text starts. -/
structure OpenTag where
  name : String
  parameter : Option (List Char)
  start : Nat

namespace OpenTag

/-- A tag for an action, and not for a look. -/
def isAction (t : OpenTag) : Bool := t.name.toList.head? == some '@'

/-- The name of a tag with its parameter after it. -/
def style (t : OpenTag) : String := t.name ++ t.parameter.elim "" fun p => " " ++ .ofList p

/-- What is wrong when the tag is closed: the arguments of an action must be written values. -/
def flaw? (t : OpenTag) : Option Fault :=
  match t.isAction, t.parameter with
  | true, some (c :: cs) =>
    let arguments := Parameter.arguments (Text.stripList (c :: cs))
    if Parameter.isValue arguments then none
    else some (.badMarkup
      s!"error parsing {Text.quoted (.ofList arguments)} in {Text.quoted (.ofList (c :: cs))}; invalid syntax")
  | _, _ => none

end OpenTag

/-- The name of a style, where a colour's part that is no number is a fault. -/
def checkedName (name : List Char) : Except Fault String :=
  (styleName (.ofList name)).mapError fun e => .badValue (.integer e)

/-- The tag that a closing tag closes, and those that stay open. -/
def closeTag (opened : List OpenTag) (place : Nat) (name : List Char)
    (parameter : Option (List Char)) : Except Fault (OpenTag × List OpenTag) :=
  let style := Text.stripList (name.drop 1)
  if style.isEmpty then
    match opened with
    | t :: opened => .ok (t, opened)
    | [] => .error (.badMarkup s!"closing tag '[/]' at position {place} has nothing to close")
  else do
    let style ← checkedName style
    match opened.find? (·.name == style) with
    | some t => return (t, opened.eraseP (·.name == style))
    | none =>
      throw
        (.badMarkup
        s!"closing tag '{tagText name parameter}' at position {place} doesn't match any open tag")

/-- A style of the part of a text between two places. -/
structure Span where
  start : Nat
  stop : Nat
  style : String

def OpenTag.span (t : OpenTag) (stop : Nat) : Span := ⟨t.start, stop, t.style⟩

/-- A text without its tags, and the styles that its tags give to parts of it. -/
structure Styled where
  text : List Char
  spans : List Span

/-- The plain text of parts from a place on, with the styles of their tags. The open tags are those
before, last one first. -/
def readPieces (opened : List OpenTag) (here : Nat) : List (Nat × Piece) → Except Fault Styled
  | [] => .ok ⟨[], opened.map (·.span here)⟩
  | (_, .text cs) :: more => do
    let cs := visible (pictured (dropBracketSlash cs))
    let rest ← readPieces opened (here + cs.length) more
    return { rest with text := cs ++ rest.text }
  | (place, .tag name parameter) :: more =>
    if name.head? == some '/' then do
      let (t, opened) ← closeTag opened place name parameter
      if let some e := t.flaw? then throw e
      let rest ← readPieces opened here more
      return if t.isAction then rest else { rest with spans := t.span here :: rest.spans }
    else do readPieces (⟨← checkedName name, parameter, here⟩ :: opened) here more

namespace Styled

/-- A text with tags, read. -/
def ofMarkup (markup : String) : Except Fault Styled :=
  let cs := markup.toList
  readPieces [] 0 (pieces (cs.length + 1) 0 [] cs)

/-- Fails if a style is no style because of a number in it. In a text that is broken into lines or
spread at its tabs, the style of nothing is forgotten. -/
def check (s : Styled) (inOneLine : Bool) : Except Fault Unit := do
  let isWhole := inOneLine && !s.text.contains '\t'
  for span in s.spans do
    if isWhole || ((s.text.take span.stop).drop span.start).any (· != '\n') then
      let _ ← (style? span.style).mapError fun e => Fault.badValue (.integer e)

end Styled

end SceneCourse.Terminal
