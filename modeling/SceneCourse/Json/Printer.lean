import SceneCourse.Value.Display

/-!
JSON text of values. A `JsonStyle` says whether other scripts are escaped and how members are
separated. Binary64 numbers that are no JSON numbers are written `NaN` and `Infinity`; a key that is
not a text is written as the text of its value. Moments, bytes and sets are written as the texts
that show them, pairs as lists, and a container inside itself as null.
-/

namespace SceneCourse

/-- How JSON text is laid out: on one line with `comma` and `colon` between parts, or with every
member on a line of its own, indented by `indent` blanks a level. -/
structure JsonStyle where
  ascii : Bool
  indent : Option Nat
  comma : String
  colon : String

namespace JsonStyle

/-- One line, a blank after commas and colons. -/
def line (ascii : Bool) : JsonStyle := ⟨ascii, none, ", ", ": "⟩

/-- A member a line. -/
def lines (ascii : Bool) (indent : Nat) : JsonStyle := ⟨ascii, some indent, ",", ": "⟩

/-- One line without blanks. -/
def tight : JsonStyle := ⟨false, none, ",", ":"⟩

/-- One line, or a member a line when there is an indent. -/
def ofIndent (ascii : Bool) : Option Nat → JsonStyle
  | none => line ascii
  | some n => lines ascii n

end JsonStyle

namespace Json

/-- Numbers in JSON text differ from those in messages in the names for what is not finite. -/
def floatStyle : Binary64.FloatStyle := ⟨-4, 16, 2, "NaN", "Infinity"⟩

/-- A code unit as an escape. -/
def unitEscape (n : Nat) : List Char := '\\' :: 'u' :: Text.hexDigits 4 n

/-- The character as an escape, in two units if it lies beyond the first plane. -/
def escape (c : Char) : List Char :=
  if c.toNat < 0x10000 then unitEscape c.toNat
  else
    let n := c.toNat - 0x10000
    unitEscape (0xd800 + n / 0x400) ++ unitEscape (0xdc00 + n % 0x400)

def charText (ascii : Bool) (c : Char) : List Char :=
  if c == '"' then ['\\', '"']
  else if c == '\\' then ['\\', '\\']
  else if c == '\n' then ['\\', 'n']
  else if c == '\r' then ['\\', 'r']
  else if c == '\t' then ['\\', 't']
  else if c == '\x08' then ['\\', 'b']
  else if c == '\x0c' then ['\\', 'f']
  else if c.toNat < 32 || (ascii && c.toNat ≥ 127) then escape c
  else [c]

def stringText (ascii : Bool) (s : String) : List Char :=
  '"' :: (s.toList.flatMap (charText ascii) ++ ['"'])

/-- The text of a key without quotation marks. -/
def keyText : Key → String
  | .null => "null"
  | .bool b => if b then "true" else "false"
  | .int n => toString n
  | .float x => floatStyle.text x
  | .str s => s
  | k => k.literal

/-- What stands before a member at some depth, and before the bracket that closes them. -/
def lineBreak (style : JsonStyle) (depth : Nat) : List Char :=
  match style.indent with
  | none => []
  | some n => '\n' :: List.replicate (n * depth) ' '

mutual

def chars (style : JsonStyle) (depth : Nat) : Value → List Char
  | .null => ['n', 'u', 'l', 'l']
  | .bool true => ['t', 'r', 'u', 'e']
  | .bool false => ['f', 'a', 'l', 's', 'e']
  | .int n => (toString n).toList
  | .float x => floatStyle.chars x
  | .str s => stringText style.ascii s
  | .moment t => stringText style.ascii (t.text " ")
  | .bytes bs => stringText style.ascii (shownBytes bs)
  | .set ks => stringText style.ascii (Value.set ks).literal
  | .again _ _ => ['n', 'u', 'l', 'l']
  | .pair a b =>
    '[' :: (lineBreak style (depth + 1) ++ chars style (depth + 1) a ++ style.comma.toList ++
      lineBreak style (depth + 1) ++ chars style (depth + 1) b ++ lineBreak style depth ++ [']'])
  | .list _ [] => ['[', ']']
  | .list _ (x :: xs) =>
    '[' :: (lineBreak style (depth + 1) ++ chars style (depth + 1) x ++
      items style (depth + 1) xs ++
      lineBreak style depth ++ [']'])
  | .map _ [] => ['\x7b', '\x7d']
  | .map _ ((k, v) :: es) =>
    '\x7b' :: (lineBreak style (depth + 1) ++ stringText style.ascii (keyText k) ++
      style.colon.toList ++
      chars style (depth + 1) v ++ members style (depth + 1) es ++
        lineBreak style depth ++ ['\x7d'])

/-- The items after the first. -/
def items (style : JsonStyle) (depth : Nat) : List Value → List Char
  | [] => []
  | x :: xs =>
    style.comma.toList ++ lineBreak style depth ++ chars style depth x ++ items style depth xs

/-- The members after the first. -/
def members (style : JsonStyle) (depth : Nat) : List (Key × Value) → List Char
  | [] => []
  | (k, v) :: es =>
    style.comma.toList ++ lineBreak style depth ++ stringText style.ascii (keyText k) ++
      style.colon.toList ++
      chars style depth v ++ members style depth es

end

def print (style : JsonStyle) (v : Value) : String := .ofList (chars style 0 v)

example : print (.line true) (.object [("é", .ofList [.int 1, .float (.nan 0)])]) =
    "\x7b\"\\u00e9\": [1, NaN]\x7d" := by decide
example : print (.lines false 2) (.ofList [.emptyMap, .ofList []]) =
    "[\n  \x7b\x7d,\n  []\n]" := by decide

end Json

end SceneCourse
