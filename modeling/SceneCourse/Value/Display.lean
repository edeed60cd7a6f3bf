import SceneCourse.Value.Basic
import SceneCourse.Text.Quoted

/-!
Values as messages and log lines show them: texts in quotation marks, `None`, `True` and `False` for
the constants, lists in brackets and mappings in braces. A text or a moment that stands alone is
shown as it is.
-/

namespace SceneCourse

def shownBool (b : Bool) : String := if b then "True" else "False"

/-- A byte inside quotation marks: the printable ones as characters, the others as escapes. -/
def shownByte (mark : Char) (b : UInt8) : List Char :=
  let c := Char.ofNat b.toNat
  if c == '\\' || c == mark then ['\\', c]
  else if c == '\t' then ['\\', 't']
  else if c == '\n' then ['\\', 'n']
  else if c == '\r' then ['\\', 'r']
  else if b < 32 || b ≥ 127 then '\\' :: 'x' :: Text.hexDigits 2 b.toNat
  else [c]

/-- Bytes in quotation marks, double ones where that spares escapes. -/
def shownBytes (bs : List UInt8) : String :=
  let mark := if bs.contains 39 && !bs.contains 34 then '"' else '\''
  .ofList ('b' :: mark :: (bs.flatMap (shownByte mark) ++ [mark]))

def Key.literal : Key → String
  | .null => "None"
  | .bool b => shownBool b
  | .int n => toString n
  | .float x => x.text
  | .str s => Text.quoted s
  | .moment t => t.literal
  | .bytes bs => shownBytes bs

namespace Value

mutual

/-- A value as it stands inside a list or a mapping. -/
def literal : Value → String
  | .null => "None"
  | .bool b => shownBool b
  | .int n => toString n
  | .float x => x.text
  | .str s => Text.quoted s
  | .moment t => t.literal
  | .bytes bs => shownBytes bs
  | .set [] => "set()"
  | .set (k :: ks) => "\x7b" ++ ", ".intercalate ((k :: ks).map Key.literal) ++ "\x7d"
  | .pair a b => "(" ++ literal a ++ ", " ++ literal b ++ ")"
  | .list _ xs => "[" ++ ", ".intercalate (literalItems xs) ++ "]"
  | .map _ es => "\x7b" ++ ", ".intercalate (literalEntries es) ++ "\x7d"
  | .again _ true => "\x7b...\x7d"
  | .again _ false => "[...]"

def literalItems : List Value → List String
  | [] => []
  | x :: xs => literal x :: literalItems xs

def literalEntries : List (Key × Value) → List String
  | [] => []
  | (k, v) :: es => (k.literal ++ ": " ++ literal v) :: literalEntries es

end

/-- A value as it stands in a message. -/
def shown : Value → String
  | .str s => s
  | .moment t => t.text " "
  | v => v.literal

end Value

end SceneCourse
