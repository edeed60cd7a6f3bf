import SceneCourse.Text.Printable

/-!
Text between quotes, for readers of a log: a quotation mark that the text does not contain is
preferred, and what cannot be shown is written as a numbered escape.
-/

namespace SceneCourse.Text

/-- The lower case hexadecimal digits of `n`, at least `width` of them. -/
def hexDigits (width n : Nat) : List Char :=
  let ds := Nat.toDigits 16 n
  List.replicate (width - ds.length) '0' ++ ds

/-- The mark around a text: the single one, unless the text has single marks and no double ones. -/
def quoteMark (cs : List Char) : Char :=
  if cs.contains '\'' && !cs.contains '"' then '"' else '\''

/-- How a character is written inside quotation marks `mark`. -/
def quotedChar (mark c : Char) : List Char :=
  if c == mark || c == '\\' then ['\\', c]
  else if c == '\t' then ['\\', 't']
  else if c == '\n' then ['\\', 'n']
  else if c == '\r' then ['\\', 'r']
  else if isPrintable c then [c]
  else if c.toNat ≤ 0xff then '\\' :: 'x' :: hexDigits 2 c.toNat
  else if c.toNat ≤ 0xffff then '\\' :: 'u' :: hexDigits 4 c.toNat
  else '\\' :: 'U' :: hexDigits 8 c.toNat

def quoted (s : String) : String :=
  let cs := s.toList
  let mark := quoteMark cs
  .ofList (mark :: (cs.flatMap (quotedChar mark) ++ [mark]))

example : quoted "it's" = "\"it's\"" := by decide
example : quoted "a\n'\"" = "'a\\n\\'\"'" := by decide
example : quoted "\u200b" = "'\\u200b'" := by decide +kernel

end SceneCourse.Text
