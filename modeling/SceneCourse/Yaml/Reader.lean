import SceneCourse.Text.LineEnd
import SceneCourse.Yaml.Object

/-!
Values that YAML texts write: a text is cut into tokens, the tokens write nodes, and the nodes stand
for a value.
-/

namespace SceneCourse.Yaml

/-- Characters that a text may have. -/
def isAllowed (c : Char) : Bool :=
  let n := c.toNat
  n == 9 || n == 10 || n == 13 || (0x20 ≤ n && n ≤ 0x7e) || n == 0x85 ||
    (0xa0 ≤ n && n ≤ 0xfffd) || 0x10000 ≤ n

/-- The value that a whole text writes; an empty text writes null. -/
def parse (text : String) : Scanned Value := do
  let cs := Text.unifyLineList text.toList
  if !cs.all isAllowed then refused
  Object.value (← Node.ofTokens (Token.scan cs))

end SceneCourse.Yaml
