/-!
Bytes written in base 64: four characters for three bytes. Characters outside the alphabet are
skipped; the padding at the end has to be complete, and what follows it is not read.
-/

namespace SceneCourse.Text.Base64

/-- The value of a character of the alphabet. -/
def value? (c : Char) : Option Nat :=
  if 'A' ≤ c && c ≤ 'Z' then some (c.toNat - 65)
  else if 'a' ≤ c && c ≤ 'z' then some (c.toNat - 71)
  else if c.isDigit then some (c.toNat + 4)
  else if c == '+' then some 62
  else if c == '/' then some 63
  else none

/-- The bytes from a place in a group of four: `count` characters of the group have been read, of
which `rest` holds the bits that are in no byte yet, and `pads` marks of padding since the last of
them. -/
def bytesFrom (count rest pads : Nat) : List Char → Option (List UInt8)
  | [] => if count = 0 then some [] else none
  | c :: cs =>
    if c == '=' then
      if count < 2 then bytesFrom count rest pads cs
      else if 4 ≤ count + pads + 1 then some []
      else bytesFrom count rest (pads + 1) cs
    else match value? c, count with
      | none, _ => bytesFrom count rest pads cs
      | some v, 0 => bytesFrom 1 v 0 cs
      | some v, 1 => (bytesFrom 2 (v % 16) 0 cs).map (UInt8.ofNat (rest * 4 + v / 16) :: ·)
      | some v, 2 => (bytesFrom 3 (v % 4) 0 cs).map (UInt8.ofNat (rest * 16 + v / 4) :: ·)
      | some v, _ => (bytesFrom 0 0 0 cs).map (UInt8.ofNat (rest * 64 + v) :: ·)

/-- The bytes that a text writes; none if a group is not complete. -/
def decode? (cs : List Char) : Option (List UInt8) := bytesFrom 0 0 0 cs

example : decode? "aGk=".toList = some [104, 105] := by decide +kernel
example : decode? "a Gk=z".toList = some [104, 105] := by decide +kernel
example : decode? "aGk".toList = none := by decide +kernel

end SceneCourse.Text.Base64
