import SceneCourse.Number.Numeral

/-!
Numbers that a field of a record takes as text. An integer may have blanks around it, a sign, zeros
in front, low lines between its digits and a point with zeros behind; it has a limited length. A
binary64 number may have blanks around it or low lines in it, but not both.
-/

namespace SceneCourse.Lenient

/-- What a text is as an integer. -/
inductive IntegerText where
  | written (n : Int)
  | tooLong
  | noInteger
  deriving DecidableEq, Repr

/-- The most characters that an integer has, its minus included. -/
def longest : Nat := 4300

/-- The value of a row of digits `0` to `9`. -/
def naturalOf (ds : List Char) : Nat := ds.foldl (fun n d => 10 * n + (d.toNat - 48)) 0

/-- Digits without a zero in front of others. What follows too many of them does not matter. -/
def plain (negative : Bool) (cs : List Char) : IntegerText :=
  let ds := cs.takeWhile Char.isDigit
  if ds.isEmpty then .noInteger
  else if ds.head? == some '0' then if cs == ['0'] then .written 0 else .noInteger
  else if longest < ds.length + (if negative then 1 else 0) then .tooLong
  else if ds.length < cs.length then .noInteger
  else .written (if negative then -(naturalOf ds : Int) else naturalOf ds)

/-- An optional minus and digits. -/
def signed : List Char → IntegerText
  | '-' :: cs => plain true cs
  | cs => plain false cs

/-- What follows zeros and low lines in front of a number; a zero stays if no digit follows. A minus
may follow the zeros. -/
def dropZeros (zero : Char) : List Char → Option (List Char)
  | [] => some [zero]
  | c :: cs =>
    if c == '0' || c == '_' then dropZeros c cs
    else if c.isDigit || c == '-' then some (c :: cs)
    else if c == '.' then some (zero :: c :: cs)
    else none

def withoutZeros : List Char → Option (List Char)
  | '0' :: cs => dropZeros '0' cs
  | c :: cs => if c.isDigit then some (c :: cs) else none
  | [] => none

/-- What stands before a point with nothing but zeros, and at least one, behind it. -/
def withoutDecimals (cs : List Char) : List Char :=
  match cs.dropWhile (· != '.') with
  | _ :: z :: zs => if (z :: zs).all (· == '0') then cs.takeWhile (· != '.') else cs
  | _ => cs

/-- Whether low lines stand in a text one by one and neither at its head nor at its end. -/
def isGrouped (cs : List Char) : Bool :=
  cs.head? != some '_' && cs.getLast? != some '_' && !(cs.zip (cs.drop 1)).contains ('_', '_')

/-- The text without its low lines, if all of them are between other characters. -/
def ungrouped (cs : List Char) : List Char := if isGrouped cs then cs.filter (· != '_') else cs

/-- An integer with its zeros, its point and its low lines taken away. -/
def bare (cs : List Char) : Option (List Char) := do
  return ungrouped (withoutDecimals (← withoutZeros cs))

/-- The integer that a text writes. -/
def integer (s : String) : IntegerText :=
  let cs := Numeral.trim s.toList
  match signed cs with
  | .noInteger =>
    match cs with
    | '-' :: cs => (bare cs).elim .noInteger (plain true)
    | '+' :: '-' :: _ => .noInteger
    | '+' :: cs => (bare cs).elim .noInteger signed
    | cs => (bare cs).elim .noInteger signed
  | found => found

/-- The number that a text without blanks and low lines writes. -/
def plainFloat? (cs : List Char) : Option Binary64 :=
  let (negative, cs) := Numeral.sign cs
  if cs.all (·.toNat < 128) then Numeral.unsignedOrNamed? negative cs else none

/-- The binary64 number that a text writes. -/
def float? (s : String) : Option Binary64 :=
  (plainFloat? (Numeral.trim s.toList)).or (plainFloat? (ungrouped s.toList))

example : integer " 0_07.0 " = .written 7 := by decide +kernel
example : integer "00-5" = .written (-5) := by decide +kernel
example : integer "-0-5" = .noInteger := by decide +kernel
example : integer "5." = .noInteger := by decide +kernel
example : (float? "1_0.5").map Binary64.text = some "10.5" := by decide +kernel
example : float? " 1_0.5" = none := by decide +kernel

end SceneCourse.Lenient
