import SceneCourse.Number.Decimal
import SceneCourse.Text.Blank
import SceneCourse.Text.Digit
import SceneCourse.Text.Quoted

/-!
Numbers as learners and authors type them: digits of any script, a sign, a point and an exponent.
Whole numbers may be grouped with single low lines; a numeral with a point may not.
-/

namespace SceneCourse.Numeral

open Text

/-- Blank characters that may stand around a number; the four separator controls are not among
them. -/
def isSpace (c : Char) : Bool := isBlank c && !(28 ≤ c.toNat && c.toNat ≤ 31)

/-- The characters without the blank ones at either end. -/
def trim (cs : List Char) : List Char := ((cs.dropWhile isSpace).reverse.dropWhile isSpace).reverse

/-- The decimal digits at the head of a text, and what follows them. -/
def digits (cs : List Char) : List Nat × List Char :=
  ((cs.takeWhile isDecimal).filterMap decimalValue?, cs.dropWhile isDecimal)

/-- An optional sign; `true` for a minus. -/
def sign : List Char → Bool × List Char
  | '-' :: cs => (true, cs)
  | '+' :: cs => (false, cs)
  | cs => (false, cs)

/-- An exponent that fills the rest of a numeral; nothing stands for the exponent zero. -/
def exponent? : List Char → Option Int
  | [] => some 0
  | c :: cs =>
    if c == 'e' || c == 'E' then
      let (negative, cs) := sign cs
      match digits cs with
      | ([], _) => none
      | (ds, []) => some (if negative then -(decimalNumber ds : Int) else decimalNumber ds)
      | _ => none
    else none

/-- Digits before a point and, if there is one, after it; at least one digit in all. -/
def mantissa? (cs : List Char) : Option (List Nat × List Nat × List Char) :=
  match digits cs with
  | ([], '.' :: rest) =>
    match digits rest with
    | ([], _) => none
    | (fraction, rest) => some ([], fraction, rest)
  | ([], _) => none
  | (whole, '.' :: rest) => let (fraction, rest) := digits rest; some (whole, fraction, rest)
  | (whole, rest) => some (whole, [], rest)

/-- A numeral without its sign: digits, with a point and an exponent if need be, and nothing after
them. -/
def unsigned? (negative : Bool) (cs : List Char) : Option Binary64 := do
  let (whole, fraction, rest) ← mantissa? cs
  let power ← exponent? rest
  some (.ofDecimal negative (decimalNumber (whole ++ fraction)) (power - fraction.length))

/-- The number that a whole text writes, if it is a numeral. -/
def read? (cs : List Char) : Option Binary64 :=
  let (negative, cs) := sign cs
  if cs == "Infinity".toList then some (.infinite negative) else unsigned? negative cs

/-- A number without its sign, by digits or by the name of what is not finite in any case. -/
def unsignedOrNamed? (negative : Bool) (cs : List Char) : Option Binary64 :=
  let name := cs.map Char.toLower
  if name == "inf".toList || name == "infinity".toList then some (.infinite negative)
  else if name == "nan".toList then some (.nan 0)
  else unsigned? negative cs

/-- The number that a text writes between blanks. -/
def named? (s : String) : Option Binary64 :=
  let (negative, cs) := sign (trim s.toList)
  unsignedOrNamed? negative cs

/-! ### Whole numbers -/

/-- The value of a digit in a base: a decimal digit of any script, or a letter from `a` to `f` in
either case. -/
def digitIn? (base : Nat) (c : Char) : Option Nat :=
  let value := match decimalValue? c with
    | some d => d
    | none =>
      if 'a' ≤ c && c ≤ 'f' then c.toNat - 87 else if 'A' ≤ c && c ≤ 'F' then c.toNat - 55 else base
  if value < base then some value else none

/-- Digits in groups joined by single low lines. -/
def grouped? (base : Nat) : List Char → Option (List Nat)
  | [] => none
  | [c] => (digitIn? base c).map ([·])
  | c :: '_' :: cs => do some ((← digitIn? base c) :: (← grouped? base cs))
  | c :: cs => do some ((← digitIn? base c) :: (← grouped? base cs))

/-- The letter that may stand after a zero to announce a base. -/
def baseMark? : Nat → Option Char
  | 2 => some 'b'
  | 8 => some 'o'
  | 16 => some 'x'
  | _ => none

/-- A text without the mark of its base. A low line may follow the mark. -/
def dropBaseMark (base : Nat) (cs : List Char) : List Char :=
  match cs with
  | '0' :: c :: rest =>
    if baseMark? base == some c.toLower then
      match rest with
      | '_' :: rest => rest
      | rest => rest
    else cs
  | cs => cs

/-- Why a text gives no whole number. -/
inductive NoInteger where
  | notDigits (base : Nat) (text : String)
  | tooLong (digits : Nat)
  deriving DecidableEq, Repr

/-- The most digits that a whole number is read from, zeros in front included. Bases that are powers
of two know no limit. -/
def mostDigits : Nat := 4300

/-- What a text is refused with: at most two hundred characters of it are shown. -/
def NoInteger.message : NoInteger → String
  | notDigits base text =>
    s!"invalid literal for int() with base {base}: " ++ .ofList ((Text.quoted text).toList.take 200)
  | tooLong digits =>
    s!"Exceeds the limit ({mostDigits} digits) for integer string conversion: value has {digits} digits; " ++
      "use sys.set_int_max_str_digits() to increase the limit"

/-- How many digits a text begins with, if the low lines between them stand one by one. -/
def leadingDigits (cs : List Char) : Nat :=
  let run := cs.takeWhile fun c => isDecimal c || c == '_'
  if run.head? == some '_' || run.getLast? == some '_' ||
    (run.zip (run.drop 1)).contains ('_', '_') then 0
  else (run.filter (· != '_')).length

/-- The whole number that a text writes between blanks. -/
def integerIn (base : Nat) (s : String) : Except NoInteger Int :=
  let (negative, cs) := sign (trim s.toList)
  if base == 10 && mostDigits < leadingDigits cs then .error (.tooLong (leadingDigits cs))
  else match grouped? base (dropBaseMark base cs) with
    | some ds =>
      let n : Int := (ds.foldl (fun n d => base * n + d) 0 : Nat)
      .ok (if negative then -n else n)
    | none => .error (.notDigits base s)

def integer (s : String) : Except NoInteger Int := integerIn 10 s

example : (integer " -1_000 ").toOption = some (-1000) := by decide +kernel
example : (integer "1__0").toOption = none := by decide +kernel
example : (integer "²").toOption = none := by decide +kernel
example : (integerIn 16 "-0xfF").toOption = some (-255) := by decide +kernel
example : (integerIn 8 "09").toOption = none := by decide +kernel
example : read? "1_0".toList = none := by decide
example : (read? "٣.5e1".toList).map Binary64.text = some "35.0" := by decide +kernel

end SceneCourse.Numeral
