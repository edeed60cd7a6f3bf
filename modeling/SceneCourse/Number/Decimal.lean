import SceneCourse.Number.Binary64

/-!
Decimal text of binary64 numbers. `shortest` finds the fewest digits that read back as the same
number and, among those, the nearest; a `FloatStyle` says how the digits are laid out. `ofDecimal`
reads digits and a power of ten.
-/

namespace SceneCourse.Binary64

/-! ### Reading -/

/-- A power of ten. -/
def tens (k : Nat) : Nat := Nat.pow 10 k

def decimalLength (n : Nat) : Nat := (Nat.toDigits 10 n).length

/-- The number nearest to `± digits · 10 ^ exponent`. Powers far outside the range are not
computed. -/
def ofDecimal (negative : Bool) (digits : Nat) (exponent : Int) : Binary64 :=
  let magnitude := (decimalLength digits : Int) + exponent
  if digits = 0 then .finite negative 0 (-1074)
  else if magnitude > 400 then .infinite negative
  else if magnitude < -400 then .finite negative 0 (-1074)
  else if exponent < 0 then ofQuotient negative digits (tens exponent.natAbs)
  else ofQuotient negative (digits * tens exponent.natAbs) 1

/-! ### Shortest digits -/

/-- The numbers that round to `m · 2 ^ e` lie between `low` and `high` quarters of the unit `2 ^ e`,
ends included when `m` is even; the number itself lies at `4 * m`. -/
structure Neighbourhood where
  low : Nat
  middle : Nat
  high : Nat
  closed : Bool

def neighbourhood (m : Nat) (e : Int) : Neighbourhood where
  low := if m = 1 <<< 52 ∧ e > -1074 then 4 * m - 1 else 4 * m - 2
  middle := 4 * m
  high := 4 * m + 2
  closed := m % 2 = 0

/-- The multiple of `10 ^ grid` nearest to the middle of a neighbourhood in units `2 ^ e`, if one of
the two around the middle lies in the neighbourhood. -/
def Neighbourhood.onGrid? (h : Neighbourhood) (e : Int) (grid : Int) : Option Nat :=
  let up := (if e < 0 then 1 else 1 <<< e.natAbs) * (if grid < 0 then tens grid.natAbs else 1)
  let down := (if e < 0 then 1 <<< e.natAbs else 1) * (if grid < 0 then 1 else tens grid.natAbs)
  let c := h.middle * up / down
  let r := h.middle * up % down
  let below := if h.closed then h.low * up ≤ c * down else h.low * up < c * down
  let above := if h.closed then (c + 1) * down ≤ h.high * up else (c + 1) * down < h.high * up
  let nearer := if 2 * r < down ∨ (2 * r = down ∧ c % 2 = 0) then c else c + 1
  if below then if above then some nearer else some c
  else if above then some (c + 1) else none

/-- The power of ten just above `m · 2 ^ e`: `10 ^ (k - 1) ≤ m · 2 ^ e < 10 ^ k`. -/
def decimalPoint (m : Nat) (e : Int) : Int :=
  let (n, d) := scaleDown m 1 (-e)
  let k : Int := (decimalLength n : Int) - decimalLength d
  let (a, b) := if k < 0 then (n * tens k.natAbs, d) else (n, d * tens k.natAbs)
  if b ≤ a then k + 1 else k

/-- The digits of a positive number, read `0.d₁d₂… · 10 ^ point`, without zeros at the end.
Seventeen digits always read back. -/
def shortest (m : Nat) (e : Int) : List Char × Int :=
  let k := decimalPoint m e
  let h := neighbourhood m e
  let found := (List.range 17).findSome? fun (n : Nat) =>
    let grid := k - (n + 1 : Nat)
    (h.onGrid? (e - 2) grid).map fun c => (Nat.toDigits 10 c, grid)
  match found with
  | some (ds, grid) => ((ds.reverse.dropWhile (· == '0')).reverse, ds.length + grid)
  | none => (['0'], 1)

/-! ### Layout -/

/-- How a number is written: powers of ten from `least` up to and not including `past` are written
out with a point, all others with a signed exponent of at least `exponentWidth` digits. -/
structure FloatStyle where
  least : Int
  past : Int
  exponentWidth : Nat
  notANumber : String
  infinity : String

def zeros (n : Nat) : List Char := List.replicate n '0'

/-- Digits with a point, and a digit on both sides of it. -/
def positional (ds : List Char) (point : Int) : List Char :=
  if point ≤ 0 then '0' :: '.' :: (zeros point.natAbs ++ ds)
  else if ds.length ≤ point.natAbs then ds ++ zeros (point.natAbs - ds.length) ++ ['.', '0']
  else ds.take point.natAbs ++ '.' :: ds.drop point.natAbs

/-- One digit before the point, and an exponent. -/
def scientific (width : Nat) (ds : List Char) (power : Int) : List Char :=
  let fraction := if ds.length ≤ 1 then [] else '.' :: ds.drop 1
  let exponent := Nat.toDigits 10 power.natAbs
  ds.take 1 ++ fraction ++ 'e' :: (if power < 0 then '-' else '+') ::
    (zeros (width - exponent.length) ++ exponent)

def FloatStyle.chars (style : FloatStyle) : Binary64 → List Char
  | .nan _ => style.notANumber.toList
  | .infinite s => (if s then ['-'] else []) ++ style.infinity.toList
  | .finite s m e =>
    let (ds, point) := if m = 0 then (['0'], 1) else shortest m e
    let power := point - 1
    (if s then ['-'] else []) ++
      if style.least ≤ power ∧ power < style.past then positional ds point
      else scientific style.exponentWidth ds power

def FloatStyle.text (style : FloatStyle) (x : Binary64) : String := .ofList (style.chars x)

/-- Powers from `-4` to `15` are written out; an exponent has two digits or more. -/
def plainStyle : FloatStyle := ⟨-4, 16, 2, "nan", "inf"⟩

def text (x : Binary64) : String := plainStyle.text x

/-! ### Fixed places -/

/-- `x · 10 ^ places`, without its sign, to the nearest integer, a half to the even neighbour. -/
def roundedUnits (places : Nat) (m : Nat) (e : Int) : Nat :=
  let (n, d) := scaleDown m 1 (-e)
  roundQuotient (n * tens places) d

/-- The number nearest to `x` rounded to so many decimal places. -/
def roundTo (places : Nat) : Binary64 → Binary64
  | .finite s m e => ofQuotient s (roundedUnits places m e) (tens places)
  | x => x

/-- A finite number with exactly so many decimal places. -/
def fixed (places : Nat) : Binary64 → String
  | .finite s m e =>
    let ds := Nat.toDigits 10 (roundedUnits places m e)
    let ds := zeros (places + 1 - ds.length) ++ ds
    .ofList ((if s then ['-'] else []) ++ ds.take (ds.length - places) ++ '.' ::
      ds.drop (ds.length - places))
  | x => x.text

example : (ofDecimal false 1 (-1)).text = "0.1" := by decide +kernel
example : ((ofDecimal false 1 (-1)).add (ofDecimal false 2 (-1))).text =
    "0.30000000000000004" := by decide +kernel
example : (ofDecimal false 5 (-324)).text = "5e-324" := by decide +kernel
example : (ofDecimal true 17976931348623157 292).text =
    "-1.7976931348623157e+308" := by decide +kernel
example : (ofDecimal false 1 16).text = "1e+16" := by decide +kernel
example : (ofDecimal false 9007199254740993 0).text = "9007199254740992.0" := by decide +kernel
example : (ofDecimal false 1 (-5)).text = "1e-05" := by decide +kernel
example : (roundTo 2 (ofDecimal false 2675 (-3))).text = "2.67" := by decide +kernel
example : fixed 1 (ofDecimal false 6666 (-2)) = "66.7" := by decide +kernel

end SceneCourse.Binary64
