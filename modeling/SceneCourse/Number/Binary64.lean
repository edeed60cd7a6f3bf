/-!
Binary64 numbers, held exactly: a finite one is a rational number `± m · 2 ^ e` with `m < 2 ^ 53`.
Sums, products and quotients are exact rationals rounded once, to the nearest number and to the even
one of two equally near, so every operation is computed with integers only and every comparison is
one of rationals.
-/

namespace SceneCourse

/-- `± mantissa · 2 ^ exponent`, an infinity, or not a number. Rounding gives the mantissa 53 bits,
or fewer at the least exponent, `-1074`; zero keeps its sign. What is not a number has a name by
which it is known again where it is held twice; the name 0 is the one that nothing is known by. -/
inductive Binary64 where
  | nan (name : Nat)
  | infinite (negative : Bool)
  | finite (negative : Bool) (mantissa : Nat) (exponent : Int)
  deriving DecidableEq, Repr, Inhabited

namespace Binary64

def zero : Binary64 := .finite false 0 (-1074)

/-- `num / den` to the nearest integer, a half to the even neighbour. -/
def roundQuotient (num den : Nat) : Nat :=
  let q := num / den
  let r := num % den
  if 2 * r < den then q else if den < 2 * r then q + 1 else q + q % 2

/-- The numerator and denominator of `num / den · 2 ^ (-e)`. -/
def scaleDown (num den : Nat) (e : Int) : Nat × Nat :=
  if e < 0 then (num <<< e.natAbs, den) else (num, den <<< e.natAbs)

/-- The integer part of the binary logarithm of `num / den`, both positive. -/
def floorLog2 (num den : Nat) : Int :=
  let k : Int := (num.log2 : Int) - den.log2
  let (n, d) := scaleDown num den k
  if d ≤ n then k else k - 1

/-- The number nearest to `± num / den`. -/
def ofQuotient (negative : Bool) (num den : Nat) : Binary64 :=
  if num = 0 then .finite negative 0 (-1074)
  else
    let e := max (floorLog2 num den - 52) (-1074)
    let (n, d) := scaleDown num den e
    let m := roundQuotient n d
    let (m, e) := if m = 1 <<< 53 then (1 <<< 52, e + 1) else (m, e)
    if e > 971 then .infinite negative else .finite negative m e

def ofRat (q : Rat) : Binary64 := ofQuotient (q.num < 0) q.num.natAbs q.den

/-- The nearest number to an integer; none beyond the largest finite one. -/
def ofInt? (n : Int) : Option Binary64 :=
  match ofRat n with
  | .infinite _ => none
  | x => some x

/-- The rational that `m · 2 ^ e` is. -/
def dyadic (m : Int) (e : Int) : Rat :=
  if e < 0 then mkRat m (1 <<< e.natAbs) else ((m * (1 <<< e.natAbs : Nat) : Int) : Rat)

/-- The exact value of a finite number. -/
def toRat? : Binary64 → Option Rat
  | .finite negative m e => some (dyadic (if negative then -m else m) e)
  | _ => none

def isNaN : Binary64 → Bool
  | .nan _ => true
  | _ => false

/-- Whether both are the same thing that is not a number. -/
def isSameNaN : Binary64 → Binary64 → Bool
  | .nan n, .nan m => n == m && n != 0
  | _, _ => false

def isZero : Binary64 → Bool
  | .finite _ m _ => m == 0
  | _ => false

def negative : Binary64 → Bool
  | .nan _ => false
  | .infinite s => s
  | .finite s _ _ => s

/-- The number with the other sign. -/
def negate : Binary64 → Binary64
  | .nan _ => .nan 0
  | .infinite s => .infinite !s
  | .finite s m e => .finite (!s) m e

/-- The value as an integer, when it is one. -/
def toInt? (x : Binary64) : Option Int :=
  match x.toRat? with
  | some q => if q.den = 1 then some q.num else none
  | none => none

def add : Binary64 → Binary64 → Binary64
  | .nan _, _ | _, .nan _ => .nan 0
  | .infinite s, .infinite t => if s = t then .infinite s else .nan 0
  | .infinite s, _ | _, .infinite s => .infinite s
  | .finite s 0 _, .finite t 0 _ => .finite (s && t) 0 (-1074)
  | .finite s m e, .finite t n f =>
    ofRat (dyadic (if s then -m else m) e + dyadic (if t then -n else n) f)

def mul : Binary64 → Binary64 → Binary64
  | .nan _, _ | _, .nan _ => .nan 0
  | .infinite s, .infinite t => .infinite (s != t)
  | .infinite s, .finite t n _ | .finite t n _, .infinite s =>
    if n = 0 then .nan 0 else .infinite (s != t)
  | .finite s m e, .finite t n f =>
    let q := dyadic m e * dyadic n f; ofQuotient (s != t) q.num.natAbs q.den

/-- The value on the line with both infinities; none for what is not a number. -/
inductive Extended where
  | below
  | at (q : Rat)
  | above
  deriving DecidableEq

def extended? : Binary64 → Option Extended
  | .nan _ => none
  | .infinite true => some .below
  | .infinite false => some .above
  | .finite s m e => some (.at (dyadic (if s then -m else m) e))

/-- Strictly smaller on the extended line. -/
def Extended.lt : Extended → Extended → Bool
  | .below, .below => false
  | .below, _ => true
  | .at p, .at q => p < q
  | .at _, .above => true
  | _, _ => false

/-- What is not a number is neither less than nor equal to anything. -/
def lt (x y : Binary64) : Bool :=
  match x.extended?, y.extended? with
  | some a, some b => a.lt b
  | _, _ => false

/-- Equality of values: the two zeros are equal, what is not a number equals nothing. -/
def eq (x y : Binary64) : Bool :=
  match x.extended?, y.extended? with
  | some a, some b => a == b
  | _, _ => false

def le (x y : Binary64) : Bool := x.lt y || x.eq y

example : ofRat (1 / 10) = .finite false 7205759403792794 (-56) := by decide +kernel
example : (ofRat (1 / 10)).add (ofRat (1 / 5)) = .finite false 5404319552844596
    (-54) := by decide +kernel
example : ofInt? (2 ^ 53 + 1) = ofInt? (2 ^ 53) := by decide +kernel
example : ofInt? (10 ^ 400) = none := by decide +kernel

end Binary64

end SceneCourse
