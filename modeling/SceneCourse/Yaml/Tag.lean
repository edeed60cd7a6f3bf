import SceneCourse.Number.Numeral
import SceneCourse.Text.Base64
import SceneCourse.Text.Letter
import SceneCourse.Value.Basic
import SceneCourse.Yaml.Scalar
import SceneCourse.Yaml.Timestamp

/-!
Tags say what a scalar or a collection means. A plain scalar without a tag has the tag that its form
implies: `implied` knows the forms of null, truth values, numbers and moments. Of the words for
truth values only `true` and `false` imply one, so that names such as `on` stay texts.
-/

namespace SceneCourse.Yaml

inductive Tag where
  | null | bool | int | float | str | timestamp | binary | seq | map
  /-- A sequence of pairs; keys may come again, and their order counts. -/
  | pairs
  /-- A mapping whose keys alone count. -/
  | set
  /-- A key that merges the entries of mappings into its own mapping. -/
  | merge
  /-- A key for the value that a mapping stands for. -/
  | default
  | other (name : String)
  deriving DecidableEq, Repr

namespace Tag

/-- Where the tags of the standard types live. -/
def standardSpace : String := "tag:yaml.org,2002:"

def ofName (name : String) : Tag :=
  let space := standardSpace.toList
  if space.isPrefixOf name.toList then
    match String.ofList (name.toList.drop space.length) with
    | "null" => .null
    | "bool" => .bool
    | "int" => .int
    | "float" => .float
    | "str" => .str
    | "timestamp" => .timestamp
    | "binary" => .binary
    | "seq" => .seq
    | "map" => .map
    | "omap" | "pairs" => .pairs
    | "set" => .set
    | "merge" => .merge
    | "value" => .default
    | _ => .other name
  else .other name

/-! ### Implied tags -/

/-- A digit or a low line. -/
def isDigitOrLine (c : Char) : Bool := c.isDigit || c == '_'

/-- A digit, then digits and low lines up to a mark; what follows them. -/
def afterNumber (first : Char → Bool) (cs : List Char) : Option (List Char) :=
  match cs with
  | c :: cs => if first c then some (cs.dropWhile isDigitOrLine) else none
  | [] => none

/-- A part of a number in sixties: one digit, or two below sixty. What follows it. -/
def afterSixtieth : List Char → Option (List Char)
  | a :: b :: cs =>
    if a.isDigit && b.isDigit && a.toNat ≤ 53 then some cs else if a.isDigit
      then some (b :: cs) else none
  | [a] => if a.isDigit then some [] else none
  | [] => none

/-- Parts of a number in sixties, each after a colon, and what follows the last of them. -/
def afterSixtieths : Nat → List Char → List Char
  | 0, cs => cs
  | fuel + 1, cs =>
    match cs with
    | ':' :: rest =>
      match afterSixtieth rest with
      | some rest => afterSixtieths fuel rest
      | none => cs
    | cs => cs

/-- Whether parts of a number in sixties follow, at least one of them, and then only what `finish`
accepts. -/
def inSixties (finish : List Char → Bool) (cs : List Char) : Bool :=
  let rest := afterSixtieths cs.length cs
  rest.length < cs.length && finish rest

/-- A signed exponent that fills the rest, or nothing. -/
def isExponent : List Char → Bool
  | [] => true
  | e :: s :: d :: ds =>
    (e == 'e' || e == 'E') && (s == '-' || s == '+') && d.isDigit && ds.all Char.isDigit
  | _ => false

/-- A fraction that fills the rest. -/
def isFraction : List Char → Bool
  | '.' :: cs => cs.all isDigitOrLine
  | _ => false

def dropSign : List Char → List Char
  | '-' :: cs => cs
  | '+' :: cs => cs
  | cs => cs

def isInteger (cs : List Char) : Bool :=
  match dropSign cs with
  | ['0'] => true
  | '0' :: 'b' :: ds => !ds.isEmpty && ds.all fun d => d == '0' || d == '1' || d == '_'
  | '0' :: 'x' :: ds => !ds.isEmpty && ds.all fun d => (Json.hexValue? d).isSome || d == '_'
  | '0' :: ds => ds.all fun d => ('0' ≤ d && d ≤ '7') || d == '_'
  | cs => match afterNumber Char.isDigit cs with
    | some rest => rest.isEmpty || inSixties List.isEmpty rest
    | none => false

def isFloat (cs : List Char) : Bool :=
  let body := dropSign cs
  let decimal := match afterNumber Char.isDigit body with
    | some rest =>
      (match rest with
        | '.' :: rest => isExponent (rest.dropWhile isDigitOrLine)
        | _ => false) || inSixties isFraction rest
    | none => false
  let pointFirst := match cs with
    | '.' :: rest => (match afterNumber Char.isDigit rest with
      | some rest => isExponent rest
      | none => false)
    | _ => false
  decimal || pointFirst || [".inf", ".Inf", ".INF"].contains (String.ofList body) ||
    [".nan", ".NaN", ".NAN"].contains (String.ofList cs)

/-- A text without a line end after it; a line end alone stays. -/
def dropLineEnd (cs : List Char) : List Char :=
  if 1 < cs.length && cs.getLast? == some '\n' then cs.dropLast else cs

/-- The tag that the form of a text implies. -/
def implied (text : String) : Tag :=
  let cs := dropLineEnd text.toList
  let word := String.ofList cs
  if ["true", "True", "TRUE", "false", "False", "FALSE"].contains word then .bool
  else if isFloat cs then .float
  else if isInteger cs then .int
  else if Timestamp.looksLike cs then .timestamp
  else if word == "<<" then .merge
  else if ["~", "null", "Null", "NULL", ""].contains word then .null
  else if word == "=" then .default
  else if ["!", "&", "*"].contains word then .other (standardSpace ++ "yaml")
  else .str

example : implied "010" = .int := by decide +kernel
example : implied "08" = .str := by decide +kernel
example : implied "1:30" = .int := by decide +kernel
example : implied "1:75" = .str := by decide +kernel
example : implied "1e3" = .str := by decide +kernel
example : implied "-1_0.5e+3" = .float := by decide +kernel
example : implied "on" = .str := by decide +kernel

/-! ### Scalars by tag -/

/-- A sign, without low lines, and what follows it. -/
def signed (text : String) : Scanned (Bool × String) :=
  match text.toList.filter (· != '_') with
  | [] => .error (.badContent .emptyNumeral)
  | '-' :: cs => .ok (true, .ofList cs)
  | '+' :: cs => .ok (false, .ofList cs)
  | cs => .ok (false, .ofList cs)

def integerIn (base : Nat) (text : String) : Scanned Int :=
  match Numeral.integerIn base text with
  | .ok n => .ok n
  | .error cause => .error (.badContent (.badValue (.integer cause)))

/-- A whole number: in base 2, 8, 10 or 16, or in sixties with colons between the parts. -/
def readInteger (text : String) : Scanned Int := do
  let (negative, body) ← signed text
  let magnitude ← match body.toList with
    | [] => .error (.badContent .emptyNumeral)
    | ['0'] => pure 0
    | '0' :: 'b' :: ds => integerIn 2 (.ofList ds)
    | '0' :: 'x' :: ds => integerIn 16 (.ofList ds)
    | '0' :: _ => integerIn 8 body
    | cs =>
      if cs.contains ':' then do
        let parts ← (body.splitOn ":").mapM (integerIn 10)
        pure (parts.foldl (fun n d => 60 * n + d) 0)
      else integerIn 10 body
  return if negative then -magnitude else magnitude

def floatOf (text : String) : Scanned Binary64 :=
  match Numeral.named? text with
  | some x => .ok x
  | none => .error (.badContent (.badValue (.number text)))

/-- The sum of parts, the last one first, each weighted sixty times as much as the one before. A
weight beyond the binary64 numbers is refused. -/
def sumInSixties : Nat → Binary64 → List Binary64 → Scanned Binary64
  | _, sum, [] => .ok sum
  | weight, sum, x :: xs =>
    match Binary64.ofInt? weight with
    | some w => sumInSixties (60 * weight) (sum.add (x.mul w)) xs
    | none => .error (.badContent .tooLarge)

/-- A binary64 number, or what is not finite after a point, or parts in sixties with colons between
them. What is not a number is one thing in all texts, with the name 2. -/
def readFloat (text : String) : Scanned Binary64 := do
  let (negative, body) ← signed (Text.lower text)
  if body == ".nan" then return .nan 2
  let magnitude ←
    if body == ".inf" then pure (.infinite false)
    else if body.toList.contains ':' then do
      let parts ← (body.splitOn ":").mapM floatOf
      sumInSixties 1 .zero parts.reverse
    else floatOf body
  return if negative then magnitude.negate else magnitude

/-- The words for truth values, in any case of their letters. -/
def truthWord? : String → Option Bool
  | "true" | "yes" | "on" => some true
  | "false" | "no" | "off" => some false
  | _ => none

def readMoment (text : String) : Scanned Moment :=
  match Timestamp.read? 1 (dropLineEnd text.toList) with
  | none => .error (.badContent (.noOperation "parts" "NoneType"))
  | some m =>
    match m.impossible? with
    | some cause => .error (.badContent (.badValue (.moment cause)))
    | none => .ok m

def readBytes (text : String) : Scanned (List UInt8) :=
  let cs := text.toList
  if cs.all (·.toNat < 128) then
    match Text.Base64.decode? cs with
    | some bs => .ok bs
    | none => refused
  else refused

/-- The value of a scalar by its tag. Tags of collections and unknown ones give none. -/
def scalarValue (tag : Tag) (text : String) : Scanned Value :=
  match tag with
  | .null => .ok .null
  | .bool =>
    match truthWord? (Text.lower text) with
    | some b => .ok (.bool b)
    | none => .error (.badContent (.noEntry (.str (Text.lower text))))
  | .int => (readInteger text).map .int
  | .float => (readFloat text).map .float
  | .str => .ok (.str text)
  | .timestamp => (readMoment text).map .moment
  | .binary => (readBytes text).map .bytes
  | _ => refused

end Tag

end SceneCourse.Yaml
