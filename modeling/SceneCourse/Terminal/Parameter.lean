import SceneCourse.Number.Numeral
import SceneCourse.Text.LineEnd
import SceneCourse.Text.Quoted
import SceneCourse.Text.Word

/-!
What stands after the equals sign of a tag for an action: the name of the action, and its arguments
as written values. Texts, numbers, tables, sets and rows of values can be written, but nothing that
would have to be worked out.
-/

namespace SceneCourse.Terminal.Parameter

/-! ### Signs of a written value -/

/-- The pieces that a written value consists of. -/
inductive Sign where
  | number (imaginary : Bool)
  | text
  | bytes
  | constant
  | emptySet
  | mark (c : Char)
  | lineEnd
  deriving DecidableEq

/-- Digits, with single low lines between them, and what follows. -/
def digits? (isDigit : Char → Bool) : List Char → Option (List Char × List Char)
  | c :: '_' :: cs =>
    if isDigit c then
      match digits? isDigit cs with
      | some (ds, rest) => some (c :: ds, rest)
      | none => some ([c], '_' :: cs)
    else none
  | c :: cs =>
    if isDigit c then
      match digits? isDigit cs with
      | some (ds, rest) => some (c :: ds, rest)
      | none => some ([c], cs)
    else none
  | [] => none

def isHex (c : Char) : Bool := c.isDigit || ('a' ≤ c.toLower && c.toLower ≤ 'f')

/-- An exponent, if one follows. -/
def dropExponent (cs : List Char) : Option (List Char) :=
  match cs with
  | e :: rest =>
    if e == 'e' || e == 'E' then
      let rest := if rest.head? == some '+' || rest.head? == some '-' then rest.drop 1 else rest
      (digits? Char.isDigit rest).map (·.2)
    else none
  | [] => none

/-- What follows a decimal number, and whether it is whole. -/
def decimal? (cs : List Char) : Option (List Char × Bool) :=
  let (ds, rest) := (digits? Char.isDigit cs).getD ([], cs)
  match rest with
  | '.' :: more =>
    let (fraction, rest) := (digits? Char.isDigit more).getD ([], more)
    if ds.isEmpty && fraction.isEmpty then none else some ((dropExponent rest).getD rest, false)
  | _ =>
    if ds.isEmpty then none
    else match dropExponent rest with
      | some rest => some (rest, false)
      | none =>
        let isPlain := ds.all (· == '0') || (ds.head? != some '0' && ds.length ≤ Numeral.mostDigits)
        if isPlain || rest.head? == some 'j' || rest.head? == some 'J'
          then some (rest, true) else none

/-- The digits of a base, by the letter that announces it. -/
def baseDigits? (mark : Char) : Option (Char → Bool) :=
  match mark.toLower with
  | 'x' => some isHex
  | 'o' => some fun c => '0' ≤ c && c ≤ '7'
  | 'b' => some fun c => c == '0' || c == '1'
  | _ => none

/-- What follows a number, and whether the number is imaginary. -/
def number? (cs : List Char) : Option (List Char × Bool) :=
  let based : Option (List Char × Bool) :=
    match cs with
    | '0' :: mark :: rest =>
      (baseDigits? mark).map fun isDigit =>
        let rest := if rest.head? == some '_' then rest.drop 1 else rest
        match digits? isDigit rest with
        | some (_, rest) => (rest, false)
        | none => (mark :: rest, false)
    | _ => none
  let found := based <|> (decimal? cs).map fun (rest, _) =>
    match rest with
    | 'j' :: rest | 'J' :: rest => (rest, true)
    | _ => (rest, false)
  found.filter fun (rest, _) => !(rest.head?.any Text.isWordChar)

/-- What follows an escape after its backslash. Escapes by code must be complete, and name a
character. -/
def escape? (isBytes : Bool) : List Char → Option (List Char)
  | [] => none
  | c :: cs =>
    let coded (n : Nat) : Option (List Char) :=
      let ds := (cs.take n).filterMap (Numeral.digitIn? 16)
      if (cs.take n).length == n && (cs.take n).all isHex &&
        ds.foldl (16 * · + ·) 0 < 0x110000 then some (cs.drop n)
      else none
    if c == 'x' then coded 2
    else if isBytes then some cs
    else if c == 'u' then coded 4
    else if c == 'U' then coded 8
    else if c == 'N' then
      match cs with
      | '{' :: rest =>
        match rest.takeWhile (· != '}'), rest.dropWhile (· != '}') with
        | _ :: _, _ :: rest => some rest
        | _, _ => none
      | _ => none
    else some cs

/-- What follows a text that `mark` closes. A text of several lines is closed by three marks. -/
def textEnd? (mark : Char) (isLong isRaw isBytes : Bool) : Nat → List Char → Option (List Char)
  | 0, _ => none
  | _, [] => none
  | fuel + 1, c :: cs =>
    if c == mark && !isLong then some cs
    else if c == mark && [mark, mark].isPrefixOf cs then some (cs.drop 2)
    else if c == '\n' && !isLong then none
    else if isBytes && c.toNat ≥ 128 then none
    else if c == '\\' then
      let after := if isRaw then (if cs.isEmpty then none else some (cs.drop 1))
        else escape? isBytes cs
      after.bind (textEnd? mark isLong isRaw isBytes fuel)
    else textEnd? mark isLong isRaw isBytes fuel cs

/-- What follows a text from its first mark on. -/
def textAfter? (isRaw isBytes : Bool) (mark : Char) (cs : List Char) : Option (List Char) :=
  let long := [mark, mark].isPrefixOf cs
  textEnd? mark long isRaw isBytes cs.length (if long then cs.drop 2 else cs)

/-- The sign that a word is, or that it begins. -/
def word? (word : String) (rest : List Char) : Option (Sign × List Char) :=
  match rest with
  | mark :: more =>
    if mark == '\'' || mark == '"' then
      let form := word.toLower
      if form == "r" || form == "u" || form == "" then
        (textAfter? (form == "r") false mark more).map ((.text, ·))
      else if form == "b" || form == "br" || form == "rb" then
        (textAfter? (form != "b") true mark more).map ((.bytes, ·))
      else none
    else named
  | [] => named
where
  named : Option (Sign × List Char) :=
    if ["True", "False", "None"].contains word then some (.constant, rest)
    else if word == "set" then some (.emptySet, rest)
    else none

/-- Blanks inside a line. -/
def isGap (c : Char) : Bool := c == ' ' || c == '\t' || c == '\x0c'

/-- The next sign where `depth` brackets are open, and what follows it; nothing but gaps gives no
sign. -/
def sign? (depth : Nat) : List Char → Option (Option Sign × List Char)
  | [] => some (none, [])
  | c :: cs =>
    if isGap c then some (none, cs)
    else if c == '#' then some (none, cs.dropWhile (· != '\n'))
    else if c == '\n' then
      if depth > 0 then some (none, cs)
      else
        let indented := cs.dropWhile isGap
        let isBlankLine := indented.isEmpty || indented.head? == some '#' ||
          indented.head? == some '\n'
        if isBlankLine || cs.length == indented.length then some (some .lineEnd, cs) else none
    else if c == '\\' then if cs.head? == some '\n' &&
      cs.length > 1 then some (none, cs.drop 1) else none
    else if c.isDigit || (c == '.' && cs.head?.any Char.isDigit) then
      (number? (c :: cs)).map fun (rest, imaginary) => (some (.number imaginary), rest)
    else if ['.', '.', '.'].isPrefixOf (c :: cs) then some (some .constant, cs.drop 2)
    else if ['(', ')', '{', '}', ',', ':', '+', '-'].contains c then some (some (.mark c), cs)
    else
      let word := (c :: cs).takeWhile Text.isWordChar
      (word? (.ofList word) ((c :: cs).drop word.length)).map fun (s, rest) => (some s, rest)

/-- The most brackets that may be open at once. -/
def deepest : Nat := 200

/-- All signs of a text. -/
def signs? : Nat → Nat → List Char → Option (List Sign)
  | 0, _, cs => if cs.isEmpty then some [] else none
  | fuel + 1, depth, cs =>
    if cs.isEmpty then some []
    else match sign? depth cs with
      | none => none
      | some (none, rest) => signs? fuel depth rest
      | some (some s, rest) =>
        let depth :=
          if s == .mark '(' || s == .mark '{' then depth + 1
          else if s == .mark ')' || s == .mark '}' then depth - 1
          else depth
        if depth > deepest then none else (signs? fuel depth rest).map (s :: ·)

/-! ### Values -/

/-- What a written value is, as far as it matters to where it may stand. -/
inductive Shape where
  | number (imaginary : Bool)
  | signed (imaginary : Bool)
  /-- Anything else. Only what is fixed can be a key or in a set. -/
  | other (fixed : Bool)
  deriving DecidableEq

def Shape.isFixed : Shape → Bool
  | other fixed => fixed
  | _ => true

/-- Values between commas up to a closing mark, with keys if a colon follows the first, and what
follows the mark. -/
structure Items where
  keys : List Shape := []
  values : List Shape := []
  endsInComma : Bool := false

/-- A value and what follows it. -/
abbrev Reading (α : Type) := List Sign → Option (α × List Sign)

/-- Texts next to each other are one text. -/
def dropTexts (kind : Sign) : List Sign → Option (List Sign)
  | s :: rest =>
    if s == kind then dropTexts kind rest else if s == .text ||
      s == .bytes then none else some (s :: rest)
  | [] => some []

/-- A value with nothing before or after it. -/
def simple? (items : Reading Items) : Reading Shape
  | .number imaginary :: rest => some (.number imaginary, rest)
  | .text :: rest => (dropTexts .text rest).map ((.other true, ·))
  | .bytes :: rest => (dropTexts .bytes rest).map ((.other true, ·))
  | .constant :: rest => some (.other true, rest)
  | .emptySet :: .mark '(' :: .mark ')' :: rest => some (.other false, rest)
  | .mark '(' :: rest =>
    match items rest with
    | some (⟨[], values, comma⟩, .mark ')' :: rest) =>
      match values, comma with
      | [value], false => some (value, rest)
      | _, _ => some (.other (values.all (·.isFixed)), rest)
    | _ => none
  | .mark '{' :: rest =>
    match items rest with
    | some (⟨keys, values, _⟩, .mark '}' :: rest) =>
      if (if keys.isEmpty then values else keys).all (·.isFixed)
        then some (.other false, rest) else none
    | _ => none
  | _ => none

/-- A value, perhaps with a sign or with an imaginary number after it. -/
def value? (items : Reading Items) (signs : List Sign) : Option (Shape × List Sign) := do
  let isSign (s : Option Sign) := s == some (.mark '+') || s == some (.mark '-')
  let first ←
    if isSign signs.head? then
      match ← simple? items (signs.drop 1) with
      | (.number imaginary, rest) => some (.signed imaginary, rest)
      | _ => none
    else simple? items signs
  if isSign first.2.head? then
    match first.1, ← simple? items (first.2.drop 1) with
    | .number false, (.number true, rest) | .signed false, (.number true, rest) =>
      if isSign rest.head? then none else some (Shape.other true, rest)
    | _, _ => none
  else some first

/-- Values with commas between them; with colons, if the first has one. -/
def items? : Nat → Option Bool → Reading Items
  | 0, _, _ => none
  | fuel + 1, paired, signs =>
    match signs.head? with
    | none | some (.mark ')') | some (.mark '}') | some .lineEnd => some ({}, signs)
    | _ => do
      let inner := items? fuel none
      let (first, rest) ← value? inner signs
      let isPair := rest.head? == some (.mark ':')
      if paired.any (· != isPair) then none
      let (keys, value, rest) ←
        if isPair then (value? inner (rest.drop 1)).map fun (v, rest) => ([first], v, rest)
          else some ([], first, rest)
      if rest.head? == some (.mark ',') then
        let (more, rest) ← items? fuel (some isPair) (rest.drop 1)
        return (⟨keys ++ more.keys, value :: more.values, more.endsInComma || more.values.isEmpty⟩,
          rest)
      else return (⟨keys, [value], false⟩, rest)

/-- Whether a text writes a value. -/
def isValue (text : List Char) : Bool :=
  let text := Text.unifyLineList (text.dropWhile fun c => c == ' ' || c == '\t')
  if text.contains (Char.ofNat 0) then false
  else match signs? (text.length + 1) 0 text with
    | none => false
    | some signs =>
      match items? (signs.length + 1) none (signs.dropWhile (· == .lineEnd)) with
      | some (⟨[], _ :: _, _⟩, rest) => rest.all (· == .lineEnd)
      | _ => false

/-! ### Arguments -/

/-- The part of a parameter that must write a value. Arguments stand in parentheses after a name; a
name alone has none. -/
def arguments (parameter : List Char) : List Char :=
  match parameter.dropWhile fun c => Text.isWordChar c || c == '.' with
  | [] => ['(', ')']
  | '(' :: rest =>
    if rest.getLast? == some ')' && !rest.contains '\n' then '(' :: rest else parameter
  | _ => parameter

example : arguments "app.bell(1)".toList = "(1)".toList := by decide +kernel
example : isValue "(1, 'a' \"b\", {-1: 2+3j})".toList = true := by decide +kernel
example : isValue "(x)".toList = false := by decide +kernel
example : isValue "{{1: 2}}".toList = false := by decide +kernel

end SceneCourse.Terminal.Parameter
