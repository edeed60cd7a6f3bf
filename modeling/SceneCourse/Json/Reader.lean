import SceneCourse.Number.Numeral
import SceneCourse.Value.Basic

/-!
Reading JSON text. Beside the standard form, `NaN`, `Infinity` and `-Infinity` are numbers. Of a key
written twice the last value counts, at the place of the first. A number with a fraction or an
exponent is a binary64 number, any other an integer; every `NaN` is the same thing, with the name 1.
A half of a surrogate pair that stands alone reads as U+FFFD, or is refused where `pairs` asks for
whole pairs. `Rules` tell the two readers apart that a program needs: one for documents, one for
records.
-/

namespace SceneCourse.Json

/-- Why a text gives no value. -/
inductive Refusal where
  | syntaxError
  | badInteger (cause : Numeral.NoInteger)
  deriving DecidableEq, Repr

structure Rules where
  /-- Whether a half of a surrogate pair is refused when it stands alone. -/
  pairs : Bool
  /-- How many lists and mappings that are not empty may stand inside each other. -/
  depth : Option Nat
  /-- Whether the digits before a point are limited as those of integers are, so that longer ones
  are no number. -/
  strict : Bool

/-- How documents are read. -/
def Rules.documents : Rules := ⟨false, none, false⟩

/-- How records are read. -/
def Rules.records : Rules := ⟨true, some 200, true⟩

def isSpace (c : Char) : Bool := c == ' ' || c == '\t' || c == '\n' || c == '\r'

def skipSpace (cs : List Char) : List Char := cs.dropWhile isSpace

def hexValue? (c : Char) : Option Nat :=
  let n := c.toNat
  if 48 ≤ n && n ≤ 57 then some (n - 48)
  else if 97 ≤ n && n ≤ 102 then some (n - 87)
  else if 65 ≤ n && n ≤ 70 then some (n - 55)
  else none

def unit? (a b c d : Char) : Option Nat := do
  some (4096 * (← hexValue? a) + 256 * (← hexValue? b) + 16 * (← hexValue? c) + (← hexValue? d))

def isLead (n : Nat) : Bool := 0xd800 ≤ n && n ≤ 0xdbff

def isTrail (n : Nat) : Bool := 0xdc00 ≤ n && n ≤ 0xdfff

/-- The character of a one-letter escape. -/
def shortEscape? : Char → Option Char
  | '"' => some '"'
  | '\\' => some '\\'
  | '/' => some '/'
  | 'b' => some '\x08'
  | 'f' => some '\x0c'
  | 'n' => some '\n'
  | 'r' => some '\r'
  | 't' => some '\t'
  | _ => none

/-- The characters of a text up to its closing mark, and what follows. `lead` is a first half that
waits for its second. -/
def stringBody (pairs : Bool) (lead : Option Nat) : List Char → Option (List Char × List Char)
  | '\\' :: 'u' :: a :: b :: c :: d :: rest => do
    let n ← unit? a b c d
    match lead with
    | some high =>
      if isTrail n then
        let (cs, rest) ← stringBody pairs none rest
        some (Char.ofNat (0x10000 + (high - 0xd800) * 0x400 + (n - 0xdc00)) :: cs, rest)
      else if pairs then none
      else if isLead n then
        let (cs, rest) ← stringBody pairs (some n) rest
        some ('\ufffd' :: cs, rest)
      else
        let (cs, rest) ← stringBody pairs none rest
        some ('\ufffd' :: Char.ofNat n :: cs, rest)
    | none =>
      if isLead n then stringBody pairs (some n) rest
      else if isTrail n then
        if pairs then none
        else
          let (cs, rest) ← stringBody pairs none rest
          some ('\ufffd' :: cs, rest)
      else
        let (cs, rest) ← stringBody pairs none rest
        some (Char.ofNat n :: cs, rest)
  | '\\' :: c :: rest =>
    if lead.isSome && pairs then none
    else do
      let e ← shortEscape? c
      let (cs, rest) ← stringBody pairs none rest
      some ((if lead.isSome then ['\ufffd', e] else [e]) ++ cs, rest)
  | '"' :: rest =>
    match lead with
    | none => some ([], rest)
    | some _ => if pairs then none else some (['\ufffd'], rest)
  | c :: rest =>
    if c == '\\' || c.toNat < 32 || (lead.isSome && pairs) then none
    else do
      let (cs, rest) ← stringBody pairs none rest
      some ((if lead.isSome then ['\ufffd', c] else [c]) ++ cs, rest)
  | [] => none

def digitRun (cs : List Char) : List Char × List Char :=
  (cs.takeWhile Char.isDigit, cs.dropWhile Char.isDigit)

/-- The value of a row of digits `0` to `9`. -/
def naturalOf (ds : List Char) : Nat := ds.foldl (fun n d => 10 * n + (d.toNat - 48)) 0

/-- The digits after a point, if the text goes on with a point and a digit. -/
def fraction (cs : List Char) : List Char × List Char :=
  match cs with
  | '.' :: rest => match digitRun rest with
    | ([], _) => ([], cs)
    | (ds, rest) => (ds, rest)
  | _ => ([], cs)

/-- The exponent, if the text goes on with one. -/
def exponent (cs : List Char) : Option Int × List Char :=
  match cs with
  | c :: rest =>
    if c == 'e' || c == 'E' then
      let (negative, rest) := match rest with
        | '-' :: r => (true, r)
        | '+' :: r => (false, r)
        | r => (false, r)
      match digitRun rest with
      | ([], _) => (none, cs)
      | (ds, rest) => (some (if negative then -(naturalOf ds : Int) else naturalOf ds), rest)
    else (none, cs)
  | [] => (none, cs)

/-- The digits before the point. A zero at the head stands alone. -/
def wholePart : List Char → List Char × List Char
  | '0' :: rest => (['0'], rest)
  | cs => digitRun cs

/-- A number without its sign. -/
def readNumber (rules : Rules) (negative : Bool) (cs : List Char) :
    Except Refusal (Value × List Char) :=
  let (whole, rest) := wholePart cs
  if whole.isEmpty || rules.strict && Numeral.mostDigits < whole.length then .error .syntaxError
  else
    let (decimals, rest) := fraction rest
    let (power, rest) := exponent rest
    if decimals.isEmpty && power.isNone then
      if Numeral.mostDigits < whole.length then .error (.badInteger (.tooLong whole.length))
      else
        let n : Int := naturalOf whole
        .ok (.int (if negative then -n else n), rest)
    else
      let digits := naturalOf (whole ++ decimals)
      .ok (.float (.ofDecimal negative digits (power.getD 0 - decimals.length)), rest)

/-- The depth that is left inside a list or a mapping that is not empty. -/
def deeper : Option Nat → Except Refusal (Option Nat)
  | none => .ok none
  | some 0 => .error .syntaxError
  | some (n + 1) => .ok (some n)

def readText (pairs : Bool) (cs : List Char) : Except Refusal (String × List Char) :=
  match stringBody pairs none cs with
  | some (s, rest) => .ok (.ofList s, rest)
  | none => .error .syntaxError

mutual

def readValue (rules : Rules) (depth : Option Nat) :
    Nat → List Char → Except Refusal (Value × List Char)
  | 0, _ => .error .syntaxError
  | fuel + 1, cs =>
    match cs with
    | '"' :: rest => (readText rules.pairs rest).map fun (s, rest) => (.str s, rest)
    | '[' :: rest =>
      match skipSpace rest with
      | ']' :: rest => .ok (.ofList [], rest)
      | rest => do
        let (xs, rest) ← readItems rules (← deeper depth) fuel rest
        return (.ofList xs, rest)
    | '\x7b' :: rest =>
      match skipSpace rest with
      | '\x7d' :: rest => .ok (.emptyMap, rest)
      | rest => do readMembers rules (← deeper depth) fuel [] rest
    | 'n' :: 'u' :: 'l' :: 'l' :: rest => .ok (.null, rest)
    | 't' :: 'r' :: 'u' :: 'e' :: rest => .ok (.bool true, rest)
    | 'f' :: 'a' :: 'l' :: 's' :: 'e' :: rest => .ok (.bool false, rest)
    | 'N' :: 'a' :: 'N' :: rest => .ok (.float (.nan 1), rest)
    | 'I' :: 'n' :: 'f' :: 'i' :: 'n' :: 'i' :: 't' :: 'y' :: rest =>
      .ok (.float (.infinite false), rest)
    | '-' :: 'I' :: 'n' :: 'f' :: 'i' :: 'n' :: 'i' :: 't' :: 'y' :: rest =>
      .ok (.float (.infinite true), rest)
    | '-' :: rest => readNumber rules true rest
    | rest => readNumber rules false rest

/-- The items from the next one on, up to the closing bracket. -/
def readItems (rules : Rules) (depth : Option Nat) :
    Nat → List Char → Except Refusal (List Value × List Char)
  | 0, _ => .error .syntaxError
  | fuel + 1, cs => do
    let (x, rest) ← readValue rules depth fuel cs
    match skipSpace rest with
    | ',' :: rest =>
      let (xs, rest) ← readItems rules depth fuel (skipSpace rest)
      return (x :: xs, rest)
    | ']' :: rest => return ([x], rest)
    | _ => .error .syntaxError

/-- The members from the next one on, up to the closing brace, added to those before. -/
def readMembers (rules : Rules) (depth : Option Nat) :
    Nat → Entries Value → List Char → Except Refusal (Value × List Char)
  | 0, _, _ => .error .syntaxError
  | fuel + 1, es, cs => do
    match cs with
    | '"' :: rest =>
      let (name, rest) ← readText rules.pairs rest
      match skipSpace rest with
      | ':' :: rest =>
        let (v, rest) ← readValue rules depth fuel (skipSpace rest)
        let es := es.set (.str name) v
        match skipSpace rest with
        | ',' :: rest => readMembers rules depth fuel es (skipSpace rest)
        | '\x7d' :: rest => return (.ofEntries es, rest)
        | _ => .error .syntaxError
      | _ => .error .syntaxError
    | _ => .error .syntaxError

end

/-- The value that a whole text writes. Two steps for every character are more than enough. -/
def parse (rules : Rules) (text : String) : Except Refusal Value := do
  let cs := text.toList
  let (v, rest) ← readValue rules rules.depth (2 * cs.length + 2) (skipSpace cs)
  if (skipSpace rest).isEmpty then return v else .error .syntaxError

end SceneCourse.Json
