import SceneCourse.Value.Moment

/-!
Moments as they are written in YAML: a day, or a day and a time with an optional fraction of a
second and an optional zone. `looksLike` knows the texts that are moments without a tag; a tag
allows days of one digit, too.
-/

namespace SceneCourse.Yaml.Timestamp

def digitsValue (ds : List Char) : Nat := ds.foldl (fun n d => 10 * n + (d.toNat - 48)) 0

/-- A number of `least` to `most` digits, as many as there are, and what follows. -/
def number (least most : Nat) (cs : List Char) : Option (Nat × List Char) :=
  let ds := (cs.take most).takeWhile Char.isDigit
  if ds.length < least then none else some (digitsValue ds, cs.drop ds.length)

/-- What follows a character. -/
def after? (c : Char) : List Char → Option (List Char)
  | d :: cs => if d == c then some cs else none
  | [] => none

def isWhite (c : Char) : Bool := c == ' ' || c == '\t'

/-- A day whose month and day have at least so many digits. -/
def day (least : Nat) (cs : List Char) : Option (Day × List Char) := do
  let (year, cs) ← number 4 4 cs
  let (month, cs) ← number least 2 (← after? '-' cs)
  let (day, cs) ← number least 2 (← after? '-' cs)
  return (⟨year, month, day⟩, cs)

/-- What follows the mark between day and time: a letter, or blanks. -/
def afterMark? : List Char → Option (List Char)
  | 'T' :: cs | 't' :: cs => some cs
  | c :: cs => if isWhite c then some (cs.dropWhile isWhite) else none
  | [] => none

/-- A fraction of a second in microseconds; further digits are dropped. -/
def fraction : List Char → Nat × List Char
  | '.' :: cs =>
    let ds := cs.takeWhile Char.isDigit
    (digitsValue ((ds ++ List.replicate 6 '0').take 6), cs.drop ds.length)
  | cs => (0, cs)

def time (cs : List Char) : Option (DayTime × List Char) := do
  let (hour, cs) ← number 1 2 cs
  let (minute, cs) ← number 2 2 (← after? ':' cs)
  let (second, cs) ← number 2 2 (← after? ':' cs)
  let (micro, cs) := fraction cs
  return (⟨hour, minute, second, micro⟩, cs)

/-- The minutes of a zone after its sign, up to the end of the text. -/
def zoneMinutes (cs : List Char) : Option Nat := do
  let (hours, cs) ← number 1 2 cs
  match cs with
  | [] => return hours * 60
  | cs =>
    let (minutes, cs) ← number 2 2 (← after? ':' cs)
    if cs.isEmpty then return hours * 60 + minutes else none

/-- The zone at the end of a text, which may be left out. Blanks may stand before a zone, but not
alone. -/
def zone (cs : List Char) : Option (Option Int) :=
  if cs.isEmpty then some none
  else match cs.dropWhile isWhite with
    | ['Z'] => some (some 0)
    | '+' :: cs => (zoneMinutes cs).map fun m => some (m : Int)
    | '-' :: cs => (zoneMinutes cs).map fun m => some (-(m : Int))
    | _ => none

/-- The moment that a text writes, with at least so many digits in month and day. -/
def read? (least : Nat) (cs : List Char) : Option Moment := do
  let (d, cs) ← day least cs
  if cs.isEmpty then return .day d
  let (t, cs) ← time (← afterMark? cs)
  return .time d t (← zone cs)

/-- Whether a text is a moment without a tag: a day alone needs all its digits. -/
def looksLike (cs : List Char) : Bool :=
  match read? 1 cs with
  | some (.day _) => (read? 2 cs).isSome
  | some _ => true
  | none => false

example : looksLike "2001-1-2".toList = false := by decide +kernel
example : looksLike "2001-1-2 3:04:05.6 -5:30".toList = true := by decide +kernel
example : (read? 1 "2001-1-2t3:04:05.67Z".toList).map
    (·.text " ") = some "2001-01-02 03:04:05.670000+00:00" := by
  decide +kernel

end SceneCourse.Yaml.Timestamp
