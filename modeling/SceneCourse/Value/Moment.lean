/-!
Days of the calendar, and moments: a day with a time, and perhaps the distance to the common clock.
Two moments with a distance are the same when the common clock shows the same time; a day is never a
moment.
-/

namespace SceneCourse

/-- A day of the Gregorian calendar, also before that was in use. -/
structure Day where
  year : Nat
  month : Nat
  day : Nat
  deriving DecidableEq, Repr

/-- A time of a day, with microseconds. -/
structure DayTime where
  hour : Nat
  minute : Nat
  second : Nat
  micro : Nat
  deriving DecidableEq, Repr

inductive Moment where
  | day (d : Day)
  /-- The offset tells by how many minutes the clock is ahead of the common one. -/
  | time (d : Day) (t : DayTime) (offset : Option Int)
  deriving DecidableEq, Repr

namespace Day

def isLeap (year : Nat) : Bool := year % 4 == 0 && (year % 100 != 0 || year % 400 == 0)

def monthLength (year month : Nat) : Nat :=
  if month == 2 then if isLeap year then 29 else 28
  else if [4, 6, 9, 11].contains month then 30
  else 31

/-- The days before a day, from the first day of the year 1 on. -/
def ordinal (d : Day) : Nat :=
  let y := d.year - 1
  let earlier := (List.range (d.month - 1)).foldl (fun n m => n + monthLength d.year (m + 1)) 0
  365 * y + y / 4 - y / 100 + y / 400 + earlier + (d.day - 1)

example : ordinal ⟨1, 1, 1⟩ = 0 := by decide
example : ordinal ⟨2000, 3, 1⟩ = ordinal ⟨2000, 2, 29⟩ + 1 := by decide +kernel
example : ordinal ⟨2001, 1, 1⟩ = ordinal ⟨2000, 12, 31⟩ + 1 := by decide +kernel

end Day

/-- A number with zeros in front up to a width. -/
def padded (width n : Nat) : String :=
  let digits := toString n
  String.ofList (List.replicate (width - digits.length) '0') ++ digits

namespace Moment

/-- The microseconds on a clock from the first day of the year 1 on. -/
def ticks (d : Day) (t : DayTime) : Int :=
  ((((d.ordinal * 24 + t.hour) * 60 + t.minute) * 60 + t.second) * 1000000 + t.micro : Nat)

/-- The same day, the same time on unknown clocks, or the same time on the common clock. -/
def same : Moment → Moment → Bool
  | .day d, .day e => d == e
  | .time d s none, .time e t none => d == e && s == t
  | .time d s (some a), .time e t (some b) => ticks d s - a * 60000000 == ticks e t - b * 60000000
  | _, _ => false

/-- The name of a moment's kind, as messages give it. -/
def kindName : Moment → String
  | .day _ => "date"
  | .time .. => "datetime"

/-! ### Limits -/

/-- What a moment cannot have. -/
inductive Impossible where
  | year
  | month
  | day
  | hour
  | minute
  | second
  /-- A clock that is a whole day ahead of the common one, or behind it. -/
  | offset (minutes : Int)
  deriving DecidableEq, Repr

def impossibleDay? (d : Day) : Option Impossible :=
  if d.year = 0 then some .year
  else if d.month = 0 || 12 < d.month then some .month
  else if d.day = 0 || Day.monthLength d.year d.month < d.day then some .day
  else none

def impossibleTime? (t : DayTime) : Option Impossible :=
  if 23 < t.hour then some .hour
  else if 59 < t.minute then some .minute
  else if 59 < t.second then some .second
  else none

/-- The first thing about a moment that cannot be: its offset, then its day, then its time. -/
def impossible? : Moment → Option Impossible
  | .day d => impossibleDay? d
  | .time d t offset =>
    match offset with
    | some m =>
      if 1440 ≤ m.natAbs then some (.offset m) else (impossibleDay? d).or (impossibleTime? t)
    | none => (impossibleDay? d).or (impossibleTime? t)

/-! ### Texts -/

def dayText (d : Day) : String := s!"{padded 4 d.year}-{padded 2 d.month}-{padded 2 d.day}"

def timeText (t : DayTime) : String :=
  s!"{padded 2 t.hour}:{padded 2 t.minute}:{padded 2 t.second}" ++
    if t.micro == 0 then "" else "." ++ padded 6 t.micro

def offsetText (minutes : Int) : String :=
  (if minutes < 0 then "-" else "+") ++
    s!"{padded 2 (minutes.natAbs / 60)}:{padded 2 (minutes.natAbs % 60)}"

/-- The text of a moment, with a separator between day and time. -/
def text (separator : String) : Moment → String
  | .day d => dayText d
  | .time d t offset => dayText d ++ separator ++ timeText t ++ (offset.map offsetText).getD ""

/-- A span of minutes as a literal: whole days, which may be negative, and the seconds after
them. -/
def spanLiteral (minutes : Int) : String :=
  let days := Int.fdiv minutes 1440
  let seconds := Int.fmod minutes 1440 * 60
  let parts := (if days == 0 then [] else [s!"days={days}"]) ++
    (if seconds == 0 then [] else [s!"seconds={seconds}"])
  "datetime.timedelta(" ++ (if parts.isEmpty then "0" else ", ".intercalate parts) ++ ")"

def offsetLiteral (minutes : Int) : String :=
  if minutes == 0 then "datetime.timezone.utc" else s!"datetime.timezone({spanLiteral minutes})"

def Impossible.message : Impossible → String
  | .year => "year 0 is out of range"
  | .month => "month must be in 1..12"
  | .day => "day is out of range for month"
  | .hour => "hour must be in 0..23"
  | .minute => "minute must be in 0..59"
  | .second => "second must be in 0..59"
  | .offset minutes =>
    "offset must be a timedelta strictly between -timedelta(hours=24) and timedelta(hours=24), not " ++
      spanLiteral minutes ++ "."

/-- The moment as it stands inside a list. Seconds and microseconds are left out at the end when
they are zero. -/
def literal : Moment → String
  | .day d => s!"datetime.date({d.year}, {d.month}, {d.day})"
  | .time d t offset =>
    let fine := if t.micro != 0 then [t.second, t.micro] else if t.second != 0
      then [t.second] else []
    let numbers := ([d.year, d.month, d.day, t.hour, t.minute] ++ fine).map toString
    let zone := (offset.map fun m => "tzinfo=" ++ offsetLiteral m).toList
    "datetime.datetime(" ++ ", ".intercalate (numbers ++ zone) ++ ")"

example : (Moment.day ⟨2001, 1, 1⟩).literal = "datetime.date(2001, 1, 1)" := by decide +kernel
example : spanLiteral (-300) = "datetime.timedelta(days=-1, seconds=68400)" := by decide +kernel

end Moment

end SceneCourse
