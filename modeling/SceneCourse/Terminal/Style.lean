import SceneCourse.Text.Letter
import SceneCourse.Number.Numeral

/-!
Styles of text on a terminal, as tags name them: features of its letters, a colour, a colour behind
the text, an address. Two spellings of one style have the same normal form.
-/

namespace SceneCourse.Terminal

/-! ### Colours -/

/-- The names of the colours of a terminal. -/
def colourNames : List String := [
  "aquamarine1", "aquamarine3", "black", "blue", "blue1", "blue3", "blue_violet", "bright_black",
    "bright_blue",
  "bright_cyan", "bright_green", "bright_magenta", "bright_red", "bright_white",
    "bright_yellow", "cadet_blue",
  "chartreuse1", "chartreuse2", "chartreuse3", "chartreuse4", "cornflower_blue", "cornsilk1",
    "cyan", "cyan1",
  "cyan2", "cyan3", "dark_blue", "dark_cyan", "dark_goldenrod", "dark_green", "dark_khaki",
    "dark_magenta",
  "dark_olive_green1", "dark_olive_green2", "dark_olive_green3", "dark_orange",
    "dark_orange3", "dark_red",
  "dark_sea_green", "dark_sea_green1", "dark_sea_green2", "dark_sea_green3", "dark_sea_green4",
    "dark_slate_gray1",
  "dark_slate_gray2", "dark_slate_gray3", "dark_turquoise", "dark_violet", "deep_pink1",
    "deep_pink2", "deep_pink3",
  "deep_pink4", "deep_sky_blue1", "deep_sky_blue2", "deep_sky_blue3", "deep_sky_blue4",
    "dodger_blue1",
  "dodger_blue2", "dodger_blue3", "gold1", "gold3", "gray0", "gray100", "gray11", "gray15",
    "gray19", "gray23",
  "gray27", "gray3", "gray30", "gray35", "gray37", "gray39", "gray42", "gray46", "gray50",
    "gray53", "gray54",
  "gray58", "gray62", "gray63", "gray66", "gray69", "gray7", "gray70", "gray74", "gray78",
    "gray82", "gray84",
  "gray85", "gray89", "gray93", "green", "green1", "green3", "green4", "green_yellow", "grey0",
    "grey100", "grey11",
  "grey15", "grey19", "grey23", "grey27", "grey3", "grey30", "grey35", "grey37", "grey39",
    "grey42", "grey46",
  "grey50", "grey53", "grey54", "grey58", "grey62", "grey63", "grey66", "grey69", "grey7",
    "grey70", "grey74",
  "grey78", "grey82", "grey84", "grey85", "grey89", "grey93", "honeydew2", "hot_pink",
    "hot_pink2", "hot_pink3",
  "indian_red", "indian_red1", "khaki1", "khaki3", "light_coral", "light_cyan1", "light_cyan3",
    "light_goldenrod1",
  "light_goldenrod2", "light_goldenrod3", "light_green", "light_pink1", "light_pink3",
    "light_pink4",
  "light_salmon1", "light_salmon3", "light_sea_green", "light_sky_blue1", "light_sky_blue3",
    "light_slate_blue",
  "light_slate_gray", "light_slate_grey", "light_steel_blue", "light_steel_blue1",
    "light_steel_blue3",
  "light_yellow3", "magenta", "magenta1", "magenta2", "magenta3", "medium_orchid", "medium_orchid1",
  "medium_orchid3", "medium_purple", "medium_purple1", "medium_purple2", "medium_purple3",
    "medium_purple4",
  "medium_spring_green", "medium_turquoise", "medium_violet_red", "misty_rose1", "misty_rose3",
    "navajo_white1",
  "navajo_white3", "navy_blue", "orange1", "orange3", "orange4", "orange_red1", "orchid",
    "orchid1", "orchid2",
  "pale_green1", "pale_green3", "pale_turquoise1", "pale_turquoise4", "pale_violet_red1", "pink1",
    "pink3", "plum1",
  "plum2", "plum3", "plum4", "purple", "purple3", "purple4", "red", "red1", "red3", "rosy_brown",
    "royal_blue1",
  "salmon1", "sandy_brown", "sea_green1", "sea_green2", "sea_green3", "sky_blue1",
    "sky_blue2", "sky_blue3",
  "slate_blue1", "slate_blue3", "spring_green1", "spring_green2", "spring_green3",
    "spring_green4", "steel_blue",
  "steel_blue1", "steel_blue3", "tan", "thistle1", "thistle3", "turquoise2", "turquoise4",
    "violet", "wheat1",
  "wheat4", "white", "yellow", "yellow1", "yellow2", "yellow3", "yellow4"]

def isHexDigit (c : Char) : Bool := c.isDigit || ('a' ≤ c && c ≤ 'f')

/-- What stands between a start and a closing parenthesis at the end. -/
def inParentheses? (start word : List Char) : Option (List Char) :=
  if start.isPrefixOf word && word.getLast? == some ')'
    then some ((word.drop start.length).dropLast) else none

/-- Whether a colour has the parts red, green and blue: three numbers up to 255. Each part must be a
number before their sizes count. -/
def isMixture (parts : List String) : Except Numeral.NoInteger Bool := do
  if parts.length != 3 then return false
  return (← parts.mapM Numeral.integer).all (· ≤ 255)

/-- Whether a word in lower case names a colour: by its name, its number, or its parts. -/
def isColour (word : String) : Except Numeral.NoInteger Bool :=
  let cs := word.toList
  let isHex := match cs with
    | '#' :: ds => ds.length == 6 && ds.all isHexDigit
    | _ => false
  let isNumbered := (inParentheses? "color(".toList cs).any fun ds =>
    ds.length ≤ 3 && !ds.isEmpty && ds.all Char.isDigit &&
      (Numeral.integer (.ofList ds)).toOption.any (· ≤ 255)
  if word == "default" || colourNames.contains word || isHex || isNumbered then .ok true
  else match inParentheses? "rgb(".toList cs with
    | some ds =>
      if !ds.isEmpty && ds.all fun c => Text.isDecimal c ||
        c == ',' then isMixture ((String.ofList ds).splitOn ",")
      else .ok false
    | none => .ok false

/-! ### Styles -/

/-- Features of letters in the order in which a style's normal form has them. -/
def features : List String :=
  ["bold", "dim", "italic", "underline", "blink", "blink2", "reverse", "conceal", "strike",
    "underline2", "frame",
    "encircle", "overline"]

/-- The feature that a word means. -/
def feature? (word : String) : Option String :=
  match word with
  | "d" => some "dim"
  | "b" => some "bold"
  | "i" => some "italic"
  | "u" => some "underline"
  | "r" => some "reverse"
  | "c" => some "conceal"
  | "s" => some "strike"
  | "uu" => some "underline2"
  | "o" => some "overline"
  | word => if features.contains word then some word else none

/-- A style. Of the same thing said twice the later one counts. -/
structure Style where
  marks : List (String × Bool) := []
  colour : Option String := none
  behind : Option String := none
  address : Option String := none

namespace Style

def mark (s : Style) (feature : String) (on : Bool) : Style :=
  { s with marks := (feature, on) :: s.marks }

/-- The style that words say after another one, if they say one. -/
def add (s : Style) : List String → Except Numeral.NoInteger (Option Style)
  | [] => return some s
  | [word] => do
    let w := Text.lower word
    if w == "on" || w == "not" || w == "link" then return none
    match feature? w with
    | some a => return some (s.mark a true)
    | none => return if ← isColour w then some { s with colour := some w } else none
  | word :: next :: rest =>
    match Text.lower word with
    | "on" => do
      let colour := Text.lower next
      if ← isColour colour then add { s with behind := some colour } rest else return none
    | "not" =>
      match feature? next with
      | some a => add (s.mark a false) rest
      | none => return none
    | "link" => add { s with address := some next } rest
    | w =>
      match feature? w with
      | some a => add (s.mark a true) (next :: rest)
      | none =>
        do if ← isColour w then add { s with colour := some w } (next :: rest) else return none

/-- The words of the normal form. -/
def words (s : Style) : List String :=
  (features.filterMap fun a => (s.marks.lookup a).map fun on => if on then a else "not " ++ a) ++
    s.colour.toList ++
    (s.behind.map ("on " ++ ·)).toList ++ (s.address.map ("link " ++ ·)).toList

def text (s : Style) : String := if s.words.isEmpty then "none" else " ".intercalate s.words

end Style

/-- The words of a text between blanks. -/
def blankWords (s : String) : List String :=
  ((String.ofList (s.toList.map fun c => if Text.isBlank c then ' ' else c)).splitOn " ").filter
    (· != "")

/-- The style that a name says. -/
def style? (name : String) : Except Numeral.NoInteger (Option Style) :=
  if name == "" || Text.strip name == "none" then .ok (some {}) else Style.add {} (blankWords name)

/-- The normal form of a style's name; a name that says no style is compared in lower case. -/
def styleName (name : String) : Except Numeral.NoInteger String := do
  return match ← style? name with
    | some s => s.text
    | none => Text.lower (Text.strip name)

end SceneCourse.Terminal
