import Scaffold.Text.Blank
import Scaffold.Text.Case
import Scaffold.Text.Numeral

/-!
# Styles

A style says how a text is shown: in bold, in a colour, on a background. Its parts are written as
words in any order; attributes have short names as well. Styles are never seen here, for the console
has no colours, but a tag that closes a style has to name the one that was opened.

* `Style.ofWords?`: the style that some words write.
* `Style.describe`: the words for a style, in a fixed order.
* `normalStyle`: one text for all the ways to write a style.
-/

namespace Scaffold.Console

/-! ## Attributes -/

/-- The attributes of a text, in the order in which they are written. -/
def attributeNames : List String :=
  ["bold", "dim", "italic", "underline", "blink", "blink2", "reverse", "conceal", "strike",
    "underline2", "frame", "encircle", "overline"]

/-- The short names of attributes. -/
def shortNames : List (String × String) :=
  [("d", "dim"), ("b", "bold"), ("i", "italic"), ("u", "underline"), ("r", "reverse"),
    ("c", "conceal"), ("s", "strike"), ("uu", "underline2"), ("o", "overline")]

/-- The attribute of a name. -/
def attribute? (word : String) : Option String :=
  if word ∈ attributeNames then some word else shortNames.lookup word

/-! ## Colours -/

/-- The colours that have names. -/
def colourNames : List String :=
  ["black", "red", "green", "yellow", "blue", "magenta", "cyan", "white", "bright_black",
    "bright_red", "bright_green", "bright_yellow", "bright_blue", "bright_magenta", "bright_cyan",
    "bright_white", "grey0", "gray0", "navy_blue", "dark_blue", "blue3", "blue1", "dark_green",
    "deep_sky_blue4", "dodger_blue3", "dodger_blue2", "green4", "spring_green4", "turquoise4",
    "deep_sky_blue3", "dodger_blue1", "green3", "spring_green3", "dark_cyan", "light_sea_green",
    "deep_sky_blue2", "deep_sky_blue1", "spring_green2", "cyan3", "dark_turquoise", "turquoise2",
    "green1", "spring_green1", "medium_spring_green", "cyan2", "cyan1", "dark_red", "deep_pink4",
    "purple4", "purple3", "blue_violet", "orange4", "grey37", "gray37", "medium_purple4",
    "slate_blue3", "royal_blue1", "chartreuse4", "dark_sea_green4", "pale_turquoise4", "steel_blue",
    "steel_blue3", "cornflower_blue", "chartreuse3", "cadet_blue", "sky_blue3", "steel_blue1",
    "pale_green3", "sea_green3", "aquamarine3", "medium_turquoise", "chartreuse2", "sea_green2",
    "sea_green1", "aquamarine1", "dark_slate_gray2", "dark_magenta", "dark_violet", "purple",
    "light_pink4", "plum4", "medium_purple3", "slate_blue1", "yellow4", "wheat4", "grey53",
    "gray53", "light_slate_grey", "light_slate_gray", "medium_purple", "light_slate_blue",
    "dark_olive_green3", "dark_sea_green", "light_sky_blue3", "sky_blue2", "dark_sea_green3",
    "dark_slate_gray3", "sky_blue1", "chartreuse1", "light_green", "pale_green1",
    "dark_slate_gray1", "red3", "medium_violet_red", "magenta3", "dark_orange3", "indian_red",
    "hot_pink3", "medium_orchid3", "medium_orchid", "medium_purple2", "dark_goldenrod",
    "light_salmon3", "rosy_brown", "grey63", "gray63", "medium_purple1", "gold3", "dark_khaki",
    "navajo_white3", "grey69", "gray69", "light_steel_blue3", "light_steel_blue", "yellow3",
    "dark_sea_green2", "light_cyan3", "light_sky_blue1", "green_yellow", "dark_olive_green2",
    "dark_sea_green1", "pale_turquoise1", "deep_pink3", "magenta2", "hot_pink2", "orchid",
    "medium_orchid1", "orange3", "light_pink3", "pink3", "plum3", "violet", "light_goldenrod3",
    "tan", "misty_rose3", "thistle3", "plum2", "khaki3", "light_goldenrod2", "light_yellow3",
    "grey84", "gray84", "light_steel_blue1", "yellow2", "dark_olive_green1", "honeydew2",
    "light_cyan1", "red1", "deep_pink2", "deep_pink1", "magenta1", "orange_red1", "indian_red1",
    "hot_pink", "dark_orange", "salmon1", "light_coral", "pale_violet_red1", "orchid2", "orchid1",
    "orange1", "sandy_brown", "light_salmon1", "light_pink1", "pink1", "plum1", "gold1",
    "navajo_white1", "misty_rose1", "thistle1", "yellow1", "light_goldenrod1", "khaki1", "wheat1",
    "cornsilk1", "grey100", "gray100", "grey3", "gray3", "grey7", "gray7", "grey11", "gray11",
    "grey15", "gray15", "grey19", "gray19", "grey23", "gray23", "grey27", "gray27", "grey30",
    "gray30", "grey35", "gray35", "grey39", "gray39", "grey42", "gray42", "grey46", "gray46",
    "grey50", "gray50", "grey54", "gray54", "grey58", "gray58", "grey62", "gray62", "grey66",
    "gray66", "grey70", "gray70", "grey74", "gray74", "grey78", "gray78", "grey82", "gray82",
    "grey85", "gray85", "grey89", "gray89", "grey93", "gray93"]

/-- A digit of a colour written in base sixteen. -/
def isColourDigit (c : Char) : Bool :=
  c.isDigit || ('a' ≤ c && c ≤ 'f')

/-- What stands between a word with a bracket and a closing bracket at the end. -/
def inBrackets? (word : String) (cs : List Char) : Option (List Char) :=
  let opening := word.toList ++ ['(']
  if opening.isPrefixOf cs && cs.getLast? = some ')' then
    some ((cs.drop opening.length).dropLast)
  else none

/-- A number of a palette of two hundred and fifty-six colours. -/
def isPaletteNumber (cs : List Char) : Bool :=
  cs ≠ [] && cs.all Char.isDigit && cs.length ≤ 3 &&
    ((String.ofList cs).toNat?.any (· ≤ 255))

/-- The strength of a primary colour. -/
def isStrength (s : String) : Bool :=
  s != "" && s.toList.all Char.isDigit && s.toNat?.any (· ≤ 255)

/-- A word in small letters is a colour: a name, six digits of base sixteen, the number of a
palette, or the strengths of three primary colours. -/
def isColour (word : String) : Bool :=
  word == "default" || word ∈ colourNames ||
    match word.toList, inBrackets? "color" word.toList, inBrackets? "rgb" word.toList with
    | '#' :: ds, _, _ => ds.length == 6 && ds.all isColourDigit
    | _, some ds, _ => isPaletteNumber ds
    | _, _, some cs =>
      let strengths := (String.ofList cs).splitOn ","
      strengths.length == 3 && strengths.all isStrength
    | _, _, _ => false

/-! ## Styles -/

/-- How a text is shown. An attribute may be asked for or ruled out. -/
structure Style where
  attributes : List (String × Bool) := []
  colour : Option String := none
  background : Option String := none
  link : Option String := none
  deriving DecidableEq, Repr

namespace Style

/-- A style with an attribute asked for or ruled out. -/
def setAttribute (s : Style) (name : String) (wanted : Bool) : Style :=
  { s with attributes := (name, wanted) :: s.attributes }

/-- A style with the parts that some words write, if they write any. -/
def addWords? (s : Style) : List String → Option Style
  | [] => some s
  | w :: ws =>
    match Text.toLower w, ws with
    | "on", [] | "not", [] | "link", [] => none
    | "on", b :: ws =>
      let colour := Text.toLower b
      if isColour colour then addWords? { s with background := some colour } ws else none
    | "not", a :: ws => do addWords? (s.setAttribute (← attribute? a) false) ws
    | "link", l :: ws => addWords? { s with link := some l } ws
    | w, ws =>
      match attribute? w with
      | some a => addWords? (s.setAttribute a true) ws
      | none => if isColour w then addWords? { s with colour := some w } ws else none

/-- The style that some words write. A single `none` writes the style that changes nothing. -/
def ofWords? (words : List String) : Option Style :=
  if words = ["none"] then some {} else addWords? {} words

/-- The words for a style. -/
def describe (s : Style) : String :=
  let attributes := attributeNames.filterMap fun a =>
    (s.attributes.lookup a).map fun wanted => if wanted then a else "not " ++ a
  let words := attributes ++ s.colour.toList ++ (s.background.map ("on " ++ ·)).toList ++
    (s.link.map ("link " ++ ·)).toList
  if words = [] then "none" else " ".intercalate words

end Style

/-- The words of a text between blanks. -/
def wordsOf (s : String) : List String :=
  ((s.toList.splitOnP Text.isBlank).filter (· ≠ [])).map String.ofList

/-- One text for all the ways to write a style. What writes no style stands for itself, in small
letters. -/
def normalStyle (s : String) : String :=
  match Style.ofWords? (wordsOf s) with
  | some style => style.describe
  | none => Text.toLower (Text.strip s)

end Scaffold.Console
