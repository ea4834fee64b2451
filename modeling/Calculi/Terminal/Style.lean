import Calculi.Entries
import Calculi.Text.Blank
import Calculi.Text.Casing
import Calculi.Text.Split

/-!
Names of styles. Two names that set the same attributes and colours have one normal form, which is how a
closing tag finds the tag it closes. Words that set nothing known are compared as they are written.
-/
namespace Calculi.Terminal

open Text

def colorNames : List String := [
  "aquamarine1", "aquamarine3", "black", "blue", "blue1", "blue3", "blue_violet", "bright_black", "bright_blue",
  "bright_cyan", "bright_green", "bright_magenta", "bright_red", "bright_white", "bright_yellow", "cadet_blue",
  "chartreuse1", "chartreuse2", "chartreuse3", "chartreuse4", "cornflower_blue", "cornsilk1", "cyan", "cyan1",
  "cyan2", "cyan3", "dark_blue", "dark_cyan", "dark_goldenrod", "dark_green", "dark_khaki", "dark_magenta",
  "dark_olive_green1", "dark_olive_green2", "dark_olive_green3", "dark_orange", "dark_orange3", "dark_red",
  "dark_sea_green", "dark_sea_green1", "dark_sea_green2", "dark_sea_green3", "dark_sea_green4", "dark_slate_gray1",
  "dark_slate_gray2", "dark_slate_gray3", "dark_turquoise", "dark_violet", "deep_pink1", "deep_pink2",
  "deep_pink3", "deep_pink4", "deep_sky_blue1", "deep_sky_blue2", "deep_sky_blue3", "deep_sky_blue4",
  "dodger_blue1", "dodger_blue2", "dodger_blue3", "gold1", "gold3", "gray0", "gray100", "gray11", "gray15",
  "gray19", "gray23", "gray27", "gray3", "gray30", "gray35", "gray37", "gray39", "gray42", "gray46", "gray50",
  "gray53", "gray54", "gray58", "gray62", "gray63", "gray66", "gray69", "gray7", "gray70", "gray74", "gray78",
  "gray82", "gray84", "gray85", "gray89", "gray93", "green", "green1", "green3", "green4", "green_yellow", "grey0",
  "grey100", "grey11", "grey15", "grey19", "grey23", "grey27", "grey3", "grey30", "grey35", "grey37", "grey39",
  "grey42", "grey46", "grey50", "grey53", "grey54", "grey58", "grey62", "grey63", "grey66", "grey69", "grey7",
  "grey70", "grey74", "grey78", "grey82", "grey84", "grey85", "grey89", "grey93", "honeydew2", "hot_pink",
  "hot_pink2", "hot_pink3", "indian_red", "indian_red1", "khaki1", "khaki3", "light_coral", "light_cyan1",
  "light_cyan3", "light_goldenrod1", "light_goldenrod2", "light_goldenrod3", "light_green", "light_pink1",
  "light_pink3", "light_pink4", "light_salmon1", "light_salmon3", "light_sea_green", "light_sky_blue1",
  "light_sky_blue3", "light_slate_blue", "light_slate_gray", "light_slate_grey", "light_steel_blue",
  "light_steel_blue1", "light_steel_blue3", "light_yellow3", "magenta", "magenta1", "magenta2", "magenta3",
  "medium_orchid", "medium_orchid1", "medium_orchid3", "medium_purple", "medium_purple1", "medium_purple2",
  "medium_purple3", "medium_purple4", "medium_spring_green", "medium_turquoise", "medium_violet_red",
  "misty_rose1", "misty_rose3", "navajo_white1", "navajo_white3", "navy_blue", "orange1", "orange3", "orange4",
  "orange_red1", "orchid", "orchid1", "orchid2", "pale_green1", "pale_green3", "pale_turquoise1",
  "pale_turquoise4", "pale_violet_red1", "pink1", "pink3", "plum1", "plum2", "plum3", "plum4", "purple", "purple3",
  "purple4", "red", "red1", "red3", "rosy_brown", "royal_blue1", "salmon1", "sandy_brown", "sea_green1",
  "sea_green2", "sea_green3", "sky_blue1", "sky_blue2", "sky_blue3", "slate_blue1", "slate_blue3", "spring_green1",
  "spring_green2", "spring_green3", "spring_green4", "steel_blue", "steel_blue1", "steel_blue3", "tan", "thistle1",
  "thistle3", "turquoise2", "turquoise4", "violet", "wheat1", "wheat4", "white", "yellow", "yellow1", "yellow2",
  "yellow3", "yellow4"]

def attributeNames : List (String × List String) := [
  ("bold", ["b"]), ("dim", ["d"]), ("italic", ["i"]), ("underline", ["u"]), ("blink", []), ("blink2", []),
  ("reverse", ["r"]), ("conceal", ["c"]), ("strike", ["s"]), ("underline2", ["uu"]), ("frame", []),
  ("encircle", []), ("overline", ["o"])]

def attribute? (word : String) : Option String :=
  (attributeNames.find? fun (name, others) => name = word || others.contains word).map (·.1)

def isByte (digits : List Char) : Bool :=
  !digits.isEmpty && digits.all Char.isDigit && digits.foldl (fun n c => 10 * n + (c.toNat - '0'.toNat)) 0 ≤ 255

def isHexDigit (c : Char) : Bool :=
  c.isDigit || ('a' ≤ c && c ≤ 'f')

def between? (opening closing : String) (cs : List Char) : Option (List Char) := do
  let rest ← opening.toList.isPrefixOf? cs
  let inner ← closing.toList.reverse.isPrefixOf? rest.reverse
  return inner.reverse

/-- A colour by its name, by its six hexadecimal digits, by its number, or by its three parts. -/
def isColor (word : String) : Bool :=
  word = "default" || colorNames.contains word ||
    (match word.toList with
      | '#' :: digits => digits.length = 6 && digits.all isHexDigit
      | cs =>
        match between? "color(" ")" cs, between? "rgb(" ")" cs with
        | some digits, _ => digits.length ≤ 3 && isByte digits
        | none, some parts => (splitAt ',' parts).length = 3 && (splitAt ',' parts).all isByte
        | none, none => false)

structure Style where
  attributes : Entries Bool := []
  color : Option String := none
  background : Option String := none
  link : Option String := none

def lowerWord (word : List Char) : String :=
  String.ofList (lower word)

def Style.ofWords? : Style → List (List Char) → Option Style
  | style, [] => some style
  | style, word :: words =>
    match lowerWord word, words with
    | "on", next :: rest =>
      if isColor (lowerWord next) then ofWords? { style with background := some (lowerWord next) } rest else none
    | "not", next :: rest => do
      let name ← attribute? (String.ofList next)
      ofWords? { style with attributes := style.attributes.put name false } rest
    | "link", next :: rest => ofWords? { style with link := some (String.ofList next) } rest
    | "on", [] | "not", [] | "link", [] => none
    | lowered, rest =>
      match attribute? lowered with
      | some name => ofWords? { style with attributes := style.attributes.put name true } rest
      | none => if isColor lowered then ofWords? { style with color := some lowered } rest else none

def Style.words (style : Style) : List String :=
  (attributeNames.filterMap fun (name, _) =>
      (style.attributes.get? name).map fun on => if on then name else "not " ++ name)
    ++ style.color.toList
    ++ (style.background.map ("on " ++ ·)).toList
    ++ (style.link.map ("link " ++ ·)).toList

def blankWords (cs : List Char) : List (List Char) :=
  (splitAt ' ' (cs.map fun c => if isBlank c then ' ' else c)).filter fun word => !word.isEmpty

def styleName (cs : List Char) : String :=
  if trim cs = "none".toList then "none"
  else
    match Style.ofWords? {} (blankWords cs) with
    | some style => " ".intercalate style.words
    | none => String.ofList (lower (trim cs))

end Calculi.Terminal
