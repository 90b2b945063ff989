import BlockApp.Text.Lower
import BlockApp.Text.Numeral
import BlockApp.Text.Split

/-!
# Colours of a terminal

A colour is written by its name, as `#` and six hexadecimal digits, as `color(n)` with a number of the
palette, or as `rgb(r,g,b)`. Letters may be of either case.

* `Color.read` gives the colour as it is written in a style: in lower case.
* A text that is no colour is harmless, since a style may have any name. But three components of which
  one is empty stop the output.
-/

namespace BlockApp.Console

/-- Why a word is not read as a colour. -/
inductive ColorFault where
  | unknown
  /-- One of the components has no digits. -/
  | emptyComponent
  deriving Repr, DecidableEq

namespace Color

/-- The colours of the palette with a name, without the shades of grey. -/
def names : List String :=
  ["black", "red", "green", "yellow", "blue", "magenta", "cyan", "white", "bright_black",
   "bright_red", "bright_green", "bright_yellow", "bright_blue", "bright_magenta", "bright_cyan",
   "bright_white", "navy_blue", "dark_blue", "blue3", "blue1", "dark_green", "deep_sky_blue4",
   "dodger_blue3", "dodger_blue2", "green4", "spring_green4", "turquoise4", "deep_sky_blue3",
   "dodger_blue1", "green3", "spring_green3", "dark_cyan", "light_sea_green", "deep_sky_blue2",
   "deep_sky_blue1", "spring_green2", "cyan3", "dark_turquoise", "turquoise2", "green1",
   "spring_green1", "medium_spring_green", "cyan2", "cyan1", "dark_red", "deep_pink4", "purple4",
   "purple3", "blue_violet", "orange4", "medium_purple4", "slate_blue3", "royal_blue1",
   "chartreuse4", "dark_sea_green4", "pale_turquoise4", "steel_blue", "steel_blue3",
   "cornflower_blue", "chartreuse3", "cadet_blue", "sky_blue3", "steel_blue1", "pale_green3",
   "sea_green3", "aquamarine3", "medium_turquoise", "chartreuse2", "sea_green2", "sea_green1",
   "aquamarine1", "dark_slate_gray2", "dark_magenta", "dark_violet", "purple", "light_pink4",
   "plum4", "medium_purple3", "slate_blue1", "yellow4", "wheat4", "light_slate_grey",
   "light_slate_gray", "medium_purple", "light_slate_blue", "dark_olive_green3", "dark_sea_green",
   "light_sky_blue3", "sky_blue2", "dark_sea_green3", "dark_slate_gray3", "sky_blue1",
   "chartreuse1", "light_green", "pale_green1", "dark_slate_gray1", "red3", "medium_violet_red",
   "magenta3", "dark_orange3", "indian_red", "hot_pink3", "medium_orchid3", "medium_orchid",
   "medium_purple2", "dark_goldenrod", "light_salmon3", "rosy_brown", "medium_purple1", "gold3",
   "dark_khaki", "navajo_white3", "light_steel_blue3", "light_steel_blue", "yellow3",
   "dark_sea_green2", "light_cyan3", "light_sky_blue1", "green_yellow", "dark_olive_green2",
   "dark_sea_green1", "pale_turquoise1", "deep_pink3", "magenta2", "hot_pink2", "orchid",
   "medium_orchid1", "orange3", "light_pink3", "pink3", "plum3", "violet", "light_goldenrod3",
   "tan", "misty_rose3", "thistle3", "plum2", "khaki3", "light_goldenrod2", "light_yellow3",
   "light_steel_blue1", "yellow2", "dark_olive_green1", "honeydew2", "light_cyan1", "red1",
   "deep_pink2", "deep_pink1", "magenta1", "orange_red1", "indian_red1", "hot_pink", "dark_orange",
   "salmon1", "light_coral", "pale_violet_red1", "orchid2", "orchid1", "orange1", "sandy_brown",
   "light_salmon1", "light_pink1", "pink1", "plum1", "gold1", "navajo_white1", "misty_rose1",
   "thistle1", "yellow1", "light_goldenrod1", "khaki1", "wheat1", "cornsilk1"]

/-- The brightness, in percent, of the shades of grey. -/
def greys : List Nat :=
  [0, 3, 7, 11, 15, 19, 23, 27, 30, 35, 37, 39, 42, 46, 50, 53, 54, 58, 62, 63, 66, 69, 70, 74, 78,
   82, 84, 85, 89, 93, 100]

/-- The names of all colours. -/
def allNames : List String :=
  "default" :: names ++ greys.flatMap fun n => [s!"grey{n}", s!"gray{n}"]

/-- The text between an opening and the bracket that ends it. -/
def inBrackets? (opening : String) (word : List Char) : Option (List Char) :=
  if opening.toList.isPrefixOf word && word.getLast? == some ')' then
    some ((word.drop opening.length).dropLast)
  else none

/-- The parts of a text between commas. -/
def components (text : List Char) : List (List Char) := Text.splitAt ',' text

/-- The number of a component, `none` if it has no digits. -/
def component? (digits : List Char) : Option Nat :=
  if digits = [] then none
  else some (digits.foldl (fun n c => 10 * n + (Text.digitValue? c).getD 0) 0)

/-- Reads three components between 0 and 255. -/
def readComponents (text : List Char) : Except ColorFault Unit :=
  match components text with
  | [red, green, blue] =>
    match component? red, component? green, component? blue with
    | some red, some green, some blue =>
      if red ≤ 255 ∧ green ≤ 255 ∧ blue ≤ 255 then .ok () else .error .unknown
    | _, _, _ => .error .emptyComponent
  | _ => .error .unknown

/-- A digit of a colour that is written as a number. -/
def isHexDigit (c : Char) : Bool := c.isDigit || ('a' ≤ c && c ≤ 'f')

/-- Reads a colour: its lower-case form. -/
def read (word : List Char) : Except ColorFault (List Char) :=
  let word := Text.lower word
  if allNames.contains (String.ofList word) then .ok word
  else
    match word with
    | '#' :: digits => if digits.length = 6 ∧ digits.all isHexDigit then .ok word else .error .unknown
    | _ =>
      match inBrackets? "color(" word, inBrackets? "rgb(" word with
      | some number, _ =>
        if 1 ≤ number.length ∧ number.length ≤ 3 ∧ number.all Char.isDigit ∧
            (component? number).any (· ≤ 255) then .ok word
        else .error .unknown
      | none, some text =>
        if text ≠ [] ∧ text.all fun c => Text.isDigit c || c == ',' then do
          readComponents text
          return word
        else .error .unknown
      | none, none => .error .unknown

end Color

example : (Color.read "Bright_Red".toList).toOption = some "bright_red".toList := by decide +kernel
example : (Color.read "rgb(1,2,255)".toList).toOption.isSome := by decide +kernel
example : (Color.read "color(256)".toList).toOption = none := by decide +kernel

end BlockApp.Console
