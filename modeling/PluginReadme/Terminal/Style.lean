import PluginReadme.Text.Ascii
import PluginReadme.Text.Case
import PluginReadme.Text.Number

/-!
# Styles

A style is written in words: attributes such as `bold`, which `not` turns off, a colour, a colour
for the background behind `on`, and an address behind `link`. Texts that ask for the same have one
name, under which the style is opened and closed. A text that asks for no style is its own name.
-/

namespace PluginReadme.Terminal

/-- Why a tag cannot be followed. -/
inductive TagFault where
  /-- It closes what is not open: its text, empty for the short form. -/
  | unopened (tag : Text)
  /-- A number in a colour has no digits. -/
  | noDigits
  deriving DecidableEq, Repr

/-! ## Attributes -/

/-- The attributes in the order in which a name has them. -/
def attributeNames : List Text :=
  (["bold", "dim", "italic", "underline", "blink", "blink2", "reverse", "conceal", "strike",
    "underline2", "frame", "encircle", "overline"] : List String).map String.toList

/-- The attributes that have a short name, too. -/
def longNames : List (Text × Text) :=
  ([("d", "dim"), ("b", "bold"), ("i", "italic"), ("u", "underline"), ("r", "reverse"),
    ("c", "conceal"), ("s", "strike"), ("uu", "underline2"), ("o", "overline")] :
      List (String × String)).map fun (short, long) ↦ (short.toList, long.toList)

def attribute? (word : Text) : Option Text :=
  let name := (longNames.lookup word).getD word
  if attributeNames.contains name then some name else none

/-! ## Colours -/

def colorRows : List String := [
  "black red green yellow blue magenta cyan white bright_black bright_red bright_green",
  "bright_yellow bright_blue bright_magenta bright_cyan bright_white grey0 gray0 navy_blue",
  "dark_blue blue3 blue1 dark_green deep_sky_blue4 dodger_blue3 dodger_blue2 green4",
  "spring_green4 turquoise4 deep_sky_blue3 dodger_blue1 green3 spring_green3 dark_cyan",
  "light_sea_green deep_sky_blue2 deep_sky_blue1 spring_green2 cyan3 dark_turquoise turquoise2",
  "green1 spring_green1 medium_spring_green cyan2 cyan1 dark_red deep_pink4 purple4 purple3",
  "blue_violet orange4 grey37 gray37 medium_purple4 slate_blue3 royal_blue1 chartreuse4",
  "dark_sea_green4 pale_turquoise4 steel_blue steel_blue3 cornflower_blue chartreuse3",
  "cadet_blue sky_blue3 steel_blue1 pale_green3 sea_green3 aquamarine3 medium_turquoise",
  "chartreuse2 sea_green2 sea_green1 aquamarine1 dark_slate_gray2 dark_magenta dark_violet",
  "purple light_pink4 plum4 medium_purple3 slate_blue1 yellow4 wheat4 grey53 gray53",
  "light_slate_grey light_slate_gray medium_purple light_slate_blue dark_olive_green3",
  "dark_sea_green light_sky_blue3 sky_blue2 dark_sea_green3 dark_slate_gray3 sky_blue1",
  "chartreuse1 light_green pale_green1 dark_slate_gray1 red3 medium_violet_red magenta3",
  "dark_orange3 indian_red hot_pink3 medium_orchid3 medium_orchid medium_purple2 dark_goldenrod",
  "light_salmon3 rosy_brown grey63 gray63 medium_purple1 gold3 dark_khaki navajo_white3 grey69",
  "gray69 light_steel_blue3 light_steel_blue yellow3 dark_sea_green2 light_cyan3",
  "light_sky_blue1 green_yellow dark_olive_green2 dark_sea_green1 pale_turquoise1 deep_pink3",
  "magenta2 hot_pink2 orchid medium_orchid1 orange3 light_pink3 pink3 plum3 violet",
  "light_goldenrod3 tan misty_rose3 thistle3 plum2 khaki3 light_goldenrod2 light_yellow3 grey84",
  "gray84 light_steel_blue1 yellow2 dark_olive_green1 honeydew2 light_cyan1 red1 deep_pink2",
  "deep_pink1 magenta1 orange_red1 indian_red1 hot_pink dark_orange salmon1 light_coral",
  "pale_violet_red1 orchid2 orchid1 orange1 sandy_brown light_salmon1 light_pink1 pink1 plum1",
  "gold1 navajo_white1 misty_rose1 thistle1 yellow1 light_goldenrod1 khaki1 wheat1 cornsilk1",
  "grey100 gray100 grey3 gray3 grey7 gray7 grey11 gray11 grey15 gray15 grey19 gray19 grey23",
  "gray23 grey27 gray27 grey30 gray30 grey35 gray35 grey39 gray39 grey42 gray42 grey46 gray46",
  "grey50 gray50 grey54 gray54 grey58 gray58 grey62 gray62 grey66 gray66 grey70 gray70 grey74",
  "gray74 grey78 gray78 grey82 gray82 grey85 gray85 grey89 gray89 grey93 gray93"]

def colorNames : List Text := colorRows.flatMap fun row ↦ Text.splitOn ' ' row.toList

/-- What a word such as `color(9)` has between its brackets. -/
def argument? (function word : Text) : Option Text := do
  let rest ← Text.after? (function ++ "(") word
  if rest.getLast? = some ')' then some rest.dropLast else none

/-- Three bytes in base sixteen, such as `#0080ff`. -/
def isHexColor (word : Text) : Bool :=
  match word with
  | '#' :: digits => digits.length == 6 && digits.all isHexDigit
  | _ => false

def isColorNumber (digits : Text) : Bool :=
  1 ≤ digits.length && digits.length ≤ 3 && (Text.number? 10 digits).any (· ≤ 255)

/-- Three numbers with commas between them, none of which is more than a byte. -/
def isColorTriple (numbers : Text) : Except TagFault Bool := do
  let parts := Text.splitOn ',' numbers
  if numbers.isEmpty || parts.length ≠ 3 || !numbers.all fun c ↦ isDecimal c || c == ',' then
    return false
  let values ← parts.mapM fun digits ↦
    match Text.digitsFrom 0 false digits with
    | some value => .ok value
    | none => .error .noDigits
  return values.all (· ≤ 255)

def isColor (word : Text) : Except TagFault Bool :=
  let word := Text.lower word
  match argument? "color" word, argument? "rgb" word with
  | some digits, _ => .ok (isColorNumber digits)
  | none, some numbers => isColorTriple numbers
  | none, none => .ok (word == "default" || colorNames.contains word || isHexColor word)

/-! ## Names -/

/-- What words ask for. The attributes that were set last stand first. -/
structure Style where
  attributes : List (Text × Bool) := []
  color : Option Text := none
  background : Option Text := none
  link : Option Text := none
  deriving DecidableEq, Repr

def Style.set (style : Style) (name : Text) (isOn : Bool) : Style :=
  { style with attributes := (name, isOn) :: style.attributes }

/-- The style with what further words ask for, unless they ask for no style. -/
def Style.read (style : Style) : List Text → Except TagFault (Option Style)
  | [] => .ok (some style)
  | word :: rest =>
    let word := Text.lower word
    if word = "on" then
      match rest with
      | color :: rest => do
        if ← isColor color then
          Style.read { style with background := some (Text.lower color) } rest
        else return none
      | [] => .ok none
    else if word = "not" then
      match rest with
      | word :: rest =>
        match attribute? word with
        | some name => Style.read (style.set name false) rest
        | none => .ok none
      | [] => .ok none
    else if word = "link" then
      match rest with
      | address :: rest => Style.read { style with link := some address } rest
      | [] => .ok none
    else
      match attribute? word with
      | some name => Style.read (style.set name true) rest
      | none => do
        if ← isColor word then Style.read { style with color := some word } rest else return none

def Style.name (style : Style) : Text :=
  let attributes : List Text := attributeNames.filterMap fun name ↦
    (style.attributes.lookup name).map fun isOn ↦ if isOn then name else "not " ++ name
  let behind (word : Text) (name : Text) : Text := word ++ ' ' :: name
  Text.join " " (attributes ++ style.color.toList ++ (style.background.map (behind "on")).toList ++
    (style.link.map (behind "link")).toList)

/-- The words of a text, with blanks between them. -/
def styleWords (t : Text) : List Text :=
  (Text.splitOn ' ' (t.map fun c ↦ if isBlank c then ' ' else c)).filter (!·.isEmpty)

/-- The name under which a style is opened and closed. -/
def styleName (t : Text) : Except TagFault Text := do
  match ← Style.read {} (styleWords t) with
  | some style => return style.name
  | none => return Text.lower (Text.strip t)

end PluginReadme.Terminal
