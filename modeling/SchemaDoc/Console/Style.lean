import SchemaDoc.Text.Blank
import SchemaDoc.Text.Integer
import SchemaDoc.Text.Lowercase
import SchemaDoc.Workspace.Path

/-!
# Styles

A style is written in words: switches that are turned on or off, a color for the text and one for
the background, and a link. The same style can be written in many ways, in other words and in
another order, so styles are compared by one normal way of writing them. What is no style goes by
its own text in lower case.
-/
namespace SchemaDoc.Console

open Workspace (joinWith splitAt)

/-- The names of the colors. -/
def colorNames : List String := [
  "black red green yellow blue magenta cyan white bright_black bright_red bright_green",
  "bright_yellow bright_blue bright_magenta bright_cyan bright_white grey0 gray0 navy_blue",
  "dark_blue blue3 blue1 dark_green deep_sky_blue4 dodger_blue3 dodger_blue2 green4",
  "spring_green4 turquoise4 deep_sky_blue3 dodger_blue1 green3 spring_green3 dark_cyan",
  "light_sea_green deep_sky_blue2 deep_sky_blue1 spring_green2 cyan3 dark_turquoise turquoise2",
  "green1 spring_green1 medium_spring_green cyan2 cyan1 dark_red deep_pink4 purple4 purple3",
  "blue_violet orange4 grey37 gray37 medium_purple4 slate_blue3 royal_blue1 chartreuse4",
  "dark_sea_green4 pale_turquoise4 steel_blue steel_blue3 cornflower_blue chartreuse3",
  "cadet_blue sky_blue3 steel_blue1 pale_green3 sea_green3 aquamarine3 medium_turquoise",
  "chartreuse2 sea_green2 sea_green1 aquamarine1 dark_slate_gray2 dark_magenta dark_violet",
  "purple light_pink4 plum4 medium_purple3 slate_blue1 yellow4 wheat4 grey53 gray53",
  "light_slate_grey light_slate_gray medium_purple light_slate_blue dark_olive_green3",
  "dark_sea_green light_sky_blue3 sky_blue2 dark_sea_green3 dark_slate_gray3 sky_blue1",
  "chartreuse1 light_green pale_green1 dark_slate_gray1 red3 medium_violet_red magenta3",
  "dark_orange3 indian_red hot_pink3 medium_orchid3 medium_orchid medium_purple2 dark_goldenrod",
  "light_salmon3 rosy_brown grey63 gray63 medium_purple1 gold3 dark_khaki navajo_white3 grey69",
  "gray69 light_steel_blue3 light_steel_blue yellow3 dark_sea_green2 light_cyan3",
  "light_sky_blue1 green_yellow dark_olive_green2 dark_sea_green1 pale_turquoise1 deep_pink3",
  "magenta2 hot_pink2 orchid medium_orchid1 orange3 light_pink3 pink3 plum3 violet",
  "light_goldenrod3 tan misty_rose3 thistle3 plum2 khaki3 light_goldenrod2 light_yellow3 grey84",
  "gray84 light_steel_blue1 yellow2 dark_olive_green1 honeydew2 light_cyan1 red1 deep_pink2",
  "deep_pink1 magenta1 orange_red1 indian_red1 hot_pink dark_orange salmon1 light_coral",
  "pale_violet_red1 orchid2 orchid1 orange1 sandy_brown light_salmon1 light_pink1 pink1 plum1",
  "gold1 navajo_white1 misty_rose1 thistle1 yellow1 light_goldenrod1 khaki1 wheat1 cornsilk1",
  "grey100 gray100 grey3 gray3 grey7 gray7 grey11 gray11 grey15 gray15 grey19 gray19 grey23",
  "gray23 grey27 gray27 grey30 gray30 grey35 gray35 grey39 gray39 grey42 gray42 grey46 gray46",
  "grey50 gray50 grey54 gray54 grey58 gray58 grey62 gray62 grey66 gray66 grey70 gray70 grey74",
  "gray74 grey78 gray78 grey82 gray82 grey85 gray85 grey89 gray89 grey93 gray93"]

/-- What a style turns on or off. -/
inductive Switch where
  | bold
  | dim
  | italic
  | underline
  | blink
  | fastBlink
  | reverse
  | conceal
  | strike
  | doubleUnderline
  | frame
  | encircle
  | overline
  deriving DecidableEq, Repr

namespace Switch

/-- The switches in the order in which they are written. -/
def all : List Switch :=
  [bold, dim, italic, underline, blink, fastBlink, reverse, conceal, strike, doubleUnderline,
    frame, encircle, overline]

/-- The word for a switch. -/
def name : Switch → String
  | bold => "bold"
  | dim => "dim"
  | italic => "italic"
  | underline => "underline"
  | blink => "blink"
  | fastBlink => "blink2"
  | reverse => "reverse"
  | conceal => "conceal"
  | strike => "strike"
  | doubleUnderline => "underline2"
  | frame => "frame"
  | encircle => "encircle"
  | overline => "overline"

/-- The short word for a switch. -/
def shortName? : Switch → Option String
  | bold => some "b"
  | dim => some "d"
  | italic => some "i"
  | underline => some "u"
  | reverse => some "r"
  | conceal => some "c"
  | strike => some "s"
  | doubleUnderline => some "uu"
  | overline => some "o"
  | blink | fastBlink | frame | encircle => none

/-- The switch that a word names. -/
def ofWord? (word : List Char) : Option Switch :=
  let text := String.ofList word
  all.find? fun switch => switch.name == text || switch.shortName? == some text

end Switch

/-- Why words are no style. -/
inductive StyleFault where
  | unknownWord
  /-- A part of a color has no number, or one with too many digits. -/
  | unreadableNumber
  deriving DecidableEq, Repr

/-- A style. What was said last about a switch counts. -/
structure Style where
  switches : List (Switch × Bool) := []
  color : Option (List Char) := none
  background : Option (List Char) := none
  link : Option (List Char) := none

/-- The text in the brackets of a word that starts with a name. -/
def bracketed? (name : String) (word : List Char) : Option (List Char) :=
  let opening := name.toList ++ ['(']
  if opening.isPrefixOf word && word.getLast? == some ')' then
    some ((word.drop opening.length).dropLast)
  else none

/-- The number that decimal digits of any script write. -/
def decimalNumber (digits : List Char) : Nat :=
  Text.ofDigits (digits.filterMap Text.digitValue?)

/-- The largest number in a color. -/
def colorLimit : Nat := 255

/-- Check the three numbers of a color, separated by commas. -/
def checkColorNumbers (content : List Char) : Except StyleFault Unit :=
  let parts := splitAt ',' content
  if content.isEmpty || !content.all fun char => char == ',' || (Text.digitValue? char).isSome then
    .error .unknownWord
  else if parts.length ≠ 3 then .error .unknownWord
  else if parts.any fun part => part.isEmpty || part.length > Text.digitLimit then
    .error .unreadableNumber
  else if parts.all fun part => decimalNumber part ≤ colorLimit then .ok ()
  else .error .unknownWord

/-- Check that a word in lower case is a color: a name, six hexadecimal digits, a number, or three
numbers. -/
def checkColor (word : List Char) : Except StyleFault Unit :=
  let isHexDigit (char : Char) : Bool := char.isDigit || ('a' ≤ char && char ≤ 'f')
  let text := String.ofList word
  if text == "default" || colorNames.any fun line => (Text.words line.toList).contains word then
    .ok ()
  else
    match word with
    | '#' :: digits =>
      if digits.length = 6 && digits.all isHexDigit then .ok () else .error .unknownWord
    | _ =>
      match bracketed? "color" word, bracketed? "rgb" word with
      | some digits, _ =>
        if !digits.isEmpty && digits.length ≤ 3 && digits.all Char.isDigit &&
            decimalNumber digits ≤ colorLimit then .ok ()
        else .error .unknownWord
      | none, some content => checkColorNumbers content
      | none, none => .error .unknownWord

/-- Turn a switch on or off. -/
def Style.turn (style : Style) (switch : Switch) (isOn : Bool) : Style :=
  { style with switches := (switch, isOn) :: style.switches }

/-- Read the words of a style. -/
def readStyle (style : Style) : List (List Char) → Except StyleFault Style
  | [] => .ok style
  | word :: rest =>
    let known := Text.lower word
    if known == "on".toList then
      match rest with
      | [] => .error .unknownWord
      | color :: more => do
        checkColor (Text.lower color)
        readStyle { style with background := some (Text.lower color) } more
    else if known == "not".toList then
      match rest with
      | [] => .error .unknownWord
      | switched :: more =>
        match Switch.ofWord? switched with
        | some switch => readStyle (style.turn switch false) more
        | none => .error .unknownWord
    else if known == "link".toList then
      match rest with
      | [] => .error .unknownWord
      | target :: more => readStyle { style with link := some target } more
    else
      match Switch.ofWord? known with
      | some switch => readStyle (style.turn switch true) rest
      | none => do
        checkColor known
        readStyle { style with color := some known } rest

/-- The style that a text writes. -/
def Style.ofText (text : List Char) : Except StyleFault Style :=
  if Text.strip text == "none".toList then .ok {} else readStyle {} (Text.words text)

/-- The words that write a style in the normal way. -/
def Style.words (style : Style) : List (List Char) :=
  let switches := Switch.all.flatMap fun switch =>
    match style.switches.lookup switch with
    | some true => [switch.name.toList]
    | some false => ["not".toList, switch.name.toList]
    | none => []
  let background := style.background.toList.flatMap fun color => ["on".toList, color]
  let link := style.link.toList.flatMap fun target => ["link".toList, target]
  switches ++ style.color.toList ++ background ++ link

/-- The normal text of a style. -/
def Style.text (style : Style) : List Char :=
  if style.words.isEmpty then "none".toList else joinWith [' '] style.words

/-- The normal way of writing what may be a style. -/
def normalStyle (text : List Char) : Except StyleFault (List Char) :=
  match Style.ofText text with
  | .ok style => .ok style.text
  | .error .unknownWord => .ok (Text.lower (Text.strip text))
  | .error .unreadableNumber => .error .unreadableNumber

end SchemaDoc.Console
