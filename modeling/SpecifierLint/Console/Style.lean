/-
Styles of console text.

A style is named by words: attributes such as `bold`, a color, a color behind the text after `on`,
and a link.  Styles are not shown in plain text, but a closing tag has to name an open style, and two
names mean the same style if they have the same normal form.  What is no style is its own name, in
small letters.
-/
import SpecifierLint.Number.Decimal
import SpecifierLint.Text.Blank
import SpecifierLint.Text.DecimalDigit
import SpecifierLint.Text.TitleCase

namespace SpecifierLint.Console

/-! ### Colors -/

/-- The named colors. -/
def colorNameLines : List String :=
  ["aquamarine1 aquamarine3 black blue blue1 blue3 blue_violet bright_black bright_blue",
   "bright_cyan bright_green bright_magenta bright_red bright_white bright_yellow cadet_blue",
   "chartreuse1 chartreuse2 chartreuse3 chartreuse4 cornflower_blue cornsilk1 cyan cyan1 cyan2",
   "cyan3 dark_blue dark_cyan dark_goldenrod dark_green dark_khaki dark_magenta",
   "dark_olive_green1 dark_olive_green2 dark_olive_green3 dark_orange dark_orange3 dark_red",
   "dark_sea_green dark_sea_green1 dark_sea_green2 dark_sea_green3 dark_sea_green4",
   "dark_slate_gray1 dark_slate_gray2 dark_slate_gray3 dark_turquoise dark_violet deep_pink1",
   "deep_pink2 deep_pink3 deep_pink4 deep_sky_blue1 deep_sky_blue2 deep_sky_blue3",
   "deep_sky_blue4 dodger_blue1 dodger_blue2 dodger_blue3 gold1 gold3 gray0 gray100 gray11",
   "gray15 gray19 gray23 gray27 gray3 gray30 gray35 gray37 gray39 gray42 gray46 gray50 gray53",
   "gray54 gray58 gray62 gray63 gray66 gray69 gray7 gray70 gray74 gray78 gray82 gray84 gray85",
   "gray89 gray93 green green1 green3 green4 green_yellow grey0 grey100 grey11 grey15 grey19",
   "grey23 grey27 grey3 grey30 grey35 grey37 grey39 grey42 grey46 grey50 grey53 grey54 grey58",
   "grey62 grey63 grey66 grey69 grey7 grey70 grey74 grey78 grey82 grey84 grey85 grey89 grey93",
   "honeydew2 hot_pink hot_pink2 hot_pink3 indian_red indian_red1 khaki1 khaki3 light_coral",
   "light_cyan1 light_cyan3 light_goldenrod1 light_goldenrod2 light_goldenrod3 light_green",
   "light_pink1 light_pink3 light_pink4 light_salmon1 light_salmon3 light_sea_green",
   "light_sky_blue1 light_sky_blue3 light_slate_blue light_slate_gray light_slate_grey",
   "light_steel_blue light_steel_blue1 light_steel_blue3 light_yellow3 magenta magenta1",
   "magenta2 magenta3 medium_orchid medium_orchid1 medium_orchid3 medium_purple medium_purple1",
   "medium_purple2 medium_purple3 medium_purple4 medium_spring_green medium_turquoise",
   "medium_violet_red misty_rose1 misty_rose3 navajo_white1 navajo_white3 navy_blue orange1",
   "orange3 orange4 orange_red1 orchid orchid1 orchid2 pale_green1 pale_green3 pale_turquoise1",
   "pale_turquoise4 pale_violet_red1 pink1 pink3 plum1 plum2 plum3 plum4 purple purple3 purple4",
   "red red1 red3 rosy_brown royal_blue1 salmon1 sandy_brown sea_green1 sea_green2 sea_green3",
   "sky_blue1 sky_blue2 sky_blue3 slate_blue1 slate_blue3 spring_green1 spring_green2",
   "spring_green3 spring_green4 steel_blue steel_blue1 steel_blue3 tan thistle1 thistle3",
   "turquoise2 turquoise4 violet wheat1 wheat4 white yellow yellow1 yellow2 yellow3 yellow4"]

/-- The named colors, and the color of the console itself. -/
def colorNames : List Text := "default" :: colorNameLines.flatMap fun line => Text.split ' ' line.toList

/-- What a word says about a color. -/
inductive ColorWord where
  | color
  | other
  /-- A color in three parts, one of which gives no number. -/
  | unreadable
  deriving DecidableEq, Repr

/-- The text between brackets behind a word. -/
def bracketed? (word t : Text) : Option Text :=
  match (Text.dropStart? (word ++ "(") t).map List.reverse with
  | some (')' :: inner) => some inner.reverse
  | _ => none

/-- The digits give a number that a byte can hold. -/
def isByte (digits : Text) : Bool :=
  digits.foldl (fun n c => min 256 (n * 10 + (Text.digit? c).getD 0)) 0 < 256

/-- The digits give no number: there are none, or too many. -/
def isUnreadable (digits : Text) : Bool := digits.isEmpty || integerDigits < digits.length

/-- A digit in base sixteen, in small letters. -/
def isHexDigit (c : Char) : Bool := c.isDigit || ('a' ≤ c && c ≤ 'f')

/-- Reads a word in small letters as a color. -/
def ColorWord.ofWord (word : Text) : ColorWord :=
  if colorNames.contains word then .color
  else if word.head? = some '#' then
    if word.length = 7 && (word.drop 1).all isHexDigit then .color else .other
  else
    match bracketed? "color" word, bracketed? "rgb" word with
    | some digits, _ =>
      if !digits.isEmpty && digits.length ≤ 3 && digits.all Char.isDigit && isByte digits then .color
      else .other
    | _, some inner =>
      let parts := Text.split ',' inner
      if parts.length ≠ 3 || !inner.all (fun c => Text.isDecimalDigit c || c = ',') then .other
      else if parts.any isUnreadable then .unreadable
      else if parts.all isByte then .color
      else .other
    | none, none => .other

/-! ### Styles -/

/-- The attributes in the order of the normal form, with their short names. -/
def attributes : List (Text × List Text) :=
  [("bold", ["b"]), ("dim", ["d"]), ("italic", ["i"]), ("underline", ["u"]), ("blink", []),
   ("blink2", []), ("reverse", ["r"]), ("conceal", ["c"]), ("strike", ["s"]), ("underline2", ["uu"]),
   ("frame", []), ("encircle", []), ("overline", ["o"])]

/-- The attribute that a word names. -/
def attribute? (word : Text) : Option Text :=
  (attributes.find? fun (name, short) => name = word || short.contains word).map Prod.fst

/-- A style. -/
structure Style where
  /-- The attributes that are set, and whether they are on; the last entry counts. -/
  switches : List (Text × Bool) := []
  color : Option Text := none
  behind : Option Text := none
  link : Option Text := none

/-- The word that has to be followed by another one. -/
inductive Expecting where
  | nothing
  | colorBehind
  | attributeOff
  | linkTarget
  deriving DecidableEq, Repr

/-- Why words name no style. -/
inductive StyleFault where
  | noStyle
  /-- A color in three parts, one of which gives no number. -/
  | unreadable
  deriving DecidableEq, Repr

namespace Style

/-- Sets a color by a word in small letters. -/
def withColor (word : Text) (set : Text → Style) : Except StyleFault Style :=
  match ColorWord.ofWord word with
  | .color => .ok (set word)
  | .other => .error .noStyle
  | .unreadable => .error .unreadable

/-- Reads the words of a style. -/
def ofWords (s : Style) (expecting : Expecting) : List Text → Except StyleFault Style
  | [] => if expecting = .nothing then .ok s else .error .noStyle
  | word :: rest =>
    let small := Text.lowerCase word
    match expecting with
    | .colorBehind =>
      match withColor small fun c => { s with behind := some c } with
      | .ok next => ofWords next .nothing rest
      | .error fault => .error fault
    | .attributeOff =>
      match attribute? word with
      | some name => ofWords { s with switches := (name, false) :: s.switches } .nothing rest
      | none => .error .noStyle
    | .linkTarget => ofWords { s with link := some word } .nothing rest
    | .nothing =>
      if small = ("on" : Text) then ofWords s .colorBehind rest
      else if small = ("not" : Text) then ofWords s .attributeOff rest
      else if small = ("link" : Text) then ofWords s .linkTarget rest
      else
        match attribute? small with
        | some name => ofWords { s with switches := (name, true) :: s.switches } .nothing rest
        | none =>
          match withColor small fun c => { s with color := some c } with
          | .ok next => ofWords next .nothing rest
          | .error fault => .error fault

/-- The words of the normal form. -/
def words (s : Style) : List Text :=
  (attributes.filterMap fun (name, _) =>
    (s.switches.lookup name).map fun on => if on then name else "not " ++ name)
  ++ s.color.toList
  ++ (s.behind.map fun c => ("on " : Text) ++ c).toList
  ++ (s.link.map fun l => ("link " : Text) ++ l).toList

/-- The normal form of the name of a style; what is no style stands for itself, in small letters. -/
def normalForm (name : Text) : Except StyleFault Text :=
  let trimmed := Text.trimBlanks name
  if trimmed = ("none" : Text) then .ok trimmed
  else
    match ofWords {} .nothing (Text.blankWords name) with
    | .ok s => .ok (Text.join " " s.words)
    | .error .noStyle => .ok (Text.lowerCase trimmed)
    | .error .unreadable => .error .unreadable

example : (normalForm "I not u b").toOption = some ("bold italic not underline" : Text) := by
  decide +kernel

end Style

end SpecifierLint.Console
