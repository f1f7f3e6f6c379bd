import ReductionIR.Text.Lower
import ReductionIR.Text.Numeral
/-
Styles by their words: attributes, a colour, a colour behind the text and a link. Two styles
are the same when their words say the same in one fixed order.
-/
namespace ReductionIR.Console

structure Style where
  /-- Attributes that are switched on or off. -/
  attributes : List (String × Bool) := []
  colour : Option String := none
  ground : Option String := none
  link : Option String := none

namespace Style

def attributeWords : List (String × String) :=
  [("bold", "bold"), ("b", "bold"), ("dim", "dim"), ("d", "dim"), ("italic", "italic"),
    ("i", "italic"), ("underline", "underline"), ("u", "underline"), ("blink", "blink"),
    ("blink2", "blink2"), ("reverse", "reverse"), ("r", "reverse"), ("conceal", "conceal"),
    ("c", "conceal"), ("strike", "strike"), ("s", "strike"), ("underline2", "underline2"),
    ("uu", "underline2"), ("frame", "frame"), ("encircle", "encircle"),
    ("overline", "overline"), ("o", "overline")]

def attributeOrder : List String :=
  ["bold", "dim", "italic", "underline", "blink", "blink2", "reverse", "conceal", "strike",
    "underline2", "frame", "encircle", "overline"]

def colourLines : List String := [
    "aquamarine1 aquamarine3 black blue blue1 blue3 blue_violet bright_black bright_blue",
    "bright_cyan bright_green bright_magenta bright_red bright_white bright_yellow cadet_blue",
    "chartreuse1 chartreuse2 chartreuse3 chartreuse4 cornflower_blue cornsilk1 cyan cyan1 cyan2",
    "cyan3 dark_blue dark_cyan dark_goldenrod dark_green dark_khaki dark_magenta",
    "dark_olive_green1 dark_olive_green2 dark_olive_green3 dark_orange dark_orange3 dark_red",
    "dark_sea_green dark_sea_green1 dark_sea_green2 dark_sea_green3 dark_sea_green4",
    "dark_slate_gray1 dark_slate_gray2 dark_slate_gray3 dark_turquoise dark_violet deep_pink1",
    "deep_pink2 deep_pink3 deep_pink4 deep_sky_blue1 deep_sky_blue2 deep_sky_blue3 deep_sky_blue4",
    "dodger_blue1 dodger_blue2 dodger_blue3 gold1 gold3 gray0 gray100 gray11 gray15 gray19 gray23",
    "gray27 gray3 gray30 gray35 gray37 gray39 gray42 gray46 gray50 gray53 gray54 gray58 gray62",
    "gray63 gray66 gray69 gray7 gray70 gray74 gray78 gray82 gray84 gray85 gray89 gray93 green",
    "green1 green3 green4 green_yellow grey0 grey100 grey11 grey15 grey19 grey23 grey27 grey3",
    "grey30 grey35 grey37 grey39 grey42 grey46 grey50 grey53 grey54 grey58 grey62 grey63 grey66",
    "grey69 grey7 grey70 grey74 grey78 grey82 grey84 grey85 grey89 grey93 honeydew2 hot_pink",
    "hot_pink2 hot_pink3 indian_red indian_red1 khaki1 khaki3 light_coral light_cyan1 light_cyan3",
    "light_goldenrod1 light_goldenrod2 light_goldenrod3 light_green light_pink1 light_pink3",
    "light_pink4 light_salmon1 light_salmon3 light_sea_green light_sky_blue1 light_sky_blue3",
    "light_slate_blue light_slate_gray light_slate_grey light_steel_blue light_steel_blue1",
    "light_steel_blue3 light_yellow3 magenta magenta1 magenta2 magenta3 medium_orchid",
    "medium_orchid1 medium_orchid3 medium_purple medium_purple1 medium_purple2 medium_purple3",
    "medium_purple4 medium_spring_green medium_turquoise medium_violet_red misty_rose1",
    "misty_rose3 navajo_white1 navajo_white3 navy_blue orange1 orange3 orange4 orange_red1 orchid",
    "orchid1 orchid2 pale_green1 pale_green3 pale_turquoise1 pale_turquoise4 pale_violet_red1",
    "pink1 pink3 plum1 plum2 plum3 plum4 purple purple3 purple4 red red1 red3 rosy_brown",
    "royal_blue1 salmon1 sandy_brown sea_green1 sea_green2 sea_green3 sky_blue1 sky_blue2",
    "sky_blue3 slate_blue1 slate_blue3 spring_green1 spring_green2 spring_green3 spring_green4",
    "steel_blue steel_blue1 steel_blue3 tan thistle1 thistle3 turquoise2 turquoise4 violet wheat1",
    "wheat4 white yellow yellow1 yellow2 yellow3 yellow4"
  ]

/-- A number of decimal digits that is at most 255. -/
def isLevel (digits : List Char) : Bool :=
  !digits.isEmpty && digits.all Char.isDigit &&
    decide (digits.foldl (fun n d => 10 * n + (d.toNat - 48)) 0 ≤ 255)

def argument? (word : String) (cs : List Char) : Option (List Char) :=
  let opened := word.toList ++ ['(']
  if opened.isPrefixOf cs && cs.getLast? = some ')' then some (cs.drop opened.length).dropLast
  else none

/-- Does a word in small letters name a colour: by name, by its number or by its parts? -/
def isColour (word : String) : Bool :=
  let cs := word.toList
  word = "default" || (colourLines.any fun line => (line.splitOn " ").contains word) ||
    (cs.head? = some '#' && cs.length = 7 &&
      (cs.drop 1).all fun c => c.isDigit || ('a' ≤ c && c ≤ 'f')) ||
    ((argument? "color" cs).any fun digits => digits.length ≤ 3 && isLevel digits) ||
    ((argument? "rgb" cs).any fun parts =>
      let levels := (String.ofList parts).splitOn ","
      levels.length = 3 && levels.all fun level => isLevel level.toList)

def withAttribute (name : String) (value : Bool) (s : Style) : Style :=
  { s with attributes := (name, value) :: s.attributes }

/-- Read the words of a style after those read before. -/
def ofWords : List String → Style → Option Style
  | [], s => some s
  | word :: rest, s =>
    let small := Text.lower word
    if small = "on" then
      match rest with
      | [] => none
      | ground :: rest =>
        if isColour (Text.lower ground) then ofWords rest { s with ground := Text.lower ground }
        else none
    else if small = "not" then
      match rest with
      | [] => none
      | name :: rest =>
        match attributeWords.lookup name with
        | some name => ofWords rest (s.withAttribute name false)
        | none => none
    else if small = "link" then
      match rest with
      | [] => none
      | link :: rest => ofWords rest { s with link }
    else
      match attributeWords.lookup small with
      | some name => ofWords rest (s.withAttribute name true)
      | none => if isColour small then ofWords rest { s with colour := small } else none

def words (s : Style) : List String :=
  attributeOrder.flatMap (fun name =>
    match s.attributes.lookup name with
    | some true => [name]
    | some false => ["not", name]
    | none => []) ++
    s.colour.toList ++ (s.ground.elim [] fun ground => ["on", ground]) ++
    (s.link.elim [] fun link => ["link", link])

def text (s : Style) : String :=
  let words := s.words
  if words.isEmpty then "none" else " ".intercalate words

end Style

def wordsOf (text : String) : List String :=
  ((String.ofList (text.toList.map fun c => if Text.isBlank c then ' ' else c)).splitOn " ").filter
    (· ≠ "")

def trimmed (text : String) : String := String.ofList (Text.trimBlanks text.toList)

/-- The name of a style in its one order; what is no style is a name in small letters. -/
def styleName (text : String) : String :=
  if trimmed text = "none" then "none"
  else
    match Style.ofWords (wordsOf text) {} with
    | some style => style.text
    | none => Text.lower (trimmed text)

end ReductionIR.Console
