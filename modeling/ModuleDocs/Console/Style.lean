import ModuleDocs.Text.Blank

/-!
# Styles

A style is written as words: attributes, a colour, a background colour after `on`, and a link. Two
spellings of one style have the same normal form, in which the words have a fixed order. A text that is not
a style is its own normal form, in small letters. A colour that lacks one of its three numbers is a fault.
-/

namespace ModuleDocs.Console

/-- The attributes of a style with their short names, in the order of the normal form. -/
def attributeNames : List (String × List String) :=
  [("bold", ["b"]), ("dim", ["d"]), ("italic", ["i"]), ("underline", ["u"]), ("blink", []), ("blink2", []),
    ("reverse", ["r"]), ("conceal", ["c"]), ("strike", ["s"]), ("underline2", ["uu"]), ("frame", []),
    ("encircle", []), ("overline", ["o"])]

def colorRows : List String :=
  [
    "default black red green yellow blue magenta cyan white bright_black bright_red bright_green",
    "bright_yellow bright_blue bright_magenta bright_cyan bright_white grey0 gray0 navy_blue dark_blue",
    "blue3 blue1 dark_green deep_sky_blue4 dodger_blue3 dodger_blue2 green4 spring_green4 turquoise4",
    "deep_sky_blue3 dodger_blue1 green3 spring_green3 dark_cyan light_sea_green deep_sky_blue2",
    "deep_sky_blue1 spring_green2 cyan3 dark_turquoise turquoise2 green1 spring_green1",
    "medium_spring_green cyan2 cyan1 dark_red deep_pink4 purple4 purple3 blue_violet orange4 grey37",
    "gray37 medium_purple4 slate_blue3 royal_blue1 chartreuse4 dark_sea_green4 pale_turquoise4",
    "steel_blue steel_blue3 cornflower_blue chartreuse3 cadet_blue sky_blue3 steel_blue1 pale_green3",
    "sea_green3 aquamarine3 medium_turquoise chartreuse2 sea_green2 sea_green1 aquamarine1",
    "dark_slate_gray2 dark_magenta dark_violet purple light_pink4 plum4 medium_purple3 slate_blue1",
    "yellow4 wheat4 grey53 gray53 light_slate_grey light_slate_gray medium_purple light_slate_blue",
    "dark_olive_green3 dark_sea_green light_sky_blue3 sky_blue2 dark_sea_green3 dark_slate_gray3",
    "sky_blue1 chartreuse1 light_green pale_green1 dark_slate_gray1 red3 medium_violet_red magenta3",
    "dark_orange3 indian_red hot_pink3 medium_orchid3 medium_orchid medium_purple2 dark_goldenrod",
    "light_salmon3 rosy_brown grey63 gray63 medium_purple1 gold3 dark_khaki navajo_white3 grey69 gray69",
    "light_steel_blue3 light_steel_blue yellow3 dark_sea_green2 light_cyan3 light_sky_blue1 green_yellow",
    "dark_olive_green2 dark_sea_green1 pale_turquoise1 deep_pink3 magenta2 hot_pink2 orchid",
    "medium_orchid1 orange3 light_pink3 pink3 plum3 violet light_goldenrod3 tan misty_rose3 thistle3",
    "plum2 khaki3 light_goldenrod2 light_yellow3 grey84 gray84 light_steel_blue1 yellow2",
    "dark_olive_green1 honeydew2 light_cyan1 red1 deep_pink2 deep_pink1 magenta1 orange_red1 indian_red1",
    "hot_pink dark_orange salmon1 light_coral pale_violet_red1 orchid2 orchid1 orange1 sandy_brown",
    "light_salmon1 light_pink1 pink1 plum1 gold1 navajo_white1 misty_rose1 thistle1 yellow1",
    "light_goldenrod1 khaki1 wheat1 cornsilk1 grey100 gray100 grey3 gray3 grey7 gray7 grey11 gray11",
    "grey15 gray15 grey19 gray19 grey23 gray23 grey27 gray27 grey30 gray30 grey35 gray35 grey39 gray39",
    "grey42 gray42 grey46 gray46 grey50 gray50 grey54 gray54 grey58 gray58 grey62 gray62 grey66 gray66",
    "grey70 gray70 grey74 gray74 grey78 gray78 grey82 gray82 grey85 gray85 grey89 gray89 grey93 gray93"
  ]

/-- The names of colours, one by one. -/
def colorNames : List Text :=
  colorRows.flatMap fun row => (Text.ofString row).splitOn (CodePoint.ofChar ' ')

/-- Small letters for the capital ones of ASCII. -/
def lower (t : Text) : Text := t.map CodePoint.asciiLower

def isDigit (c : CodePoint) : Bool := 0x30 ≤ c.val && c.val ≤ 0x39

/-- Whether a code point is a digit in base sixteen, with small letters. -/
def isHexDigit (c : CodePoint) : Bool := isDigit c || (0x61 ≤ c.val && c.val ≤ 0x66)

/-- A number of digits in base ten that fits into a byte. -/
def isByte (t : Text) : Bool :=
  !t.isEmpty && t.all isDigit && t.foldl (fun n c => 10 * n + (c.val - 0x30)) 0 ≤ 255

/-- What stands between a start and a closing parenthesis at the end. -/
def inParentheses? (start : String) (t : Text) : Option Text :=
  let start := Text.ofString start
  if start.isPrefixOf t && t.getLast? == some (CodePoint.ofChar ')') then some (t.drop start.length).dropLast
  else none

/-- What is wrong with a text as a style. -/
inductive StyleFault where
  | unknown
  /-- A colour without one of its numbers. -/
  | missingNumber
  deriving Repr, DecidableEq

/-- The colour of three numbers, which are not all there if there are two commas only. -/
def checkTriple (t : Text) : Except StyleFault Unit :=
  let numbers := t.splitOn (CodePoint.ofChar ',')
  if t.isEmpty || !numbers.all (fun n => n.all isDigit) || numbers.length != 3 then .error .unknown
  else if numbers.any List.isEmpty then .error .missingNumber
  else if numbers.all isByte then .ok ()
  else .error .unknown

/-- A colour in small letters: a name, a number of the palette or the parts of red, green and blue. -/
def checkColor (t : Text) : Except StyleFault Unit :=
  if colorNames.contains t ||
      (t.length == 7 && t.head? == some (CodePoint.ofChar '#') && (t.drop 1).all isHexDigit) ||
      (inParentheses? "color(" t).any (fun n => n.length ≤ 3 && isByte n) then .ok ()
  else
    match inParentheses? "rgb(" t with
    | some numbers => checkTriple numbers
    | none => .error .unknown

/-- A style as far as its words say it. -/
structure Style where
  /-- Attributes that are switched on or off. -/
  attributes : List (String × Bool)
  color : Option Text
  background : Option Text
  link : Option Text
  deriving Repr, DecidableEq

namespace Style

def empty : Style := ⟨[], none, none, none⟩

def attribute? (word : Text) : Option String :=
  (attributeNames.find? fun a => (a.1 :: a.2).any fun n => Text.ofString n == word).map Prod.fst

def switch (s : Style) (name : String) (on : Bool) : Style :=
  { s with attributes := (name, on) :: s.attributes.filter fun a => a.1 != name }

def read (s : Style) : List Text → Except StyleFault Style
  | [] => .ok s
  | word :: rest =>
    let small := lower word
    if small = Text.ofString "on" then
      match rest with
      | [] => .error .unknown
      | color :: rest => do
        checkColor (lower color)
        read { s with background := some (lower color) } rest
    else if small = Text.ofString "not" then
      match rest with
      | [] => .error .unknown
      | name :: rest =>
        match attribute? name with
        | some a => read (s.switch a false) rest
        | none => .error .unknown
    else if small = Text.ofString "link" then
      match rest with
      | [] => .error .unknown
      | target :: rest => read { s with link := some target } rest
    else
      match attribute? small with
      | some a => read (s.switch a true) rest
      | none => do
        checkColor small
        read { s with color := some small } rest

def words (s : Style) : List Text :=
  let attributes := attributeNames.filterMap fun a =>
    (s.attributes.lookup a.1).map fun on => if on then Text.ofString a.1 else "not " ++ Text.ofString a.1
  attributes ++ s.color.toList ++ (s.background.toList.map fun (c : Text) => "on " ++ c) ++
    s.link.toList.map fun (t : Text) => "link " ++ t

/-- The words of a text, without blanks. -/
def wordsOf (t : Text) : List Text :=
  (t.splitBy fun a b => a.isBlank == b.isBlank).filter fun w => !(w.all CodePoint.isBlank)

/-- The normal form of a text as a style; none if a number is missing. -/
def normal? (t : Text) : Option Text :=
  let ws := wordsOf t
  if ws = [] ∨ ws = [Text.ofString "none"] then some "none"
  else
    match read empty ws with
    | .ok s => some (Text.join " " s.words)
    | .error .unknown => some (lower t.strip)
    | .error .missingNumber => none

end Style

end ModuleDocs.Console
