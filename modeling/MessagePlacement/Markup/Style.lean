import MessagePlacement.Fault
import MessagePlacement.Number.Numeral
import MessagePlacement.Text.Case
import MessagePlacement.Text.Digit
import MessagePlacement.Text.Segments

/-!
# Styles of printed text

A style is a list of words: attributes, which may be negated, a colour, a background after
`on`, and an address after `link`.  Two lists of words are the same style if
`Style.canonical` makes the same text of them: attributes by their full names in a fixed
order, then the colour, the background and the address, the last word of each kind
counting.  A text that is no style is its own canonical form, letter case and blanks at
the ends aside.  A colour of three components cannot be read if one of them is empty, which
is a fault.
-/

namespace MessagePlacement

/-- What the words of a style ask for. -/
structure Style where
  attributes : List (String × Bool) := []
  colour : Option String := none
  background : Option String := none
  link : Option String := none
  deriving DecidableEq, Repr

namespace Style

/-- The attributes in the order of canonical forms. -/
def attributeNames : List String := [
  "bold", "dim", "italic", "underline", "blink", "blink2", "reverse", "conceal", "strike",
  "underline2", "frame", "encircle", "overline"]

/-- The short names of attributes. -/
def shortNames : List (String × String) := [
  ("b", "bold"), ("d", "dim"), ("i", "italic"), ("u", "underline"), ("r", "reverse"),
  ("c", "conceal"), ("s", "strike"), ("uu", "underline2"), ("o", "overline")]

/-- The attribute with a full or short name. -/
def attribute? (word : String) : Option String :=
  if attributeNames.contains word then some word else shortNames.lookup word

/-- The shades of grey that have a name. -/
def greyShades : List Nat := [
  0, 37, 53, 63, 69, 84, 100, 3, 7, 11, 15, 19, 23, 27, 30, 35, 39, 42, 46, 50, 54, 58, 62, 66, 70,
  74, 78, 82, 85, 89, 93]

/-- The names of colours other than shades of grey. -/
def colourNames : List String := [
  "black", "red", "green", "yellow", "blue", "magenta", "cyan", "white", "bright_black",
  "bright_red", "bright_green", "bright_yellow", "bright_blue", "bright_magenta", "bright_cyan",
  "bright_white", "navy_blue", "dark_blue", "blue3", "blue1", "dark_green", "deep_sky_blue4",
  "dodger_blue3", "dodger_blue2", "green4", "spring_green4", "turquoise4", "deep_sky_blue3",
  "dodger_blue1", "green3", "spring_green3", "dark_cyan", "light_sea_green", "deep_sky_blue2",
  "deep_sky_blue1", "spring_green2", "cyan3", "dark_turquoise", "turquoise2", "green1",
  "spring_green1", "medium_spring_green", "cyan2", "cyan1", "dark_red", "deep_pink4", "purple4",
  "purple3", "blue_violet", "orange4", "medium_purple4", "slate_blue3", "royal_blue1",
  "chartreuse4", "dark_sea_green4", "pale_turquoise4", "steel_blue", "steel_blue3",
  "cornflower_blue", "chartreuse3", "cadet_blue", "sky_blue3", "steel_blue1", "pale_green3",
  "sea_green3", "aquamarine3", "medium_turquoise", "chartreuse2", "sea_green2", "sea_green1",
  "aquamarine1", "dark_slate_gray2", "dark_magenta", "dark_violet", "purple", "light_pink4",
  "plum4", "medium_purple3", "slate_blue1", "yellow4", "wheat4", "light_slate_grey",
  "light_slate_gray", "medium_purple", "light_slate_blue", "dark_olive_green3", "dark_sea_green",
  "light_sky_blue3", "sky_blue2", "dark_sea_green3", "dark_slate_gray3", "sky_blue1", "chartreuse1",
  "light_green", "pale_green1", "dark_slate_gray1", "red3", "medium_violet_red", "magenta3",
  "dark_orange3", "indian_red", "hot_pink3", "medium_orchid3", "medium_orchid", "medium_purple2",
  "dark_goldenrod", "light_salmon3", "rosy_brown", "medium_purple1", "gold3", "dark_khaki",
  "navajo_white3", "light_steel_blue3", "light_steel_blue", "yellow3", "dark_sea_green2",
  "light_cyan3", "light_sky_blue1", "green_yellow", "dark_olive_green2", "dark_sea_green1",
  "pale_turquoise1", "deep_pink3", "magenta2", "hot_pink2", "orchid", "medium_orchid1", "orange3",
  "light_pink3", "pink3", "plum3", "violet", "light_goldenrod3", "tan", "misty_rose3", "thistle3",
  "plum2", "khaki3", "light_goldenrod2", "light_yellow3", "light_steel_blue1", "yellow2",
  "dark_olive_green1", "honeydew2", "light_cyan1", "red1", "deep_pink2", "deep_pink1", "magenta1",
  "orange_red1", "indian_red1", "hot_pink", "dark_orange", "salmon1", "light_coral",
  "pale_violet_red1", "orchid2", "orchid1", "orange1", "sandy_brown", "light_salmon1",
  "light_pink1", "pink1", "plum1", "gold1", "navajo_white1", "misty_rose1", "thistle1", "yellow1",
  "light_goldenrod1", "khaki1", "wheat1", "cornsilk1"]

/-- The text between brackets after a name. -/
def bracketed? (name word : String) : Option String :=
  match Text.dropStart? (name ++ "(") word with
  | none => none
  | some rest =>
    if rest.toList.getLast? = some ')' then some (String.ofList rest.toList.dropLast) else none

/-- Whether a text is a number of one to three digits, at most 255. -/
def isByte (s : String) : Bool :=
  let cs := s.toList
  !cs.isEmpty && cs.length ≤ 3 && cs.all Char.isDigit
    && (Numeral.integer? 10 s).any (· ≤ 255)

/-- Whether a text is three components of a colour with commas between them, each at most 255,
in the digits of any numeral system. -/
def isComponents (s : String) : Except Fault Bool :=
  let components := Text.parts "," s
  if s.isEmpty || !s.toList.all (fun c => c == ',' || (Text.decimalDigit? c).isSome)
      || components.length ≠ 3 then
    .ok false
  else if components.contains "" then
    .error (.unreadableInteger 10 "")
  else
    .ok (components.all fun component => (Numeral.integer? 10 component).any (· ≤ 255))

/-- Whether a word in lower case is a colour. -/
def isColour (word : String) : Except Fault Bool :=
  let isHexColour :=
    match word.toList with
    | '#' :: digits => digits.length = 6 && digits.all fun c => (Numeral.digitValue? 16 c).isSome
    | _ => false
  let isGrey := greyShades.any fun n =>
    word == "grey" ++ toString n || word == "gray" ++ toString n
  if word == "default" || colourNames.contains word || isGrey || isHexColour
      || (bracketed? "color" word).any isByte then
    .ok true
  else
    match bracketed? "rgb" word with
    | some s => isComponents s
    | none => .ok false

/-- The words of a text. -/
def words (s : String) : List String :=
  Text.segmentsOn " " (String.ofList (s.toList.map fun c => if Text.isBlank c then ' ' else c))

/-- A style with an attribute set. -/
def withAttribute (s : Style) (name : String) (value : Bool) : Style :=
  { s with attributes := (name, value) :: s.attributes }

/-- A style with what further words ask for, if they are a style. -/
def readFrom? (s : Style) : List String → Except Fault (Option Style)
  | [] => .ok (some s)
  | w :: ws =>
    let word := Text.lower w
    match word, ws with
    | "on", [] => .ok none
    | "on", c :: ws => do
      if ← isColour (Text.lower c) then readFrom? { s with background := some (Text.lower c) } ws
      else pure none
    | "not", [] => .ok none
    | "not", a :: ws =>
      match attribute? a with
      | some name => readFrom? (s.withAttribute name false) ws
      | none => .ok none
    | "link", [] => .ok none
    | "link", address :: ws => readFrom? { s with link := some address } ws
    | _, ws =>
      match attribute? word with
      | some name => readFrom? (s.withAttribute name true) ws
      | none => do
        if ← isColour word then readFrom? { s with colour := some word } ws else pure none

/-- The style that a text defines, if it does. -/
def read? (definition : String) : Except Fault (Option Style) :=
  if Text.strip definition = "none" then .ok (some {}) else readFrom? {} (words definition)

/-- The words of a style in a fixed order. -/
def text (s : Style) : String :=
  let attributes := attributeNames.flatMap fun name =>
    match s.attributes.lookup name with
    | some true => [name]
    | some false => ["not", name]
    | none => []
  let background := (s.background.map fun c => ["on", c]).getD []
  let link := (s.link.map fun address => ["link", address]).getD []
  match attributes ++ s.colour.toList ++ background ++ link with
  | [] => "none"
  | ws => Text.join " " ws

/-- The form that equal styles share. -/
def canonical (definition : String) : Except Fault String := do
  match ← read? definition with
  | some s => pure s.text
  | none => pure (Text.lower (Text.strip definition))

end Style

end MessagePlacement
