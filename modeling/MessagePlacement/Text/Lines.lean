import MessagePlacement.Text.Blank
import MessagePlacement.Text.Width

/-!
# Lines of a text

How a text is laid out in lines of some columns.  Tabulations are filled up to the next
multiple of eight columns.  `wrap` breaks a line between words, where a word is a run of
characters other than blanks with the blanks after it, so that the words on each line fit
without the blanks at its end; a word that fits on no line has one of its own.
`leftAligned` and `rightAligned` cut a line that is still too long and fill up a shorter one.
-/

namespace MessagePlacement.Text

/-- The parts of characters between those that satisfy a predicate. -/
def partsWhere (p : Char → Bool) : List Char → List (List Char)
  | [] => [[]]
  | c :: cs =>
    if p c then [] :: partsWhere p cs
    else
      match partsWhere p cs with
      | [] => [[c]]
      | part :: parts => (c :: part) :: parts

/-- Whether a character ends a line where the widths of lines are measured. -/
def isLineEnd (c : Char) : Bool :=
  (0x0A ≤ c.toNat && c.toNat ≤ 0x0D) || (0x1C ≤ c.toNat && c.toNat ≤ 0x1E) || c == '\x85'
    || c == '\u2028' || c == '\u2029'

/-- The columns of the longest line. -/
def longestLine (cs : List Char) : Nat :=
  ((partsWhere isLineEnd cs).map columns).foldl max 0

/-! ### Tabulations -/

/-- The parts of a line joined from a column on: between two of them there are one or more
blanks, up to a multiple of eight columns. -/
def joinTabbed : Nat → List (List Char) → List Char
  | _, [] => []
  | _, [part] => part
  | column, part :: parts =>
    let column := column + columns (part ++ [' '])
    let fill := (8 - column % 8) % 8
    part ++ ' ' :: (List.replicate fill ' ' ++ joinTabbed (column + fill) parts)

/-- A line with blanks for its tabulations. -/
def expandTabs (line : List Char) : List Char :=
  joinTabbed 0 (partsWhere (· == '\t') line)

/-! ### Words -/

/-- The words of a line, each with the blanks after it and the first also with those before it. -/
def words : List Char → List (List Char)
  | [] => []
  | c :: cs =>
    match words cs with
    | [] => [[c]]
    | w :: ws =>
      if isBlank c || !w.head?.any isBlank then (c :: w) :: ws
      else
        match w.dropWhile isBlank with
        | [] => (c :: w) :: ws
        | next => (c :: w.takeWhile isBlank) :: next :: ws

/-- Characters without the blanks at their end. -/
def trimEnd (cs : List Char) : List Char :=
  (cs.reverse.dropWhile isBlank).reverse

/-- The lines of words after a line that takes some columns so far. -/
def linesAfter (room : Nat) : List Char → Nat → List (List Char) → List (List Char)
  | line, _, [] => [line]
  | line, used, w :: ws =>
    if room < used + columns (trimEnd w) then line :: linesAfter room w (columns w) ws
    else linesAfter room (line ++ w) (used + columns w) ws

/-- The lines of at most some columns that a line is broken into. -/
def wrap (room : Nat) (line : List Char) : List (List Char) :=
  match words line with
  | [] => [[]]
  | w :: ws => linesAfter room w (columns w) ws

/-! ### Fitting -/

/-- A line without those of the blanks at its end that stand beyond a number of characters. -/
def cropBlanks (room : Nat) (line : List Char) : List Char :=
  line.take (line.length - min (line.length - room) (line.length - (trimEnd line).length))

/-- A line that is cut to a number of columns, with a sign of it, if it takes more. -/
def cut (room : Nat) (line : List Char) : List Char :=
  if room < columns line then takeColumns (room - 1) line ++ ['…'] else line

/-- The blanks that fill a line up to a number of columns. -/
def filling (room : Nat) (line : List Char) : List Char :=
  List.replicate (room - columns line) ' '

/-- A line of exactly some columns, blanks at its end. -/
def leftAligned (room : Nat) (line : List Char) : List Char :=
  let line := cut room line
  line ++ filling room line

/-- A line of exactly some columns, blanks at its front. -/
def rightAligned (room : Nat) (line : List Char) : List Char :=
  let line := cut room (trimEnd line)
  filling room line ++ line

/-- The lines of a text in some columns. -/
def layLines (alignsRight : Bool) (room : Nat) (cs : List Char) : List (List Char) :=
  (partsWhere (· == '\n') cs).flatMap fun line =>
    (wrap room (expandTabs line)).map fun line =>
      (if alignsRight then rightAligned room else leftAligned room) (cropBlanks room line)

end MessagePlacement.Text
