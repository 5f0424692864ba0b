/-!
# Blank characters

`isBlank` holds the code points that separate words: the ASCII controls from tabulation
to carriage return and from the file separator to the unit separator, the blank, and the
separators of Unicode.  The zero width space and the byte order mark are not blank.
`strip` removes the blank characters from both ends of a text; a text is blank when
nothing is left.
-/

namespace MessagePlacement.Text

/-- Whether a character is blank. -/
def isBlank (c : Char) : Bool :=
  let n := c.toNat
  (0x09 ≤ n && n ≤ 0x0D) || (0x1C ≤ n && n ≤ 0x20) || n == 0x85 || n == 0xA0 || n == 0x1680
    || (0x2000 ≤ n && n ≤ 0x200A) || n == 0x2028 || n == 0x2029 || n == 0x202F || n == 0x205F
    || n == 0x3000

/-- A list of characters without the ones satisfying `p` at its two ends. -/
def trimWith (p : Char → Bool) (cs : List Char) : List Char :=
  ((cs.dropWhile p).reverse.dropWhile p).reverse

/-- A text without blank characters at its two ends. -/
def strip (s : String) : String :=
  String.ofList (trimWith isBlank s.toList)

/-- Whether all characters of a text are blank. -/
def isBlankText (s : String) : Bool :=
  s.toList.all isBlank

end MessagePlacement.Text
