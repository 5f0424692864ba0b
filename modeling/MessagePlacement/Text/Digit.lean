import MessagePlacement.Text.Blank

/-!
# Decimal digits

The digits of the decimal numeral systems in the Unicode Character Database, version 14.0:
`digitZeros` holds the zero of every system, and its other digits follow it in order.  A
number may be written with the digits of any of them.  `plainNumeral` writes such a text
with ASCII digits, and with the blank U+0020 for any blank character beyond ASCII.
-/

namespace MessagePlacement.Text

/-- The code points of the digits for zero. -/
def digitZeros : List Nat := [
  48, 1632, 1776, 1984, 2406, 2534, 2662, 2790, 2918, 3046, 3174, 3302, 3430, 3558, 3664, 3792,
  3872, 4160, 4240, 6112, 6160, 6470, 6608, 6784, 6800, 6992, 7088, 7232, 7248, 42528, 43216,
  43264, 43472, 43504, 43600, 44016, 65296, 66720, 68912, 69734, 69872, 69942, 70096, 70384,
  70736, 70864, 71248, 71360, 71472, 71904, 72016, 72784, 73040, 73120, 92768, 92864, 93008,
  120782, 120792, 120802, 120812, 120822, 123200, 123632, 125264, 130032]
/-- The value of a decimal digit of any numeral system. -/
def decimalDigit? (c : Char) : Option Nat :=
  (digitZeros.find? fun first => first ≤ c.toNat && c.toNat < first + 10).map (c.toNat - ·)

/-- A character of a numeral in its ASCII form, if it has one. -/
def plainNumeralChar (c : Char) : Char :=
  if c.toNat < 0x80 then c
  else if isBlank c then ' '
  else ((decimalDigit? c).map fun d => Char.ofNat (0x30 + d)).getD c

/-- The characters of a numeral in their ASCII forms. -/
def plainNumeral (s : String) : List Char :=
  s.toList.map plainNumeralChar

/-- Whether a character is one of the blanks of ASCII, among which are no separators. -/
def isAsciiBlank (c : Char) : Bool :=
  c == ' ' || (0x09 ≤ c.toNat && c.toNat ≤ 0x0D)

end MessagePlacement.Text
