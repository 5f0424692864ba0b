import MessagePlacement.Document.Value

/-!
# Writing JSON

`pretty` writes a value over several lines, two blanks to a level, with an empty array or
object closed where it opens; `compact` writes it on one line.  In a string the quote and
the backslash are escaped, and the controls below U+0020, by a letter where there is one
and by four hexadecimal digits in lower case otherwise; every other character stands for
itself.  Values that JSON lacks are written as strings in their display form.
-/

namespace MessagePlacement.Json

/-- A character inside a string. -/
def escapeChar (c : Char) : List Char :=
  if c = '\x22' ∨ c = '\\' then ['\\', c]
  else if c = '\x08' then ['\\', 'b']
  else if c = '\t' then ['\\', 't']
  else if c = '\n' then ['\\', 'n']
  else if c = '\x0c' then ['\\', 'f']
  else if c = '\r' then ['\\', 'r']
  else if c.toNat < 0x20 then '\\' :: 'u' :: Text.hexDigits 4 c.toNat
  else [c]

/-- A string with its quotes. -/
def writeString (s : String) : List Char :=
  '\x22' :: s.toList.flatMap escapeChar ++ ['\x22']

/-- A value without members. -/
def writeAtom : Value → List Char
  | .null => "null".toList
  | .bool b => (if b then "true" else "false").toList
  | .int n => (toString n).toList
  | .float .nan => "NaN".toList
  | .float (.infinite negative) => (if negative then "-Infinity" else "Infinity").toList
  | .float x => x.text.toList
  | v => writeString v.display

/-- A line break and the blanks at the front of the next line. -/
def newline (level : Nat) : List Char :=
  '\n' :: List.replicate (2 * level) ' '

mutual

/-- A value over several lines, its own brackets at the given level. -/
def prettyAt (level : Nat) : Value → List Char
  | .list [] => ['[', ']']
  | .list (x :: xs) =>
    '[' :: newline (level + 1) ++ prettyAt (level + 1) x ++ prettyElements (level + 1) xs
      ++ newline level ++ [']']
  | .mapping [] => ['\x7b', '\x7d']
  | .mapping ((k, v) :: es) =>
    '\x7b' :: newline (level + 1) ++ writeString k.display ++ [':', ' '] ++ prettyAt (level + 1) v
      ++ prettyMembers (level + 1) es ++ newline level ++ ['\x7d']
  | v => writeAtom v

/-- The elements of an array after the first. -/
def prettyElements (level : Nat) : List Value → List Char
  | [] => []
  | x :: xs => ',' :: newline level ++ prettyAt level x ++ prettyElements level xs

/-- The members of an object after the first. -/
def prettyMembers (level : Nat) : List (Value × Value) → List Char
  | [] => []
  | (k, v) :: es =>
    ',' :: newline level ++ writeString k.display ++ [':', ' '] ++ prettyAt level v
      ++ prettyMembers level es

end

/-- A value over several lines. -/
def pretty (v : Value) : String :=
  String.ofList (prettyAt 0 v)

mutual

/-- The characters of a value on one line. -/
def compactChars : Value → List Char
  | .list xs => '[' :: compactElements xs
  | .mapping es => '\x7b' :: compactMembers es
  | v => writeAtom v

/-- The elements of an array with its closing bracket. -/
def compactElements : List Value → List Char
  | [] => [']']
  | [x] => compactChars x ++ [']']
  | x :: xs => compactChars x ++ ',' :: compactElements xs

/-- The members of an object with its closing brace. -/
def compactMembers : List (Value × Value) → List Char
  | [] => ['\x7d']
  | [(k, v)] => writeString k.display ++ ':' :: compactChars v ++ ['\x7d']
  | (k, v) :: es => writeString k.display ++ ':' :: compactChars v ++ ',' :: compactMembers es

end

/-- A value on one line. -/
def compact (v : Value) : String :=
  String.ofList (compactChars v)

end MessagePlacement.Json
