/-!
# Bytes and texts

`decode?` reads bytes as UTF-8 and fails on any other bytes.  `unifyLineEnds` makes a line
feed of every carriage return, alone or before a line feed; `readLines?` is both, which is
how text files are read.
-/

namespace MessagePlacement.Text

/-- The text that bytes encode. -/
def decode? (bytes : ByteArray) : Option String :=
  String.fromUTF8? bytes

/-- A list of characters with a line feed at every end of line. -/
def unifyEnds : List Char → List Char
  | [] => []
  | '\r' :: '\n' :: cs => '\n' :: unifyEnds cs
  | '\r' :: cs => '\n' :: unifyEnds cs
  | c :: cs => c :: unifyEnds cs

/-- A text with a line feed at every end of line. -/
def unifyLineEnds (s : String) : String :=
  String.ofList (unifyEnds s.toList)

/-- The text of a file. -/
def readLines? (bytes : ByteArray) : Option String :=
  (decode? bytes).map unifyLineEnds

end MessagePlacement.Text
