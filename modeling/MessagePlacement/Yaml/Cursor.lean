import MessagePlacement.Fault

/-!
# Positions in a YAML text

A `Cursor` is the rest of a text together with its length and the index, line and column at
which it starts.  A byte order mark does not count as a column.  The predicates on an optional
character tell what may stand where, with `none` for the end of the text.
-/

namespace MessagePlacement.Yaml

/-- Whether a character ends a line. -/
def isBreak (c : Char) : Bool :=
  c == '\n' || c == '\r' || c == '\x85' || c == '\u2028' || c == '\u2029'

/-- Whether a character is a blank or a tabulation. -/
def isSpace (c : Char) : Bool := c == ' ' || c == '\t'

/-- Whether a line or the text ends. -/
def endsLine (c : Option Char) : Bool := c.all isBreak

/-- Whether a blank follows, or a line or the text ends. -/
def endsWord (c : Option Char) : Bool := c.all fun c => c == ' ' || isBreak c

/-- Whether a blank or a tabulation follows, or a line or the text ends. -/
def endsToken (c : Option Char) : Bool := c.all fun c => isSpace c || isBreak c

/-- The rest of a text and where it starts. -/
structure Cursor where
  rest : List Char
  size : Nat
  index : Nat := 0
  line : Nat := 0
  column : Nat := 0
  size_eq : size = rest.length
  deriving DecidableEq, Repr

namespace Cursor

/-- The start of a text. -/
def ofText (cs : List Char) : Cursor := { rest := cs, size := cs.length, size_eq := rfl }

/-- The next character. -/
def peek (c : Cursor) : Option Char := c.rest.head?

/-- The character `n` places further. -/
def peekAt (c : Cursor) (n : Nat) : Option Char := c.rest[n]?

/-- The position after the next character. -/
def next (c : Cursor) : Cursor :=
  match h : c.rest with
  | [] => c
  | ch :: cs =>
    have size_eq : c.size - 1 = cs.length := by simp [c.size_eq, h]
    if isBreak ch && !(ch == '\r' && cs.head? == some '\n') then
      ⟨cs, c.size - 1, c.index + 1, c.line + 1, 0, size_eq⟩
    else if ch == '\ufeff' then
      ⟨cs, c.size - 1, c.index + 1, c.line, c.column, size_eq⟩
    else
      ⟨cs, c.size - 1, c.index + 1, c.line, c.column + 1, size_eq⟩

/-- The position `n` characters further. -/
def skip (c : Cursor) : Nat → Cursor
  | 0 => c
  | n + 1 => c.next.skip n

/-- The position after the characters at the front that satisfy a predicate. -/
def skipWhile (p : Char → Bool) (c : Cursor) : Cursor :=
  c.skip (c.rest.takeWhile p).length

/-- The characters at the front that satisfy a predicate, and the position after them. -/
def takeWhile (p : Char → Bool) (c : Cursor) : List Char × Cursor :=
  let run := c.rest.takeWhile p
  (run, c.skip run.length)

/-- The line break at a position, as it counts in a scalar, and the position after it. -/
def lineBreak (c : Cursor) : List Char × Cursor :=
  match c.rest with
  | '\r' :: '\n' :: _ => (['\n'], c.next.next)
  | ch :: _ =>
    if ch == '\u2028' || ch == '\u2029' then ([ch], c.next)
    else if isBreak ch then (['\n'], c.next)
    else ([], c)
  | [] => ([], c)

/-- The position after a comment, if there is one. -/
def skipComment (c : Cursor) : Cursor :=
  if c.peek == some '#' then c.skipWhile (!isBreak ·) else c

/-- Whether a document marker made of three of the given character follows. -/
def atMarker (c : Cursor) (mark : Char) : Bool :=
  c.rest.take 3 == [mark, mark, mark] && endsToken (c.peekAt 3)

/-- Whether either document marker follows. -/
def atSeparator (c : Cursor) : Bool := c.atMarker '-' || c.atMarker '.'

/-- The end of a line on which nothing but a comment may follow. -/
def endLine (c : Cursor) : Except ReadError Cursor :=
  let c := (c.skipWhile (· == ' ')).skipComment
  if endsLine c.peek then .ok c.lineBreak.2 else .error .malformed

end Cursor

end MessagePlacement.Yaml
