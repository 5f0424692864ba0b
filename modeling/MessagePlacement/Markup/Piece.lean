/-!
# Pieces of marked-up text

Printed text may hold tags: a bracket followed by a small letter, a slash, a number sign or
an at sign, and all characters up to the next closing bracket, unless there is another
opening bracket among them.  A tag is a name and, after an equals sign, its parameters.  An
odd number of backslashes before a tag makes it part of the text; pairs of them stand for
one each.  `Piece.ofText` takes a text apart into its tags and the text between them.
-/

namespace MessagePlacement.Markup

/-- A tag with the backslashes before it. -/
structure Tag where
  backslashes : Nat
  content : List Char
  deriving DecidableEq, Repr

/-- A part of a text: characters to be printed, or a tag. -/
inductive Piece where
  | plain (cs : List Char)
  | tag (name : List Char) (parameters : Option (List Char))
  deriving DecidableEq, Repr

namespace Tag

/-- The number of characters of a tag and the backslashes before it. -/
def length (t : Tag) : Nat := t.backslashes + t.content.length + 2

/-- Whether a tag may begin with a character. -/
def isStart (c : Char) : Bool :=
  ('a' ≤ c && c ≤ 'z') || c == '#' || c == '/' || c == '@'

/-- The tag at the front of a text. -/
def read? (cs : List Char) : Option Tag :=
  match cs.dropWhile (· == '\\') with
  | '[' :: body =>
    let content := body.takeWhile fun c => c != '[' && c != ']'
    if content.head?.any isStart && body[content.length]? == some ']' then
      some ⟨(cs.takeWhile (· == '\\')).length, content⟩
    else
      none
  | _ => none

/-- What a tag with the backslashes before it stands for. -/
def pieces (t : Tag) : List Piece :=
  let kept :=
    if t.backslashes < 2 then [] else [.plain (List.replicate (t.backslashes / 2) '\\')]
  if t.backslashes % 2 = 1 then
    kept ++ [.plain ('[' :: t.content ++ [']'])]
  else
    let name := t.content.takeWhile (· != '=')
    let parameters :=
      if name.length = t.content.length then none else some (t.content.drop (name.length + 1))
    kept ++ [.tag name parameters]

end Tag

namespace Piece

/-- The piece of some characters before the rest of the pieces. -/
def before (run : List Char) (ps : List Piece) : List Piece :=
  if run.isEmpty then ps else .plain run.reverse :: ps

/-- The pieces of a text after the characters of a run, the last of them first, and some
characters that have been dealt with. -/
def ofTextFrom (run : List Char) : Nat → List Char → List Piece
  | _, [] => before run []
  | skip + 1, _ :: cs => ofTextFrom run skip cs
  | 0, c :: cs =>
    match Tag.read? (c :: cs) with
    | some t => before run (t.pieces ++ ofTextFrom [] (t.length - 1) cs)
    | none => ofTextFrom (c :: run) 0 cs

/-- The pieces of a text. -/
def ofText (cs : List Char) : List Piece := ofTextFrom [] 0 cs

end Piece

end MessagePlacement.Markup
