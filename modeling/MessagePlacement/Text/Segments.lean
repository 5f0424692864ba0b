/-!
# Segments

A dotted or slashed path is a text cut into segments by a separator.  `parts` cuts at
every occurrence of the separator, leftmost first and without overlap, so that empty
parts stand between adjacent separators and at the ends; `segmentsOn` keeps the parts
that are not empty, and `join` puts the separator between the members of a list.
`split` is `segmentsOn` with the one case in which cutting has no meaning refused: an
empty separator in a path that is not empty.
-/

namespace MessagePlacement.Text

/-- The parts of a list between the occurrences of `sep`, the first `n` characters being
the rest of an occurrence that has begun. -/
def partsFrom (sep : List Char) : Nat → List Char → List (List Char)
  | _, [] => [[]]
  | n + 1, _ :: cs => partsFrom sep n cs
  | 0, c :: cs =>
    if sep.isPrefixOf (c :: cs) then
      [] :: partsFrom sep (sep.length - 1) cs
    else
      match partsFrom sep 0 cs with
      | [] => [[c]]
      | p :: ps => (c :: p) :: ps

/-- The parts of a text between the occurrences of a separator. -/
def parts (separator path : String) : List String :=
  (partsFrom separator.toList 0 path.toList).map String.ofList

/-- The parts of a text between the occurrences of a separator that are not empty. -/
def segmentsOn (separator path : String) : List String :=
  (parts separator path).filter (· ≠ "")

/-- The segments of a dotted name. -/
def segments (name : String) : List String :=
  segmentsOn "." name

/-- The members of a list with the separator between them. -/
def join (separator : String) (xs : List String) : String :=
  separator.intercalate xs

/-- The slashed form of a dotted path. -/
def directoryPath (path : String) : String :=
  join "/" (segments path)

/-- Why a path cannot be cut. -/
inductive SplitError where
  | emptySeparator
  deriving DecidableEq, Repr

/-- The text of a refusal. -/
def SplitError.message : SplitError → String
  | .emptySeparator => "empty separator"

/-- The segments of a path; an empty path has none, whatever the separator. -/
def split (path separator : String) : Except SplitError (List String) :=
  if path = "" then
    .ok []
  else if separator = "" then
    .error .emptySeparator
  else
    .ok (segmentsOn separator path)

/-- The part of a text before the last dot, empty if there is no dot. -/
def beforeLastDot (name : String) : String :=
  join "." (parts "." name).dropLast

/-- The part of a text before the last slash, empty if there is no slash. -/
def beforeLastSlash (path : String) : String :=
  join "/" (parts "/" path).dropLast

/-- A text without `start` at its front, if it starts so. -/
def dropStart? (start s : String) : Option String :=
  if start.toList.isPrefixOf s.toList then
    some (String.ofList (s.toList.drop start.toList.length))
  else
    none

end MessagePlacement.Text
