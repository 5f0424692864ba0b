import MessagePlacement.Text.Quoted
import MessagePlacement.Text.Segments

/-!
# File paths

A `Path` is a written path in normal form: empty segments and single dots are left out,
while two dots are kept, since what they lead to depends on the files.  A path that
starts with a slash is absolute; two slashes at the start, but not more, are kept.  The
display form of the path without segments is a dot.
-/

namespace MessagePlacement

/-- A path in normal form. -/
structure Path where
  root : String
  segments : List String
  deriving DecidableEq, Repr

namespace Path

/-- The slashes at the start of a path that are kept. -/
def rootOf : List Char → String
  | '/' :: '/' :: '/' :: _ => "/"
  | '/' :: '/' :: _ => "//"
  | '/' :: _ => "/"
  | _ => ""

/-- The normal form of a written path. -/
def ofText (s : String) : Path :=
  ⟨rootOf s.toList, (Text.segmentsOn "/" s).filter (· ≠ ".")⟩

/-- Whether a path starts at the root. -/
def isAbsolute (p : Path) : Bool := p.root ≠ ""

/-- The written form of a path. -/
def text (p : Path) : String :=
  if p.root = "" ∧ p.segments = [] then "." else p.root ++ Text.join "/" p.segments

/-- The path without its last segment; a path without segments is its own parent. -/
def parent (p : Path) : Path := ⟨p.root, p.segments.dropLast⟩

/-- The paths that lead to a path, one segment after the other. -/
def stages (p : Path) : List Path :=
  (List.range (p.segments.length + 1)).map fun n => ⟨p.root, p.segments.take n⟩

/-- The last segment of a path. -/
def name (p : Path) : String := p.segments.getLastD ""

/-- The part of a file name from its last dot on, unless the dot is its first or last character. -/
def suffix (p : Path) : String :=
  match Text.parts "." p.name with
  | [] | [_] => ""
  | parts =>
    let stem := Text.join "." parts.dropLast
    let last := parts.getLastD ""
    if stem = "" ∨ last = "" then "" else "." ++ last

end Path

end MessagePlacement
