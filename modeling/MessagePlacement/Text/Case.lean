import MessagePlacement.Text.CaseContext
import MessagePlacement.Text.CaseTable

/-!
# Letter case

`upperChar` and `lowerChar` are the full case mappings of a single character, without
regard to its neighbours: a character may become several (`ß` becomes `SS`, `ﬁ` becomes
`FI`), and the upper case of a digraph such as `ǆ` is `Ǆ` and not its title case.
`capitalize` changes the first character of a text only, and `lower` all of them.  In
`lower` a sigma at the end of a word gets its final form: one that a cased character
precedes and none follows, characters that are passed over aside.
-/

namespace MessagePlacement.Text

/-- The image of a character under a case mapping given by its tables. -/
def mapCase (expansions : List (Nat × List Nat)) (runs : List CaseRun) (c : Char) : List Char :=
  match expansions.lookup c.toNat with
  | some ns => ns.map Char.ofNat
  | none =>
    match runs.findSome? (·.image? c.toNat) with
    | some n => [Char.ofNat n]
    | none => [c]

/-- The upper case of a character. -/
def upperChar (c : Char) : List Char :=
  mapCase upperExpansions upperRuns c

/-- The lower case of a character. -/
def lowerChar (c : Char) : List Char :=
  mapCase lowerExpansions lowerRuns c

/-- A text with its first character in upper case. -/
def capitalize (s : String) : String :=
  match s.toList with
  | [] => ""
  | c :: cs => String.ofList (upperChar c ++ cs)

/-- The capital sigma. -/
def capitalSigma : Char := '\u03a3'

/-- The lower case of a sigma between the characters before it, the nearest first, and the
characters after it. -/
def lowerSigma (before after : List Char) : Char :=
  if meetsCased before && !meetsCased after then '\u03c2' else '\u03c3'

/-- The lower case of characters, given those before them, the nearest first. -/
def lowerFrom : List Char → List Char → List Char
  | _, [] => []
  | before, c :: cs =>
    (if c = capitalSigma then [lowerSigma before cs] else lowerChar c) ++ lowerFrom (c :: before) cs

/-- A text with every character in lower case. -/
def lower (s : String) : String :=
  String.ofList (lowerFrom [] s.toList)

end MessagePlacement.Text
