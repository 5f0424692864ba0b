import MessagePlacement.Text.Blank
import MessagePlacement.Text.Case
import MessagePlacement.Text.PictographTable

/-!
# Pictographs by name

A pictograph may be written as its name between colons, in any letter case.  At the end of
the name `-emoji` or `-text` chooses its form.  `withPictographs` puts the pictographs in the
place of their names and leaves what is no name of one, with both its colons.
-/

namespace MessagePlacement.Text

/-- The pictographs, each in front of its names. -/
def pictographs : List (List String) :=
  (pictographTable.splitOn "\n").map (·.splitOn " ")

/-- The pictograph with a name. -/
def pictograph? (name : String) : Option String := do
  (← pictographs.find? fun line => line.tail.contains name).head?

/-- A name without the ending that chooses a form, and the sign that stands for the form. -/
def chosenForm (name : List Char) : List Char × List Char :=
  let without (ending : List Char) := name.take (name.length - ending.length)
  if "-emoji".toList.isSuffixOf name then (without "-emoji".toList, ['\ufe0f'])
  else if "-text".toList.isSuffixOf name then (without "-text".toList, ['\ufe0e'])
  else (name, [])

/-- The characters that a name between colons stands for. -/
def namedPictograph (name : List Char) : List Char :=
  let (plain, form) := chosenForm name
  match pictograph? (lower (String.ofList plain)) with
  | some s => s.toList ++ form
  | none => ':' :: name ++ [':']

/-- The name up to the next colon, if there is one before the next blank. -/
def nameBeforeColon? (cs : List Char) : Option (List Char) :=
  let name := cs.takeWhile fun c => c != ':' && !isBlank c
  if cs[name.length]? = some ':' then some name else none

/-- The rest of a text with pictographs for their names, some characters being dealt with. -/
def replaceNames : Nat → List Char → List Char
  | _, [] => []
  | skip + 1, _ :: cs => replaceNames skip cs
  | 0, c :: cs =>
    match if c = ':' then nameBeforeColon? cs else none with
    | some name => namedPictograph name ++ replaceNames (name.length + 1) cs
    | none => c :: replaceNames 0 cs

/-- Characters with pictographs for their names. -/
def withPictographs (cs : List Char) : List Char := replaceNames 0 cs

end MessagePlacement.Text
