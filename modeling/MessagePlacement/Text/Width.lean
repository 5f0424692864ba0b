import MessagePlacement.Text.WidthTable

/-!
# Column widths

The number of terminal columns that a text takes is the sum over its characters, but for
two signs that join them: the character after the joiner U+200D takes no column, and some
pictographs take a second one where the selector U+FE0F follows.  A `Cluster` is a
character with what joins it; `clusters` parts a text into them, and `takeColumns` keeps
as much of a text as fits into some columns.
-/

namespace MessagePlacement.Text

/-- The number of columns of one character. -/
def charWidth (c : Char) : Nat :=
  if 0x20 ≤ c.toNat ∧ c.toNat < 0x7F then 1
  else if inRanges zeroWidth c.toNat then 0
  else if inRanges doubleWidth c.toNat then 2
  else 1

/-- The sign that joins the character after it to the one before. -/
def joiner : Char := '\u200d'

/-- The sign that selects the wide form of a pictograph. -/
def wideSelector : Char := '\ufe0f'

/-- The columns that the selector adds after a character that takes some. -/
def selectorWidth (base : Option Char) : Nat :=
  if base.any fun c => inRanges widening c.toNat then 1 else 0

/-- The number of columns of characters, given the last one before them that takes some and
that no selector has followed. -/
def widthAfter : Option Char → List Char → Nat
  | _, [] => 0
  | base, c :: cs =>
    if c = joiner then
      match cs with
      | [] => 0
      | _ :: rest => widthAfter base rest
    else if c = wideSelector then
      selectorWidth base + widthAfter none cs
    else
      match charWidth c with
      | 0 => widthAfter base cs
      | n + 1 => n + 1 + widthAfter (some c) cs

/-- The number of columns of characters. -/
def columns (cs : List Char) : Nat := widthAfter none cs

/-- The number of columns of a text. -/
def width (s : String) : Nat := columns s.toList

/-- A character with those that take no column of their own after it, and its columns. -/
structure Cluster where
  chars : List Char
  width : Nat
  deriving DecidableEq, Repr

/-- A cluster with more characters at its end and more columns. -/
def Cluster.extend (cs : List Char) (columns : Nat) (c : Cluster) : Cluster :=
  ⟨c.chars ++ cs, c.width + columns⟩

/-- The clusters of characters after a last cluster and its character, if it takes columns. -/
def clustersAfter : Cluster → Option Char → List Char → List Cluster
  | last, _, [] => [last]
  | last, base, c :: cs =>
    if c = joiner then
      match cs with
      | [] => [last.extend [c] 0]
      | d :: rest => clustersAfter (last.extend [c, d] 0) base rest
    else if c = wideSelector then
      clustersAfter (last.extend [c] (selectorWidth base)) none cs
    else
      match charWidth c with
      | 0 => clustersAfter (last.extend [c] 0) base cs
      | n + 1 => last :: clustersAfter ⟨[c], n + 1⟩ (some c) cs

/-- The clusters of characters. -/
def clusters : List Char → List Cluster
  | [] => []
  | c :: cs =>
    if c = joiner ∨ c = wideSelector then clustersAfter ⟨[c], 0⟩ none cs
    else clustersAfter ⟨[c], charWidth c⟩ (if charWidth c = 0 then none else some c) cs

/-- The characters of the clusters at the front that fit into some columns.  A blank stands for
half of a cluster. -/
def takeClusters : Nat → List Cluster → List Char
  | _, [] => []
  | 0, _ => []
  | room + 1, c :: cs =>
    if c.width ≤ room + 1 then c.chars ++ takeClusters (room + 1 - c.width) cs else [' ']

/-- The characters at the front that fit into some columns. -/
def takeColumns (room : Nat) (cs : List Char) : List Char := takeClusters room (clusters cs)

end MessagePlacement.Text
