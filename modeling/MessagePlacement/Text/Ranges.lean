/-!
# Ranges of code points

A property of characters is given by the ranges of the code points that have it, each with
its first and last one, in increasing order.
-/

namespace MessagePlacement.Text

/-- Whether one of the ranges holds a code point. -/
def inRanges (ranges : List (Nat × Nat)) (n : Nat) : Bool :=
  ranges.any fun r => r.1 ≤ n && n ≤ r.2

end MessagePlacement.Text
