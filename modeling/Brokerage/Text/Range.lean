/-!
# Ranges of code points

Properties of characters are kept as ascending lists of closed ranges of code points.
-/

namespace Brokerage.Text

/-- A closed range of code points: the first and the last. -/
abbrev Range := Nat × Nat

/-- True if one of the ranges holds the code point. -/
def inRanges (ranges : List Range) (n : Nat) : Bool :=
  ranges.any fun r => r.1 ≤ n && n ≤ r.2

end Brokerage.Text
