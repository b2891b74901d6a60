import Brokerage.Text.Range

/-!
# Blank characters

The Unicode property White_Space, and texts without the blanks around them.
-/

namespace Brokerage.Text

/-- Code points with the property White_Space. -/
def blankRanges : List Range :=
  [(0x09, 0x0D), (0x20, 0x20), (0x85, 0x85), (0xA0, 0xA0), (0x1680, 0x1680), (0x2000, 0x200A),
   (0x2028, 0x2029), (0x202F, 0x202F), (0x205F, 0x205F), (0x3000, 0x3000)]

/-- True of white space, the no-break and the ideographic space included. -/
def isBlank (c : Char) : Bool :=
  inRanges blankRanges c.toNat

/-- The characters without those at either end that `p` holds of. -/
def stripBy (p : Char → Bool) (cs : List Char) : List Char :=
  ((cs.dropWhile p).reverse.dropWhile p).reverse

/-- The text without the blanks around it. -/
def trim (s : String) : String :=
  String.ofList (stripBy isBlank s.toList)

/-- The trimmed text, if anything is left of it. -/
def nonBlank? (s : String) : Option String :=
  if trim s = "" then none else some (trim s)

end Brokerage.Text
