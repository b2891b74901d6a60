import Brokerage.Text.Cased

/-!
# Lower case of a text

The full Unicode lower case: one character may become two, and the Greek capital sigma becomes
the final sigma at the end of a word.
-/

namespace Brokerage.Text

/-- True if the first character that is not ignorable is cased: a word goes on here. -/
def meetsCased (cs : List Char) : Bool :=
  match cs.dropWhile isCaseIgnorable with
  | [] => false
  | c :: _ => isCased c

/-- The lower case of `c` between `before` (nearest character first) and `after`. A capital sigma
that ends a word turns into the final sigma, and the dotted capital I keeps its dot. -/
def lowerAt (before : List Char) (c : Char) (after : List Char) : List Char :=
  if c = 'Σ' then [if meetsCased before && !meetsCased after then 'ς' else 'σ']
  else if c = 'İ' then ['i', '\u0307']
  else [lowerChar c]

/-- The lower case of the characters that follow `before`, which holds the nearest one first. -/
def lowerFrom (before : List Char) : List Char → List Char
  | [] => []
  | c :: rest => lowerAt before c rest ++ lowerFrom (c :: before) rest

/-- The lower case of a text. -/
def lower (s : String) : String :=
  String.ofList (lowerFrom [] s.toList)

end Brokerage.Text
