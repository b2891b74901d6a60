import Brokerage.Text.Canonical.Pieces
import Brokerage.Text.Canonical.Rank

/-!
# Composed texts

Texts that differ only in how their letters are put together get one spelling: every character is
taken apart, marks on one letter are put in the order of their ranks, and what can be joined is
joined again.
-/

namespace Brokerage.Text

/-- The characters that a character consists of. -/
def piecesOf (c : Char) : List Char :=
  (pieces c.toNat).map Char.ofNat

/-- Puts a character in front of ordered ones: a mark goes behind marks of a smaller rank, and
nothing passes a character of rank 0. -/
def placeByRank (c : Char) : List Char → List Char
  | [] => [c]
  | d :: rest =>
    if rank d != 0 && rank d < rank c then d :: placeByRank c rest else c :: d :: rest

/-- The characters with the marks on each letter in the order of their ranks. Marks of one rank
keep their order. -/
def orderMarks (cs : List Char) : List Char :=
  cs.foldr placeByRank []

/-- Joins what can be joined: `letter` is the letter that marks are put on, `marks` the marks that
it has kept so far, last one first. A mark reaches the letter unless one of the same rank stands
between them. -/
def joinMarks (letter : Char) (marks : List Char) : List Char → List Char
  | [] => letter :: marks.reverse
  | c :: rest =>
    let reaches := marks.head?.all (rank · < rank c)
    match if reaches then joined? letter.toNat c.toNat else none with
    | some n => joinMarks (Char.ofNat n) marks rest
    | none =>
      if rank c = 0 then letter :: (marks.reverse ++ joinMarks c [] rest)
      else joinMarks letter (c :: marks) rest

/-- The one spelling of a text, with as many characters joined as there can be. -/
def composed (cs : List Char) : List Char :=
  match orderMarks (cs.flatMap piecesOf) with
  | [] => []
  | c :: rest => joinMarks c [] rest

end Brokerage.Text
