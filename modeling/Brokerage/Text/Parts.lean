/-!
# Parts of a text

A text cut in two, at its first separator or at its last one. Where a text is cut at all of its
separators, it is `List.splitOn` that does it.
-/

namespace Brokerage.Text

/-- Cuts at the first separator: what stands in front of it and, if there is one, what follows. -/
def cut {α : Type} [DecidableEq α] (sep : α) : List α → List α × Option (List α)
  | [] => ([], none)
  | a :: as =>
    if a = sep then ([], some as)
    else
      match cut sep as with
      | (front, rest) => (a :: front, rest)

/-- Cuts at the last separator: what stands in front of it, if there is one, and what follows. -/
def cutLast {α : Type} [DecidableEq α] (sep : α) (as : List α) : Option (List α) × List α :=
  match cut sep as.reverse with
  | (back, front) => (front.map List.reverse, back.reverse)

end Brokerage.Text
