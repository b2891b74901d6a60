/-!
# Decimal digits

Digits of a fixed width, as fractions, times and dates are written with.
-/

namespace Brokerage.Text

/-- The last `width` decimal digits of a number. -/
def padded : Nat → Nat → List Char
  | 0, _ => []
  | width + 1, n => padded width (n / 10) ++ [Nat.digitChar (n % 10)]

/-- A list of digits without the zeros at its end. -/
def dropZeros (ds : List Char) : List Char :=
  (ds.reverse.dropWhile (· == '0')).reverse

end Brokerage.Text
