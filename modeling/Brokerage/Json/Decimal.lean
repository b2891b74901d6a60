/-!
# The shortest decimal of a binary number

A binary number of 64 bits stands for every real that rounds to it. The shortest decimal among those
reals is the point of the coarsest decimal grid that has one; of two such points the nearer one is
taken. All comparisons are between natural numbers.
-/

namespace Brokerage.Json

/-- The number `digits * 10 ^ exponent`. -/
structure Decimal where
  digits : Nat
  exponent : Int
  deriving DecidableEq, Repr

/-- A positive binary number `significand * 2 ^ exponent`. -/
structure Binary where
  significand : Nat
  exponent : Int

/-- The absolute value of the binary number with these 64 bits. -/
def Binary.ofBits (bits : UInt64) : Binary :=
  let fraction : Nat := bits.toNat % Nat.pow 2 52
  let power : Nat := bits.toNat / Nat.pow 2 52 % Nat.pow 2 11
  if power = 0 then ⟨fraction, -1074⟩ else ⟨fraction + Nat.pow 2 52, (power : Int) - 1075⟩

/-- `c * 10 ^ g` in units of `x * 2 ^ e`: both sides of the comparison, denominators cleared. -/
def crossed (c : Nat) (g : Int) (x : Nat) (e : Int) : Nat × Nat :=
  (c * Nat.pow 10 g.toNat * Nat.pow 2 (-e).toNat, x * Nat.pow 2 e.toNat * Nat.pow 10 (-g).toNat)

namespace Binary

/-- The reals that round to the number, in quarters of its last place: the least and the greatest.
Below a power of two the numbers lie twice as close. -/
def bounds (b : Binary) : Nat × Nat :=
  let lower := if b.significand = Nat.pow 2 52 ∧ -1074 < b.exponent then 1 else 2
  (4 * b.significand - lower, 4 * b.significand + 2)

/-- True if `c * 10 ^ g` rounds to the number; a tie goes to the even significand. -/
def holds (b : Binary) (c : Nat) (g : Int) : Bool :=
  let e := b.exponent - 2
  let low := crossed c g b.bounds.1 e
  let high := crossed c g b.bounds.2 e
  if b.significand % 2 = 0 then low.2 ≤ low.1 && high.1 ≤ high.2
  else low.2 < low.1 && high.1 < high.2

/-- The multiple of `10 ^ g` at or below the number, as a count. -/
def below (b : Binary) (g : Int) : Nat :=
  let sides := crossed 1 g b.significand b.exponent
  sides.2 / sides.1

/-- True if `c * 10 ^ g` is at least as near to the number as the next multiple. -/
def nearer (b : Binary) (c : Nat) (g : Int) : Bool :=
  let sides := crossed (2 * c + 1) g (2 * b.significand) b.exponent
  sides.2 < sides.1 || (sides.2 == sides.1 && c % 2 == 0)

/-- The point of the grid of step `10 ^ g` that stands for the number, if there is one. -/
def pointOn (b : Binary) (g : Int) : Option Decimal :=
  let c := b.below g
  let low := 0 < c && b.holds c g
  let high := b.holds (c + 1) g
  if low && (!high || b.nearer c g) then some ⟨c, g⟩
  else if high then some ⟨c + 1, g⟩
  else none

/-- The first point found on the grids of step `10 ^ (n - 342)` and the `n` finer ones. -/
def pointFrom (b : Binary) : Nat → Decimal
  | 0 => ⟨b.below (-342), -342⟩
  | n + 1 => (b.pointOn ((n : Int) - 341)).getD (b.pointFrom n)

/-- The shortest decimal that rounds to the number. -/
def shortest (b : Binary) : Decimal :=
  b.pointFrom 651

end Binary

end Brokerage.Json
