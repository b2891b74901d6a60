import Brokerage.Text.Digits

/-!
# Durations

Spans of time, kept in nanoseconds and written in the largest unit that one of them fills.
-/

namespace Brokerage

/-- A span of time. -/
structure Duration where
  nanoseconds : Nat
  deriving DecidableEq, Repr

namespace Duration

instance : LE Duration := ⟨fun a b => a.nanoseconds ≤ b.nanoseconds⟩

instance : LT Duration := ⟨fun a b => a.nanoseconds < b.nanoseconds⟩

instance (a b : Duration) : Decidable (a ≤ b) :=
  inferInstanceAs (Decidable (a.nanoseconds ≤ b.nanoseconds))

instance (a b : Duration) : Decidable (a < b) :=
  inferInstanceAs (Decidable (a.nanoseconds < b.nanoseconds))

/-- So many seconds. -/
def ofSeconds (n : Nat) : Duration := ⟨n * 1_000_000_000⟩

/-- The whole seconds in a span. -/
def seconds (d : Duration) : Nat := d.nanoseconds / 1_000_000_000

/-- The nanoseconds of a span beyond its whole seconds. -/
def rest (d : Duration) : Nat := d.nanoseconds % 1_000_000_000

/-- True of no time at all. -/
def isZero (d : Duration) : Bool := d.nanoseconds == 0

/-- A fraction of `places` decimal digits behind its point, without the zeros at its end. -/
def writeFraction (places n : Nat) : String :=
  match Text.dropZeros (Text.padded places n) with
  | [] => ""
  | digits => "." ++ String.ofList digits

/-- The span in units of `10 ^ places` nanoseconds. -/
def writeIn (places : Nat) (unit : String) (d : Duration) : String :=
  Nat.repr (d.nanoseconds / Nat.pow 10 places) ++
    writeFraction places (d.nanoseconds % Nat.pow 10 places) ++ unit

/-- The span in the largest unit that one of them fills. -/
def write (d : Duration) : String :=
  if 1_000_000_000 ≤ d.nanoseconds then d.writeIn 9 "s"
  else if 1_000_000 ≤ d.nanoseconds then d.writeIn 6 "ms"
  else if 1_000 ≤ d.nanoseconds then d.writeIn 3 "µs"
  else d.writeIn 0 "ns"

end Duration

end Brokerage
