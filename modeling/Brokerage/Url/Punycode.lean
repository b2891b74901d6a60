import Brokerage.Text.Parts

/-!
# Punycode

Letters beyond ASCII inside a domain name, written with letters and digits only. The ASCII
characters come first; each further character follows as the distance from the one before it, by
code point and place, in a number whose digits carry their own end mark.
-/

namespace Brokerage.Punycode

/-- The digit with this value: `a` to `z`, then `0` to `9`. -/
def digitChar (d : Nat) : Char :=
  if d < 26 then Char.ofNat (0x61 + d) else Char.ofNat (0x30 + (d - 26))

/-- The value of a digit. -/
def digitValue? (c : Char) : Option Nat :=
  if 'a' ≤ c ∧ c ≤ 'z' then some (c.toNat - 0x61)
  else if '0' ≤ c ∧ c ≤ '9' then some (c.toNat - 0x30 + 26)
  else none

/-- Digits below this value end a number. It depends on the place of the digit, counted in steps
of 36, and on the bias. -/
def threshold (place bias : Nat) : Nat :=
  if place ≤ bias then 1 else if bias + 26 ≤ place then 26 else place - bias

theorem one_le_threshold (place bias : Nat) : 1 ≤ threshold place bias := by
  unfold threshold
  split
  · omega
  · split <;> omega

/-- How often a distance is divided by 35 until it is at most 455, in steps of 36, and what is
left of it. -/
def scaled (delta steps : Nat) : Nat × Nat :=
  if 455 < delta then scaled (delta / 35) (steps + 36) else (delta, steps)
termination_by delta
decreasing_by exact Nat.div_lt_self (by omega) (by omega)

/-- The bias after a distance, when `count` characters are known. -/
def adapt (delta count : Nat) (first : Bool) : Nat :=
  let halved := if first then delta / 700 else delta / 2
  match scaled (halved + halved / count) 0 with
  | (rest, steps) => steps + 36 * rest / (rest + 38)

/-! ### Writing -/

/-- A number from the digit at `place` on. -/
def writeNumber (bias place n : Nat) : List Char :=
  let t := threshold place bias
  if n < t then [digitChar n]
  else digitChar (t + (n - t) % (36 - t)) :: writeNumber bias (place + 36) ((n - t) / (36 - t))
termination_by n
decreasing_by
  have := one_le_threshold place bias
  exact Nat.lt_of_le_of_lt (Nat.div_le_self _ _) (by omega)

/-- What writing has reached: the digits so far, the distance since the last number, the bias, and
how many characters are known. -/
structure Progress where
  written : List Char
  delta : Nat
  bias : Nat
  known : Nat

/-- Passes one character of the text while those with the code point `code` are written. -/
def pass (basics code : Nat) (p : Progress) (c : Char) : Progress :=
  if c.toNat < code then { p with delta := p.delta + 1 }
  else if c.toNat = code then
    { written := p.written ++ writeNumber p.bias 36 p.delta
      delta := 0
      bias := adapt p.delta (p.known + 1) (p.known == basics)
      known := p.known + 1 }
  else p

/-- Writes the characters with the given code points, which ascend; `next` is the least code point
that may still come. -/
def writeCodes (cs : List Char) (basics : Nat) : List Nat → Nat → Progress → Progress
  | [], _, p => p
  | code :: codes, next, p =>
    let q := cs.foldl (pass basics code)
      { p with delta := p.delta + (code - next) * (p.known + 1) }
    writeCodes cs basics codes (code + 1) { q with delta := q.delta + 1 }

/-- The code points beyond ASCII in a text, each once, in ascending order. -/
def codes (cs : List Char) : List Nat :=
  ((cs.map Char.toNat).filter (0x80 ≤ ·)).eraseDups.mergeSort

/-- A text in letters and digits. -/
def write (cs : List Char) : List Char :=
  let basic := cs.filter (·.toNat < 0x80)
  (if basic.isEmpty then [] else basic ++ ['-']) ++
    (writeCodes cs basic.length (codes cs) 0x80 ⟨[], 0, 72, basic.length⟩).written

/-! ### Reading -/

/-- What reading has reached: the characters so far, the place and the code point of the last one,
the bias, and of the number being read the weight and the place of the next digit and its value. -/
structure Reading where
  found : List Char
  index : Nat
  code : Nat
  bias : Nat
  value : Nat
  weight : Nat
  place : Nat

/-- No number that comes up while reading reaches this one. -/
def numberLimit : Nat := 0x100000000

/-- The reading after one more digit; `none` if there is no such digit, no such character, or the
number grows too large. -/
def Reading.feed (r : Reading) (c : Char) : Option Reading :=
  match digitValue? c with
  | none => none
  | some d =>
    let t := threshold r.place r.bias
    let value := r.value + d * r.weight
    if numberLimit ≤ r.index + value then none
    else if d < t then
      let count := r.found.length + 1
      let code := r.code + (r.index + value) / count
      let index := (r.index + value) % count
      if code.isValidChar then
        some
          { found := r.found.take index ++ Char.ofNat code :: r.found.drop index
            index := index + 1
            code := code
            bias := adapt value count (r.index == 0)
            value := 0
            weight := 1
            place := 36 }
      else none
    else if numberLimit ≤ r.weight * (36 - t) then none
    else some { r with value := value, weight := r.weight * (36 - t), place := r.place + 36 }

/-- The reading after all digits. -/
def Reading.feedAll (r : Reading) : List Char → Option Reading
  | [] => some r
  | c :: cs =>
    match r.feed c with
    | some r => r.feedAll cs
    | none => none

/-- The text that letters and digits stand for. The last hyphen ends its ASCII characters, of which
there is at least one. -/
def read? (cs : List Char) : Option (List Char) :=
  match Text.cutLast '-' cs with
  | (some [], _) => none
  | (basic, rest) =>
    match (Reading.mk (basic.getD []) 0 0x80 72 0 1 36).feedAll rest with
    | some r => if r.place = 36 then some r.found else none
    | none => none

end Brokerage.Punycode
