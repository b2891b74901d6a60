import Brokerage.Json.Quote
import Brokerage.Text.Parts

/-!
# Internet addresses

Addresses of four bytes, written with full stops, and of eight pieces of 16 bits, written with
colons.
-/

namespace Brokerage.Address

/-- The value of a digit in base 16. -/
def hexValue? (c : Char) : Option Nat :=
  if c.toNat < 0x80 then Json.hexValue? (UInt8.ofNat c.toNat) else none

/-- The number that digits write in a base of at most 16, after `n`. -/
def digitsFrom (base n : Nat) : List Char → Option Nat
  | [] => some n
  | c :: cs =>
    match hexValue? c with
    | some d => if d < base then digitsFrom base (n * base + d) cs else none
    | none => none

/-- The number that one or more digits write. -/
def digits? (base : Nat) : List Char → Option Nat
  | [] => none
  | cs => digitsFrom base 0 cs

/-! ### Four bytes -/

/-- A number in an address: hexadecimal after `0x`, octal after `0`, else decimal. A sign of the
base without digits is zero. -/
def number? : List Char → Option Nat
  | [] => none
  | ['0'] => some 0
  | '0' :: c :: cs =>
    if c = 'x' ∨ c = 'X' then digitsFrom 16 0 cs else digitsFrom 8 0 (c :: cs)
  | cs => digitsFrom 10 0 cs

/-- The parts of a name between full stops, without an empty one at its end. -/
def parts (name : List Char) : List (List Char) :=
  match (name.splitOn '.').reverse with
  | [] :: rest => rest.reverse
  | rest => rest.reverse

/-- True if the last part of a name is a number, so that the name has to be an address. -/
def endsInNumber (name : List Char) : Bool :=
  match (parts name).getLast? with
  | some part => (!part.isEmpty && part.all Char.isDigit) || (number? part).isSome
  | none => false

/-- The address that bytes write when the last number stands for all bytes that are left. -/
def combine : Nat → List Nat → Option Nat
  | _, [] => none
  | left, [n] => if n < Nat.pow 256 left then some n else none
  | left, n :: rest =>
    if n ≤ 255 then (combine (left - 1) rest).map (n * Nat.pow 256 (left - 1) + ·) else none

/-- The numbers that parts write. -/
def numbers? : List (List Char) → Option (List Nat)
  | [] => some []
  | part :: rest =>
    match number? part, numbers? rest with
    | some n, some ns => some (n :: ns)
    | _, _ => none

/-- The address of four bytes that a name is. -/
def ipv4? (name : List Char) : Option Nat :=
  match numbers? (parts name) with
  | some ns => if ns.length ≤ 4 then combine 4 ns else none
  | none => none

/-- The bytes of an address as decimal numbers. -/
def writeIpv4 (n : Nat) : String :=
  String.intercalate "." ([n / 0x1000000, n / 0x10000 % 256, n / 256 % 256, n % 256].map Nat.repr)

/-! ### Eight pieces -/

/-- A byte in decimal, without zeros in front. -/
def byte? : List Char → Option Nat
  | ['0'] => some 0
  | '0' :: _ => none
  | cs =>
    match digits? 10 cs with
    | some n => if n ≤ 255 ∧ cs.length ≤ 3 then some n else none
    | none => none

/-- The two pieces that four bytes with full stops between them are. -/
def dotted? (cs : List Char) : Option (List Nat) :=
  match (cs.splitOn '.').map byte? with
  | [some a, some b, some c, some d] => some [a * 256 + b, c * 256 + d]
  | _ => none

/-- One piece of one to four hexadecimal digits. -/
def piece? (cs : List Char) : Option Nat :=
  if cs.length ≤ 4 then digits? 16 cs else none

/-- The pieces that groups are. The last one may be of four bytes if `last` says so. -/
def pieces? (last : Bool) : List (List Char) → Option (List Nat)
  | [] => some []
  | [group] =>
    match piece? group with
    | some n => some [n]
    | none => if last then dotted? group else none
  | group :: next :: rest =>
    match piece? group, pieces? last (next :: rest) with
    | some n, some ns => some (n :: ns)
    | _, _ => none

/-- The pieces of a text with colons between them; an empty text has none. -/
def readPieces? (last : Bool) (cs : List Char) : Option (List Nat) :=
  if cs.isEmpty then some [] else pieces? last (cs.splitOn ':')

/-- Cuts at the first pair of colons. -/
def cutColons : List Char → List Char × Option (List Char)
  | ':' :: ':' :: rest => ([], some rest)
  | [] => ([], none)
  | c :: rest =>
    match cutColons rest with
    | (front, back) => (c :: front, back)

/-- The eight pieces that a text is. A pair of colons stands for one zero or more. -/
def ipv6? (cs : List Char) : Option (List Nat) :=
  match cutColons cs with
  | (front, none) =>
    match readPieces? true front with
    | some ns => if ns.length = 8 then some ns else none
    | none => none
  | (front, some back) =>
    match readPieces? false front, readPieces? true back with
    | some ns, some ms =>
      if ns.length + ms.length ≤ 7 then
        some (ns ++ List.replicate (8 - ns.length - ms.length) 0 ++ ms)
      else none
    | _, _ => none

/-- How many zeros stand in front. -/
def zerosAhead (ns : List Nat) : Nat :=
  (ns.takeWhile (· == 0)).length

/-- The length of the longest run of zeros. -/
def longestZeros : List Nat → Nat
  | [] => 0
  | n :: ns => Nat.max (zerosAhead (n :: ns)) (longestZeros ns)

/-- The pieces in hexadecimal with colons between them. -/
def writePieces (ns : List Nat) : String :=
  String.intercalate ":" (ns.map (fun n => String.ofList (Nat.toDigits 16 n)))

/-- The pieces in front of the first run of `count` zeros, and those behind it. -/
def splitZeros (count : Nat) : List Nat → List Nat × List Nat
  | [] => ([], [])
  | n :: ns =>
    if zerosAhead (n :: ns) = count then ([], (n :: ns).drop count)
    else
      match splitZeros count ns with
      | (front, back) => (n :: front, back)

/-- The eight pieces as a text. A pair of colons takes the place of the first of the longest runs
of two zeros or more. -/
def writeIpv6 (ns : List Nat) : String :=
  if longestZeros ns < 2 then writePieces ns
  else
    match splitZeros (longestZeros ns) ns with
    | (front, back) => writePieces front ++ "::" ++ writePieces back

end Brokerage.Address
