import Brokerage.Json.Reader

/-!
# Sortable identifiers

An identifier of 128 bits, written as 26 digits of five bits each. The digits are the decimal ones
and the capital letters without I, L, O and U; small letters are read as capital ones.
-/

namespace Brokerage

/-- An identifier of 128 bits. -/
structure Ulid where
  number : Nat
  isLt : number < Nat.pow 2 128
  deriving DecidableEq

namespace Ulid

/-- Why a text is no identifier. -/
inductive Fault where
  /-- It does not take up 26 bytes. -/
  | length
  /-- One of its characters is no digit. -/
  | character
  deriving DecidableEq, Repr

/-- The wording of a fault. -/
def Fault.message : Fault → String
  | .length => "invalid length"
  | .character => "invalid character"

/-- The identifier with the lowest 128 bits of a number. -/
def ofNat (n : Nat) : Ulid :=
  ⟨n % Nat.pow 2 128, Nat.mod_lt _ (by decide)⟩

/-- The digits in the order of their values. -/
def alphabet : List Char :=
  "0123456789ABCDEFGHJKMNPQRSTVWXYZ".toList

/-- The digit with this value. -/
def digitChar (n : Nat) : Char :=
  alphabet.getD n '0'

/-- The value of a digit, in either case. -/
def digitValue? (c : Char) : Option Nat :=
  alphabet.findIdx? (· == c.toUpper)

/-- The lowest `count` digits of a number. -/
def digits : Nat → Nat → List Char
  | 0, _ => []
  | count + 1, n => digits count (n / 32) ++ [digitChar (n % 32)]

/-- The 26 digits of an identifier. -/
def write (u : Ulid) : String :=
  String.ofList (digits 26 u.number)

/-- The number that digits write after `n`. -/
def readDigits : Nat → List Char → Option Nat
  | n, [] => some n
  | n, c :: cs =>
    match digitValue? c with
    | some d => readDigits (n * 32 + d) cs
    | none => none

/-- The identifier that a text is. The two bits that 26 digits have too many are dropped. -/
def parse (s : String) : Except Fault Ulid :=
  if s.utf8ByteSize = 26 then
    match readDigits 0 s.toList with
    | some n => .ok (ofNat n)
    | none => .error .character
  else .error .length

/-- An identifier in a JSON text. -/
def read : Json.Reader Ulid :=
  Json.Reader.filterMap (fun s => (parse s).toOption) Json.readText

end Ulid

end Brokerage
