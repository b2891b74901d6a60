/-!
# Decimal numerals

Whole numbers as a setting gives them: digits, with a plus sign in front if one likes.
-/

namespace Brokerage.Text

/-- Why a text is no number. -/
inductive NumeralFault where
  /-- There is nothing to read. -/
  | empty
  /-- A character is no digit. -/
  | digit
  /-- The number takes more than 64 bits. -/
  | tooLarge
  deriving DecidableEq, Repr

/-- The wording of a fault. -/
def NumeralFault.message : NumeralFault → String
  | .empty => "cannot parse integer from empty string"
  | .digit => "invalid digit found in string"
  | .tooLarge => "number too large to fit in target type"

/-- The number that digits write after `n`. From left to right, the first fault is reported. -/
def readDigits (n : Nat) : List Char → Except NumeralFault Nat
  | [] => .ok n
  | c :: cs =>
    if c.isDigit then
      if n * 10 + (c.toNat - 0x30) < Nat.pow 2 64 then readDigits (n * 10 + (c.toNat - 0x30)) cs
      else .error .tooLarge
    else .error .digit

/-- The number of at most 64 bits that characters write. -/
def readNumeralChars : List Char → Except NumeralFault Nat
  | [] => .error .empty
  | ['+'] => .error .digit
  | '+' :: cs => readDigits 0 cs
  | cs => readDigits 0 cs

/-- The number of at most 64 bits that a text is. -/
def readNumeral (s : String) : Except NumeralFault Nat :=
  readNumeralChars s.toList

end Brokerage.Text
