import Brokerage.Json.Fault

/-!
# JSON strings

A string stands between quotation marks. Quotation marks, backslashes and control characters are
escaped when written; any character may be written as an escape when read. `readQuoted` takes the
bytes after the opening mark, up to and with the closing one.
-/

namespace Brokerage.Json

/-- The quotation mark. -/
def quoteMark : UInt8 := 0x22

/-- The backslash, which starts an escape. -/
def backslash : UInt8 := 0x5C

/-- The value of a hexadecimal digit. -/
def hexValue? (b : UInt8) : Option Nat :=
  let n := b.toNat
  if 0x30 ≤ n ∧ n ≤ 0x39 then some (n - 0x30)
  else if 0x61 ≤ n ∧ n ≤ 0x66 then some (n - 0x57)
  else if 0x41 ≤ n ∧ n ≤ 0x46 then some (n - 0x37)
  else none

/-- The number that four hexadecimal digits write. -/
def hex4? (a b c d : UInt8) : Option Nat :=
  match hexValue? a, hexValue? b, hexValue? c, hexValue? d with
  | some a, some b, some c, some d => some (((a * 16 + b) * 16 + c) * 16 + d)
  | _, _, _, _ => none

/-- The byte that an escape of two characters stands for. -/
def shortEscape? (b : UInt8) : Option UInt8 :=
  if b = 0x22 then some 0x22
  else if b = 0x5C then some 0x5C
  else if b = 0x2F then some 0x2F
  else if b = 0x62 then some 0x08
  else if b = 0x66 then some 0x0C
  else if b = 0x6E then some 0x0A
  else if b = 0x72 then some 0x0D
  else if b = 0x74 then some 0x09
  else none

/-- True of the first half of a surrogate pair. -/
def isHighSurrogate (n : Nat) : Bool := 0xD800 ≤ n && n ≤ 0xDBFF

/-- True of the second half of a surrogate pair. -/
def isLowSurrogate (n : Nat) : Bool := 0xDC00 ≤ n && n ≤ 0xDFFF

/-- The bytes of the character with this code point. -/
def charBytes (n : Nat) : Bytes :=
  Text.encode (Char.ofNat n).toString

/-- The code point of a surrogate pair. -/
def pairCode (high low : Nat) : Nat :=
  (high - 0xD800) * 0x400 + (low - 0xDC00) + 0x10000

/-- Puts bytes in front of those that a reader found. -/
def prepend (front : Bytes) : Except Fault (Bytes × Bytes) → Except Fault (Bytes × Bytes)
  | .ok (bs, rest) => .ok (front ++ bs, rest)
  | .error e => .error e

/-- The bytes of a string up to its closing mark, escapes resolved. A surrogate is read only
together with its other half. -/
def readQuotedBytes : Bytes → Except Fault (Bytes × Bytes)
  | [] => .error .ended
  | b :: rest =>
    if b = quoteMark then .ok ([], rest)
    else if b = backslash then
      match rest with
      | [] => .error .ended
      | e :: rest =>
        if e = 0x75 then
          match rest with
          | h₁ :: h₂ :: h₃ :: h₄ :: rest =>
            match hex4? h₁ h₂ h₃ h₄ with
            | none => .error .malformed
            | some n =>
              if isLowSurrogate n then .error .malformed
              else if isHighSurrogate n then
                match rest with
                | [] => .error .ended
                | [s] => if s = backslash then .error .ended else .error .malformed
                | s :: u :: rest =>
                  if s = backslash ∧ u = 0x75 then
                    match rest with
                    | l₁ :: l₂ :: l₃ :: l₄ :: rest =>
                      match hex4? l₁ l₂ l₃ l₄ with
                      | none => .error .malformed
                      | some m =>
                        if isLowSurrogate m then
                          prepend (charBytes (pairCode n m)) (readQuotedBytes rest)
                        else .error .malformed
                    | _ => .error .ended
                  else .error .malformed
              else prepend (charBytes n) (readQuotedBytes rest)
          | _ => .error .ended
        else
          match shortEscape? e with
          | some c => prepend [c] (readQuotedBytes rest)
          | none => .error .malformed
    else if b < 0x20 then .error .malformed
    else prepend [b] (readQuotedBytes rest)

/-- The text of a string whose opening mark has been read. -/
def readQuoted : Reader String := fun bs =>
  match readQuotedBytes bs with
  | .ok (text, rest) =>
    match Text.decode? text with
    | some s => .ok (s, rest)
    | none => .error .malformed
  | .error e => .error e

/-- Passes over a string whose opening mark has been read. What its escapes stand for is not
looked at. -/
def skipQuoted : Bytes → Except Fault Bytes
  | [] => .error .ended
  | b :: rest =>
    if b = quoteMark then .ok rest
    else if b = backslash then
      match rest with
      | [] => .error .ended
      | e :: rest =>
        if e = 0x75 then
          match rest with
          | h₁ :: h₂ :: h₃ :: h₄ :: rest =>
            if (hex4? h₁ h₂ h₃ h₄).isSome then skipQuoted rest else .error .malformed
          | _ => .error .ended
        else if (shortEscape? e).isSome then skipQuoted rest
        else .error .malformed
    else if b < 0x20 then .error .malformed
    else skipQuoted rest

/-- A hexadecimal digit, in lower case. -/
def hexDigit (n : Nat) : UInt8 :=
  UInt8.ofNat (if n < 10 then 0x30 + n else 0x57 + n)

/-- How a byte stands inside a string: quotation marks, backslashes and controls are escaped. -/
def escapeByte (b : UInt8) : Bytes :=
  if b = 0x22 then [backslash, 0x22]
  else if b = 0x5C then [backslash, 0x5C]
  else if b = 0x08 then [backslash, 0x62]
  else if b = 0x0C then [backslash, 0x66]
  else if b = 0x0A then [backslash, 0x6E]
  else if b = 0x0D then [backslash, 0x72]
  else if b = 0x09 then [backslash, 0x74]
  else if b < 0x20 then
    [backslash, 0x75, 0x30, 0x30, hexDigit (b.toNat / 16), hexDigit (b.toNat % 16)]
  else [b]

/-- The text between quotation marks. -/
def writeQuoted (s : String) : Bytes :=
  quoteMark :: ((Text.encode s).flatMap escapeByte ++ [quoteMark])

end Brokerage.Json
