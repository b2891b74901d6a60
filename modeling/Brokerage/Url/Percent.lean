import Brokerage.Json.Quote

/-!
# Percent-encoding

A byte that a place in a URL has no room for is written as a percent sign and two hexadecimal
digits. Each place has its own set of such bytes; a byte that starts or continues a character
beyond ASCII is in all of them.
-/

namespace Brokerage.Percent

/-- The bytes that are written in the encoded form. -/
abbrev ByteSet := UInt8 → Bool

/-- The bytes of the characters of a text. -/
def isAnyOf (s : String) : ByteSet := fun b =>
  s.toList.any (fun c => c.toNat == b.toNat)

/-- Control characters and the bytes beyond ASCII. -/
def controls : ByteSet := fun b => b < 0x20 || 0x7E < b

/-- What a fragment has no room for. -/
def inFragment : ByteSet := fun b => controls b || isAnyOf " \"<>\x60" b

/-- What a query has no room for. -/
def inQuery : ByteSet := fun b => controls b || isAnyOf " \"#<>" b

/-- What the query of a web address has no room for. -/
def inSpecialQuery : ByteSet := fun b => inQuery b || isAnyOf "'" b

/-- What a segment of a path has no room for. -/
def inPath : ByteSet := fun b => inFragment b || isAnyOf "#?{}" b

/-- What a user name or a password has no room for. -/
def inUserInfo : ByteSet := fun b => inPath b || isAnyOf "/:;=@[\\]^|" b

/-- ASCII letters and digits. -/
def isAlphanumeric (b : UInt8) : Bool :=
  (0x30 ≤ b && b ≤ 0x39) || (0x41 ≤ b && b ≤ 0x5A) || (0x61 ≤ b && b ≤ 0x7A)

/-- All bytes but those that are nowhere a delimiter: letters, digits, `-`, `_`, `.` and `~`. -/
def reserved : ByteSet := fun b => !(isAlphanumeric b || isAnyOf "-_.~" b)

/-- The hexadecimal digits in the order of their values. -/
def hexDigits : List Char := "0123456789ABCDEF".toList

/-- The hexadecimal digit with this value. -/
def hexDigit (n : Nat) : Char := hexDigits.getD n '0'

/-- A percent sign and the two digits of a byte. -/
def escape (b : UInt8) : List Char :=
  ['%', hexDigit (b.toNat / 16), hexDigit (b.toNat % 16)]

/-- A byte, escaped if it is in the set. -/
def encodeByte (set : ByteSet) (b : UInt8) : List Char :=
  if set b then escape b else [Char.ofNat b.toNat]

/-- Bytes, those in the set escaped. -/
def encodeBytes (set : ByteSet) (bs : Bytes) : List Char :=
  bs.flatMap (encodeByte set)

/-- A text whose bytes in the set are escaped. -/
def encode (set : ByteSet) (s : String) : String :=
  String.ofList (encodeBytes set (Text.encode s))

/-- The bytes with every escape read. A percent sign without two digits stands for itself. -/
def decodeBytes : Bytes → Bytes
  | [] => []
  | b :: rest =>
    if b = 0x25 then
      match rest with
      | h :: l :: after =>
        match Json.hexValue? h, Json.hexValue? l with
        | some high, some low => UInt8.ofNat (high * 16 + low) :: decodeBytes after
        | _, _ => b :: decodeBytes (h :: l :: after)
      | rest => b :: decodeBytes rest
    else b :: decodeBytes rest
termination_by bs => bs.length

/-- The bytes of a text with every escape read. -/
def decode (s : String) : Bytes :=
  decodeBytes (Text.encode s)

/-- A text with all but unreserved bytes escaped, so that it holds no delimiter of a URL. -/
def component (s : String) : String :=
  encode reserved s

end Brokerage.Percent
