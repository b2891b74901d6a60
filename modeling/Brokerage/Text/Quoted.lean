import Brokerage.Text.Hidden

/-!
# Quoted texts

A text between quotation marks in which every character can be told apart: control characters and
characters without a mark of their own are written by their code point in hexadecimal.
-/

namespace Brokerage.Text

/-- How a character stands inside a quoted text. -/
def quotedChar (c : Char) : String :=
  if c = '\x00' then "\\0"
  else if c = '\t' then "\\t"
  else if c = '\r' then "\\r"
  else if c = '\n' then "\\n"
  else if c = '"' then "\\\""
  else if c = '\\' then "\\\\"
  else if c.toNat < 0x20 || c.toNat = 0x7F || (0x80 ≤ c.toNat && isHidden c) then
    r"\u{" ++ String.ofList (Nat.toDigits 16 c.toNat) ++ r"}"
  else c.toString

/-- The text between quotation marks. -/
def quoted (s : String) : String :=
  "\"" ++ String.join (s.toList.map quotedChar) ++ "\""

end Brokerage.Text
