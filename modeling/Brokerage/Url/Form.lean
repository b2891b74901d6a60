import Brokerage.Text.Parts
import Brokerage.Url.Percent

/-!
# Form data

A query as a list of named values: `a=1&b=2`. Spaces are written as plus signs.
-/

namespace Brokerage.Form

/-- A name and a value. -/
abbrev Pair := String × String

/-- What is escaped in a name or a value: all but letters, digits, `*`, `-`, `.` and `_`. -/
def inPair : Percent.ByteSet := fun b =>
  !(Percent.isAlphanumeric b || Percent.isAnyOf "*-._" b)

/-- A byte of a name or a value. -/
def encodeByte (b : UInt8) : List Char :=
  if b = 0x20 then ['+'] else Percent.encodeByte inPair b

/-- A name or a value as it is written. -/
def encode (s : String) : List Char :=
  (Text.encode s).flatMap encodeByte

/-- The pairs with `=` inside them and `&` between them. -/
def writeChars : List Pair → List Char
  | [] => []
  | [(name, value)] => encode name ++ '=' :: encode value
  | (name, value) :: pair :: rest =>
    encode name ++ '=' :: (encode value ++ '&' :: writeChars (pair :: rest))

/-- The pairs as the text of a query. -/
def write (pairs : List Pair) : String :=
  String.ofList (writeChars pairs)

/-- A name or a value as it is read. -/
def decode (bs : Bytes) : String :=
  Text.decodeLossy (Percent.decodeBytes (bs.map (fun b => if b = 0x2B then 0x20 else b)))

/-- The pair that a part of a query is. -/
def readPair (part : Bytes) : Pair :=
  match Text.cut 0x3D part with
  | (name, value) => (decode name, decode (value.getD []))

/-- The pairs of a query. Nothing between two ampersands is no pair. -/
def read (query : String) : List Pair :=
  (((Text.encode query).splitOn 0x26).filter (fun part => !part.isEmpty)).map readPair

end Brokerage.Form
