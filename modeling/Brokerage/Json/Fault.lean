import Brokerage.Text.Utf8

/-!
# Readers of JSON text

A reader takes a value off the front of the remaining bytes and returns what is left of them. It
works from left to right, so of several faults in a text the first one met is reported.
-/

namespace Brokerage.Json

/-- Why a text could not be read as a value. -/
inductive Fault where
  /-- The text ended too early. -/
  | ended
  /-- The text is not JSON. -/
  | malformed
  /-- The text is JSON of another shape. -/
  | mismatched
  deriving DecidableEq, Repr

/-- Takes a value off the front of the remaining bytes. -/
abbrev Reader (α : Type) := Bytes → Except Fault (α × Bytes)

/-- The value under a function. -/
def Reader.map {α β : Type} (f : α → β) (read : Reader α) : Reader β := fun bs =>
  match read bs with
  | .ok (a, rest) => .ok (f a, rest)
  | .error e => .error e

/-- The value under a function that may refuse it: its shape is then wrong. -/
def Reader.filterMap {α β : Type} (f : α → Option β) (read : Reader α) : Reader β := fun bs =>
  match read bs with
  | .ok (a, rest) =>
    match f a with
    | some b => .ok (b, rest)
    | none => .error .mismatched
  | .error e => .error e

/-- The four bytes that may stand between the parts of a text. -/
def isSpace (b : UInt8) : Bool :=
  b == 0x20 || b == 0x0A || b == 0x09 || b == 0x0D

/-- The bytes from the first one on that is not white space. -/
def skipSpace (bs : Bytes) : Bytes :=
  bs.dropWhile isSpace

/-- Reads the remaining bytes of a word whose first one is known. -/
def readWord : Bytes → Bytes → Except Fault Bytes
  | [], bs => .ok bs
  | _ :: _, [] => .error .ended
  | w :: word, b :: bs => if b = w then readWord word bs else .error .malformed

/-- The bytes of a word. -/
def word (s : String) : Bytes :=
  Text.encode s

/-- A value that makes up the whole text, white space around it aside. -/
def readAll {α : Type} (read : Reader α) (bs : Bytes) : Except Fault α :=
  match read bs with
  | .ok (a, rest) => if skipSpace rest = [] then .ok a else .error .malformed
  | .error e => .error e

end Brokerage.Json
