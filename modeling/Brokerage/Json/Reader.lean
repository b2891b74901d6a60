import Brokerage.Json.Skip

/-!
# Readers of the common shapes

Texts, natural numbers with a bound, values that may be absent, names out of a fixed set, and lists.
A reader that meets a scalar of another shape reads it first: if that fails, the scalar is at fault
and not the shape.
-/

namespace Brokerage.Json

variable {α : Type}

/-- The fault of a value of the wrong shape that starts with byte `b`. -/
def mismatch (b : UInt8) (rest : Bytes) : Fault :=
  let scalar : Except Fault Unit :=
    if b = 0x6E then (readWord (word "ull") rest).map fun _ => ()
    else if b = 0x74 then (readWord (word "rue") rest).map fun _ => ()
    else if b = 0x66 then (readWord (word "alse") rest).map fun _ => ()
    else if b = 0x2D then (readNumber true rest).map fun _ => ()
    else if isDigit b then (readNumber false (b :: rest)).map fun _ => ()
    else if b = quoteMark then (readQuoted rest).map fun _ => ()
    else if (opened? b).isSome then .ok ()
    else .error .malformed
  match scalar with
  | .ok _ => .mismatched
  | .error e => e

/-- A text. -/
def readText : Reader String := fun bs =>
  match skipSpace bs with
  | [] => .error .ended
  | b :: rest => if b = quoteMark then readQuoted rest else .error (mismatch b rest)

/-- The number, if it is a natural one within the bound. -/
def Number.nat? (bound : Nat) : Number → Option Nat
  | .whole n => if 0 ≤ n ∧ n ≤ bound then some n.toNat else none
  | .real _ => none

/-- A natural number up to a bound. A fraction or an exponent is never read as one. -/
def readNat (bound : Nat) : Reader Nat := fun bs =>
  match skipSpace bs with
  | [] => .error .ended
  | b :: rest =>
    if b = 0x2D then Reader.filterMap (Number.nat? bound) (readNumber true) rest
    else if isDigit b then Reader.filterMap (Number.nat? bound) (readNumber false) (b :: rest)
    else .error (mismatch b rest)

/-- A value or `null`. -/
def readOption (read : Reader α) : Reader (Option α) := fun bs =>
  match skipSpace bs with
  | b :: rest =>
    if b = 0x6E then
      match readWord (word "ull") rest with
      | .ok rest => .ok (none, rest)
      | .error e => .error e
    else Reader.map some read (b :: rest)
  | [] => Reader.map some read []

/-- The word `null`. -/
def readNull : Reader Unit := fun bs =>
  match skipSpace bs with
  | [] => .error .ended
  | b :: rest =>
    if b = 0x6E then
      match readWord (word "ull") rest with
      | .ok rest => .ok ((), rest)
      | .error e => .error e
    else .error (mismatch b rest)

/-- Passes over the closing bracket of an array or an object of which nothing is left to read. -/
def closeBracket (bracket : Bracket) (bs : Bytes) : Except Fault Bytes :=
  match skipSpace bs with
  | [] => .error .ended
  | b :: rest => if b = bracket.close then .ok rest else .error .malformed

/-- The name of the only member of an object, behind the opening bracket. -/
def readOnlyName : Reader String := fun bs =>
  match skipSpace bs with
  | [] => .error .ended
  | b :: rest => if b = quoteMark then readQuoted rest else .error .malformed

/-- One of the values that have names: the name as a text, or an object whose only member has that
name and the value `null`. -/
def readNamed (named : String → Option α) : Reader α := fun bs =>
  match skipSpace bs with
  | [] => .error .ended
  | b :: rest =>
    if b = quoteMark then Reader.filterMap named readQuoted rest
    else if opened? b = some .object then
      match Reader.filterMap named readOnlyName rest with
      | .error e => .error e
      | .ok (a, rest) =>
        match readColon rest with
        | .error e => .error e
        | .ok rest =>
          match readNull rest with
          | .error e => .error e
          | .ok (_, rest) =>
            (closeBracket .object rest).map (a, ·)
    else .error .malformed

/-- Goes on to the next element of an array: nothing if the closing bracket is next, which is left
in place. -/
def nextElement (first : Bool) (bs : Bytes) : Except Fault (Option Bytes) :=
  match skipSpace bs with
  | [] => .error .ended
  | b :: rest =>
    if b = Bracket.array.close then .ok none
    else if first then .ok (some (b :: rest))
    else if b = 0x2C then
      match skipSpace rest with
      | [] => .error .ended
      | b :: rest =>
        if b = Bracket.array.close then .error .malformed else .ok (some (b :: rest))
    else .error .malformed

/-- The elements of an array from the next one on. -/
def readElements (read : Reader α) : Nat → Bool → Reader (List α)
  | 0, _, _ => .error .ended
  | n + 1, first, bs =>
    match nextElement first bs with
    | .error e => .error e
    | .ok none => (closeBracket .array bs).map ([], ·)
    | .ok (some bs) =>
      match read bs with
      | .error e => .error e
      | .ok (a, rest) => Reader.map (a :: ·) (readElements read n false) rest

/-- A list of values of one shape. Each element takes at least one byte, which bounds their
number. -/
def readList (read : Reader α) : Reader (List α) := fun bs =>
  match skipSpace bs with
  | [] => .error .ended
  | b :: rest =>
    if b = 0x5B then readElements read (rest.length + 1) true rest
    else .error (mismatch b rest)

end Brokerage.Json
