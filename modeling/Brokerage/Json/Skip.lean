import Brokerage.Json.Number
import Brokerage.Json.Quote

/-!
# Passing over values

A value that nobody asks for still has to be JSON, but what it says does not matter: it may nest to
any depth, and its numbers and characters need not exist. The brackets that are open are kept in a
list, the innermost first.
-/

namespace Brokerage.Json

/-- A bracket that is open. -/
inductive Bracket where
  | array
  | object
  deriving DecidableEq, Repr

/-- The byte that closes a bracket. -/
def Bracket.close : Bracket → UInt8
  | .array => 0x5D
  | .object => 0x7D

/-- Passes over the colon between a name and its value. -/
def readColon (bs : Bytes) : Except Fault Bytes :=
  match skipSpace bs with
  | [] => .error .ended
  | b :: rest => if b = 0x3A then .ok rest else .error .malformed

/-- Passes over the name of the next member and its colon; in an array there is none. -/
def skipName : Bracket → Bytes → Except Fault Bytes
  | .array, bs => .ok bs
  | .object, bs =>
    match skipSpace bs with
    | [] => .error .ended
    | b :: rest =>
      if b = quoteMark then
        match skipQuoted rest with
        | .ok rest => readColon rest
        | .error e => .error e
      else .error .malformed

/-- Passes over a value without parts that starts with byte `b`. -/
def skipScalar (b : UInt8) (rest : Bytes) : Except Fault Bytes :=
  if b = 0x6E then readWord (word "ull") rest
  else if b = 0x74 then readWord (word "rue") rest
  else if b = 0x66 then readWord (word "alse") rest
  else if b = 0x2D then skipNumber rest
  else if isDigit b then skipNumber (b :: rest)
  else if b = quoteMark then skipQuoted rest
  else .error .malformed

/-- The bracket that a byte opens. -/
def opened? (b : UInt8) : Option Bracket :=
  if b = 0x5B then some .array else if b = 0x7B then some .object else none

mutual

/-- Passes over a value inside the open brackets, and then over all that they enclose. -/
def skipInside : Nat → List Bracket → Bytes → Except Fault Bytes
  | 0, _, _ => .error .ended
  | n + 1, open_, bs =>
    match skipSpace bs with
    | [] => .error .ended
    | b :: rest =>
      match opened? b with
      | some bracket => skipFirst n bracket open_ rest
      | none =>
        match skipScalar b rest with
        | .ok rest => skipRest n open_ rest
        | .error e => .error e

/-- Passes over what follows an opening bracket. -/
def skipFirst : Nat → Bracket → List Bracket → Bytes → Except Fault Bytes
  | 0, _, _, _ => .error .ended
  | n + 1, bracket, open_, bs =>
    match skipSpace bs with
    | [] => .error .ended
    | b :: rest =>
      if b = bracket.close then skipRest n open_ rest
      else
        match skipName bracket (b :: rest) with
        | .ok rest => skipInside n (bracket :: open_) rest
        | .error e => .error e

/-- Passes over what follows a value inside the open brackets. -/
def skipRest : Nat → List Bracket → Bytes → Except Fault Bytes
  | 0, _, _ => .error .ended
  | _ + 1, [], bs => .ok bs
  | n + 1, bracket :: open_, bs =>
    match skipSpace bs with
    | [] => .error .ended
    | b :: rest =>
      if b = 0x2C then
        match skipName bracket rest with
        | .ok rest => skipInside n (bracket :: open_) rest
        | .error e => .error e
      else if b = bracket.close then skipRest n open_ rest
      else .error .malformed

end

/-- Passes over a value. Every second step at least takes a byte off the text, which bounds their
number. -/
def skipValue (bs : Bytes) : Except Fault Bytes :=
  skipInside (2 * bs.length + 2) [] bs

end Brokerage.Json
