import Brokerage.Json.Record

/-!
# Values of any shape

A value as a tree. Reading one keeps the members of an object in the order of their names, the last
of those with one name; writing puts down the members as they are listed.
-/

namespace Brokerage.Json

/-- A JSON value. -/
inductive Value where
  | null
  | bool (b : Bool)
  | number (n : Number)
  | text (s : String)
  | list (items : List Value)
  | object (members : List (String × Value))

namespace Value

/-- A natural number. -/
def nat (n : Nat) : Value := .number (.whole n)

/-- A text or `null`. -/
def optionalText : Option String → Value
  | some s => .text s
  | none => .null

/-- A member with a text, if there is one. -/
def textMember? (name : String) : Option String → List (String × Value)
  | some s => [(name, .text s)]
  | none => []

/-- Puts a member in its place among members sorted by name, instead of one with the same name. -/
def insertMember (name : String) (v : Value) : List (String × Value) → List (String × Value)
  | [] => [(name, v)]
  | (n, w) :: rest =>
    if name < n then (name, v) :: (n, w) :: rest
    else if name = n then (name, v) :: rest
    else (n, w) :: insertMember name v rest

/-! ### Writing -/

mutual

/-- The value without any white space. -/
def write : Value → Bytes
  | null => word "null"
  | bool true => word "true"
  | bool false => word "false"
  | number n => word n.write
  | text s => writeQuoted s
  | list items => 0x5B :: (writeItems items ++ [0x5D])
  | object members => 0x7B :: (writeMembers members ++ [0x7D])

/-- The items with commas between them. -/
def writeItems : List Value → Bytes
  | [] => []
  | [v] => v.write
  | v :: w :: rest => v.write ++ 0x2C :: writeItems (w :: rest)

/-- The members with commas between them. -/
def writeMembers : List (String × Value) → Bytes
  | [] => []
  | [(name, v)] => writeQuoted name ++ 0x3A :: v.write
  | (name, v) :: m :: rest =>
    writeQuoted name ++ 0x3A :: (v.write ++ 0x2C :: writeMembers (m :: rest))

end

/-- The value without any white space, as a text. -/
def writeText (v : Value) : String :=
  Text.decodeLossy v.write

/-! ### Reading -/

/-- How many brackets may be open inside each other, plus one. -/
def maxDepth : Nat := 128

mutual

/-- A value below `depth - 1` levels of brackets at most. -/
def readBelow (depth : Nat) : Nat → Reader Value
  | 0, _ => .error .ended
  | n + 1, bs =>
    match skipSpace bs with
    | [] => .error .ended
    | b :: rest =>
      if b = 0x6E then (readWord (word "ull") rest).map (null, ·)
      else if b = 0x74 then (readWord (word "rue") rest).map (bool true, ·)
      else if b = 0x66 then (readWord (word "alse") rest).map (bool false, ·)
      else if b = 0x2D then Reader.map number (readNumber true) rest
      else if isDigit b then Reader.map number (readNumber false) (b :: rest)
      else if b = quoteMark then Reader.map text readQuoted rest
      else
        match opened? b with
        | none => .error .malformed
        | some bracket =>
          if depth ≤ 1 then .error .malformed
          else
            match bracket with
            | .array => Reader.map list (readItems (depth - 1) n true) rest
            | .object => Reader.map object (readObject (depth - 1) n true []) rest

/-- The items of an array from the next one on. -/
def readItems (depth : Nat) : Nat → Bool → Reader (List Value)
  | 0, _, _ => .error .ended
  | n + 1, first, bs =>
    match nextElement first bs with
    | .error e => .error e
    | .ok none => (closeBracket .array bs).map ([], ·)
    | .ok (some bs) =>
      match readBelow depth n bs with
      | .error e => .error e
      | .ok (v, rest) => Reader.map (v :: ·) (readItems depth n false) rest

/-- The members of an object from the next one on, put in their places among those read before. -/
def readObject (depth : Nat) : Nat → Bool → List (String × Value) → Reader (List (String × Value))
  | 0, _, _, _ => .error .ended
  | n + 1, first, members, bs =>
    match nextMember first bs with
    | .error e => .error e
    | .ok none => (closeBracket .object bs).map (members, ·)
    | .ok (some bs) =>
      match readQuoted bs with
      | .error e => .error e
      | .ok (name, bs) =>
        match readColon bs with
        | .error e => .error e
        | .ok bs =>
          match readBelow depth n bs with
          | .error e => .error e
          | .ok (v, rest) => readObject depth n false (insertMember name v members) rest

end

/-- A value of any shape. Every second step at least takes a byte off the text, which bounds their
number. -/
def read : Reader Value := fun bs =>
  readBelow maxDepth (2 * bs.length + 2) bs

/-- Reads a value that is a tree already. Only its shape can be at fault. -/
def readAs {α : Type} (read : Reader α) (v : Value) : Except Fault α :=
  match readAll read v.write with
  | .ok a => .ok a
  | .error _ => .error .mismatched

/-- The value that a text is. -/
def ofBytes (bs : Bytes) : Except Fault Value :=
  readAll read bs

end Value

end Brokerage.Json
