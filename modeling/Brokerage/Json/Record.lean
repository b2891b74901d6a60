import Brokerage.Json.Reader

/-!
# Records

A record is an object with known members, in any order and among others that are passed over, or an
array of the members' values in their order. A member may have a value that it takes when it is
missing. No known member may come twice.
-/

namespace Brokerage.Json

/-- One value of each type. -/
def Row : List Type → Type
  | [] => Unit
  | α :: ts => α × Row ts

/-- For each type a value, if one has been read. -/
def Draft : List Type → Type
  | [] => Unit
  | α :: ts => Option α × Draft ts

/-- The members of a record with values of these types: each with its name, its reader, and the
value that it has when it is missing, unless it must be there. -/
inductive Members : List Type → Type 1 where
  | nil : Members []
  | cons {α : Type} {ts : List Type} (name : String) (read : Reader α) (absent : Option α)
      (rest : Members ts) : Members (α :: ts)

namespace Members

/-- Nothing has been read yet. -/
def blank : {ts : List Type} → Members ts → Draft ts
  | _, .nil => ()
  | _, .cons _ _ _ rest => (none, rest.blank)

/-- The names in order. -/
def names : {ts : List Type} → Members ts → List String
  | _, .nil => []
  | _, .cons name _ _ rest => name :: rest.names

/-- Reads the value of the member called `name` after its name, if there is such a member. If it has
been read before, the record is at fault, whatever its value. -/
def fill : {ts : List Type} → Members ts → String → Draft ts → Reader (Draft ts)
  | _, .nil, _, draft, bs =>
    match readColon bs with
    | .error e => .error e
    | .ok bs => (skipValue bs).map (draft, ·)
  | _, .cons name read _ rest, key, (a?, draft), bs =>
    if key = name then
      match a? with
      | some _ => .error .mismatched
      | none =>
        match readColon bs with
        | .error e => .error e
        | .ok bs => Reader.map (fun a => (some a, draft)) read bs
    else Reader.map (fun draft => (a?, draft)) (rest.fill key draft) bs

/-- The record, once all members that must be there have been read. -/
def finish : {ts : List Type} → Members ts → Draft ts → Option (Row ts)
  | _, .nil, _ => some ()
  | _, .cons _ _ absent rest, (a?, draft) =>
    match a?.or absent, rest.finish draft with
    | some a, some row => some (a, row)
    | _, _ => none

end Members

/-- Goes on to the name of the next member of an object and passes over its opening mark: nothing if
the closing bracket is next, which is left in place. -/
def nextMember (first : Bool) (bs : Bytes) : Except Fault (Option Bytes) :=
  match skipSpace bs with
  | [] => .error .ended
  | b :: rest =>
    if b = Bracket.object.close then .ok none
    else if first then if b = quoteMark then .ok (some rest) else .error .malformed
    else if b = 0x2C then
      match skipSpace rest with
      | [] => .error .ended
      | b :: rest => if b = quoteMark then .ok (some rest) else .error .malformed
    else .error .malformed

/-- Reads the members of an object from the next one on, up to and with the closing bracket. -/
def readMembers {ts : List Type} (ms : Members ts) : Nat → Bool → Draft ts → Reader (Draft ts)
  | 0, _, _, _ => .error .ended
  | n + 1, first, draft, bs =>
    match nextMember first bs with
    | .error e => .error e
    | .ok none => (closeBracket .object bs).map (draft, ·)
    | .ok (some bs) =>
      match readQuoted bs with
      | .error e => .error e
      | .ok (key, bs) =>
        match ms.fill key draft bs with
        | .error e => .error e
        | .ok (draft, bs) => readMembers ms n false draft bs

/-- Reads the values of the members from an array. Those at the end may be missing. -/
def readRow : {ts : List Type} → Members ts → Bool → Reader (Row ts)
  | _, .nil, _, bs => .ok ((), bs)
  | _, .cons _ read absent rest, first, bs =>
    match nextElement first bs with
    | .error e => .error e
    | .ok none =>
      match absent with
      | none => .error .mismatched
      | some a => Reader.map (a, ·) (readRow rest first) bs
    | .ok (some bs) =>
      match read bs with
      | .error e => .error e
      | .ok (a, bs) => Reader.map (a, ·) (readRow rest false) bs

/-- A record. -/
def readRecord {ts : List Type} (ms : Members ts) : Reader (Row ts) := fun bs =>
  match skipSpace bs with
  | [] => .error .ended
  | b :: rest =>
    match opened? b with
    | some .object =>
      Reader.filterMap ms.finish (readMembers ms (rest.length + 1) true ms.blank) rest
    | some .array =>
      match readRow ms true rest with
      | .error e => .error e
      | .ok (row, rest) => (closeBracket .array rest).map (row, ·)
    | none => .error (mismatch b rest)

end Brokerage.Json
