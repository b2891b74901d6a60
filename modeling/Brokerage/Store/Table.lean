import Brokerage.Json.Record

/-!
# Tables of texts

Texts under names, kept in the order of the names. A table is written as a JSON object with one
member to a line.
-/

namespace Brokerage

/-- Texts under names, in the order of the names. -/
structure Table where
  entries : List (String × String)
  deriving DecidableEq, Repr

namespace Table

/-- The table with nothing in it. -/
def empty : Table := ⟨[]⟩

/-- The text under a name. -/
def get? (t : Table) (name : String) : Option String :=
  t.entries.lookup name

/-- Puts an entry in its place, instead of one with the same name. -/
def insertEntry (name text : String) : List (String × String) → List (String × String)
  | [] => [(name, text)]
  | (n, s) :: rest =>
    if name < n then (name, text) :: (n, s) :: rest
    else if name = n then (name, text) :: rest
    else (n, s) :: insertEntry name text rest

/-- The table with a text under a name. -/
def insert (t : Table) (name text : String) : Table :=
  ⟨insertEntry name text t.entries⟩

/-- The table without anything under a name. -/
def erase (t : Table) (name : String) : Table :=
  ⟨t.entries.filter (fun entry => entry.1 != name)⟩

/-! ### Writing -/

/-- A line for each entry, with a comma behind all but the last one. -/
def writeEntries : List (String × String) → Bytes
  | [] => []
  | [(name, text)] =>
    Json.word "\n  " ++ Json.writeQuoted name ++ Json.word ": " ++ Json.writeQuoted text
  | (name, text) :: entry :: rest =>
    Json.word "\n  " ++ Json.writeQuoted name ++ Json.word ": " ++ Json.writeQuoted text ++
      Json.word "," ++ writeEntries (entry :: rest)

/-- The table as a JSON object. -/
def write (t : Table) : Bytes :=
  match t.entries with
  | [] => Json.word "{}"
  | entries => Json.word r"{" ++ writeEntries entries ++ Json.word "\n" ++ Json.word r"}"

/-! ### Reading -/

/-- Reads the entries from the next one on. Of those with one name the last one counts. -/
def readEntries : Nat → Bool → Table → Json.Reader Table
  | 0, _, _, _ => .error .ended
  | n + 1, first, t, bs =>
    match Json.nextMember first bs with
    | .error e => .error e
    | .ok none => (Json.closeBracket .object bs).map (t, ·)
    | .ok (some bs) =>
      match Json.readQuoted bs with
      | .error e => .error e
      | .ok (name, bs) =>
        match Json.readColon bs with
        | .error e => .error e
        | .ok bs =>
          match Json.readText bs with
          | .error e => .error e
          | .ok (text, bs) => readEntries n false (t.insert name text) bs

/-- A table in a JSON text. -/
def read : Json.Reader Table := fun bs =>
  match Json.skipSpace bs with
  | [] => .error .ended
  | b :: rest =>
    if Json.opened? b = some .object then readEntries (rest.length + 1) true empty rest
    else .error (Json.mismatch b rest)

/-- The table that a text is. -/
def ofBytes (bs : Bytes) : Except Json.Fault Table :=
  Json.readAll read bs

end Table

end Brokerage
