import Brokerage.Lead.Basic
import Brokerage.Text.Lowercase

/-!
# The board

Leads in one column for each stage. Within a column they keep the order in which they were put
there. A lead may be moved before the backend has confirmed it, and moved back if it does not.
-/

namespace Brokerage

/-- A column: its stage and the leads in it. -/
abbrev Column : Type :=
  Lead.Status × List Lead

/-- Leads in columns. -/
structure Board where
  columns : List Column
  deriving DecidableEq

namespace Board

/-- A column for every stage, in board order, and no leads. -/
def empty : Board :=
  ⟨Lead.Status.all.map (·, [])⟩

/-- The board with the leads in the column of a stage changed. -/
def modify (b : Board) (s : Lead.Status) (f : List Lead → List Lead) : Board :=
  ⟨b.columns.modify s.position fun c => (c.1, f c.2)⟩

/-- Puts a lead at the end of the column of its stage. -/
def add (b : Board) (l : Lead) : Board :=
  b.modify l.status (· ++ [l])

/-- Puts every lead into the column of its stage. -/
def ofLeads (leads : List Lead) : Board :=
  leads.foldl add empty

/-- The leads in the column of a stage. -/
def column (b : Board) (s : Lead.Status) : List Lead :=
  b.columns[s.position]?.elim [] Prod.snd

/-- All leads, column by column. -/
def leads (b : Board) : List Lead :=
  b.columns.flatMap Prod.snd

/-- The number of leads in each column, in board order. -/
def counts (b : Board) : List (Lead.Status × Nat) :=
  b.columns.map fun c => (c.1, c.2.length)

/-- The number of leads in some columns. -/
def total (columns : List Column) : Nat :=
  columns.foldl (fun n c => n + c.2.length) 0

/-- The number of leads. -/
def size (b : Board) : Nat :=
  total b.columns

/-- True if no column has a lead. -/
def isEmpty (b : Board) : Bool :=
  b.size == 0

/-- The number of leads that are neither closed nor lost. -/
def activeCount (b : Board) : Nat :=
  total (b.columns.filter (!·.1.isTerminal))

/-- The first lead with this identity, in board order. -/
def find? (b : Board) (id : LeadId) : Option Lead :=
  b.leads.find? (·.id == id)

/-- Where the first lead with this identity is: the stage of its column and its place there. -/
def locate? (b : Board) (id : LeadId) : Option (Lead.Status × Nat) :=
  b.columns.findSome? fun c => (c.2.findIdx? (·.id == id)).map (c.1, ·)

/-- Moves the first lead with this identity to the end of another column, and returns the stage that
it comes from. Nothing changes if it is there already, or if there is no such lead. -/
def move (b : Board) (id : LeadId) (target : Lead.Status) : Option Lead.Status × Board :=
  match b.locate? id with
  | none => (none, b)
  | some (origin, place) =>
    if origin = target then (some origin, b)
    else
      match (b.column origin)[place]? with
      | none => (some origin, b)
      | some lead =>
        (some origin, (b.modify origin (·.eraseIdx place)).add { lead with status := target })

/-! ### Searching -/

/-- True if the first list of characters stands somewhere inside the second. -/
def occursIn (needle : List Char) : List Char → Bool
  | [] => needle.isEmpty
  | c :: cs => needle.isPrefixOf (c :: cs) || occursIn needle cs

/-- True if the lower case of the text contains the needle. -/
def textContains (needle : String) (s : String) : Bool :=
  occursIn needle.toList (Text.lower s).toList

/-- True if name, email or phone contain the needle, apart from case. -/
def leadContains (needle : String) (l : Lead) : Bool :=
  textContains needle l.name || l.email.any (textContains needle) ||
    l.phone.any (textContains needle)

/-- What a query looks for: its lower case without the blanks around it. -/
def needleOf (query : String) : String :=
  Text.lower (Text.trim query)

/-- The board with only the leads that the query finds. A blank query finds all of them. -/
def search (b : Board) (query : String) : Board :=
  if needleOf query = "" then b else ofLeads (b.leads.filter (leadContains (needleOf query)))

end Board

end Brokerage
