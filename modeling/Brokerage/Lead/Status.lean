import Brokerage.Json.Value
import Brokerage.Text.Blank

/-!
# Stages of a lead

The seven stages through which a lead goes on its way through the brokerage. Their order is the
order of the columns of the board.
-/

namespace Brokerage.Lead

/-- Stage of a lead. -/
inductive Status where
  | new
  | contacted
  | qualified
  | showing
  | negotiating
  | closed
  | lost
  deriving DecidableEq, Repr

namespace Status

/-- Every stage, in board order. -/
def all : List Status :=
  [.new, .contacted, .qualified, .showing, .negotiating, .closed, .lost]

/-- The place of a stage on the board. -/
def position : Status → Nat
  | .new => 0
  | .contacted => 1
  | .qualified => 2
  | .showing => 3
  | .negotiating => 4
  | .closed => 5
  | .lost => 6

/-- What a stage is called in requests, answers and queries. -/
def name : Status → String
  | .new => "new"
  | .contacted => "contacted"
  | .qualified => "qualified"
  | .showing => "showing"
  | .negotiating => "negotiating"
  | .closed => "closed"
  | .lost => "lost"

/-- The heading of a stage's column. -/
def label : Status → String
  | .new => "New"
  | .contacted => "Contacted"
  | .qualified => "Qualified"
  | .showing => "Showing"
  | .negotiating => "Negotiating"
  | .closed => "Closed"
  | .lost => "Lost"

/-- Closed and lost leads are no longer active. -/
def isTerminal : Status → Bool
  | .closed | .lost => true
  | _ => false

instance : Ord Status where
  compare a b := compare a.position b.position

/-- The later of two stages; the second one if they are the same. -/
def later (a b : Status) : Status :=
  if b.position < a.position then a else b

/-- The stage with exactly this name. -/
def ofName? (s : String) : Option Status :=
  all.find? (·.name == s)

/-- The stage that a text names: blanks around it and the case of ASCII letters do not matter. -/
def ofText? (s : String) : Option Status :=
  all.find? (·.name.toList == (Text.trim s).toList.map Char.toLower)

/-- A stage in a JSON text. -/
def read : Json.Reader Status := Json.readNamed ofName?

/-- A stage as a JSON value. -/
def toValue (s : Status) : Json.Value := .text s.name

end Status

end Brokerage.Lead
