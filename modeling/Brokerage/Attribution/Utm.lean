import Brokerage.Json.Value
import Brokerage.Text.Blank
import Brokerage.Url.Basic

/-!
# Campaign parameters

The five parameters with which a link says what campaign it belongs to.
-/

namespace Brokerage

/-- The campaign parameters of a link, as far as it has them. -/
structure Utm where
  source : Option String := none
  medium : Option String := none
  campaign : Option String := none
  term : Option String := none
  content : Option String := none
  deriving DecidableEq, Repr

namespace Utm

/-- True if there is no parameter. -/
def isEmpty (u : Utm) : Bool :=
  u.source.isNone && u.medium.isNone && u.campaign.isNone && u.term.isNone && u.content.isNone

/-- The parameters after another pair of a query. Blanks around its value do not count, and nothing
changes if nothing is left of it. -/
def add (u : Utm) (pair : Form.Pair) : Utm :=
  match Text.nonBlank? pair.2 with
  | none => u
  | some value =>
    if pair.1 = "utm_source" then { u with source := some value }
    else if pair.1 = "utm_medium" then { u with medium := some value }
    else if pair.1 = "utm_campaign" then { u with campaign := some value }
    else if pair.1 = "utm_term" then { u with term := some value }
    else if pair.1 = "utm_content" then { u with content := some value }
    else u

/-- The parameters that pairs of a query give, if they give any. -/
def ofPairs? (pairs : List Form.Pair) : Option Utm :=
  let u := pairs.foldl add {}
  if u.isEmpty then none else some u

/-- The parameters of a link, if it has any. -/
def ofUrl? (url : Url) : Option Utm :=
  ofPairs? url.pairs

/-! ### JSON -/

/-- The types of the members. -/
abbrev Types : List Type :=
  [Option String, Option String, Option String, Option String, Option String]

/-- The members; each may be missing. -/
def members : Json.Members Types :=
  .cons "source" (Json.readOption Json.readText) (some none) <|
  .cons "medium" (Json.readOption Json.readText) (some none) <|
  .cons "campaign" (Json.readOption Json.readText) (some none) <|
  .cons "term" (Json.readOption Json.readText) (some none) <|
  .cons "content" (Json.readOption Json.readText) (some none) .nil

/-- The parameters with these values of the members. -/
def ofRow : Json.Row Types → Utm
  | (source, medium, campaign, term, content, ()) => { source, medium, campaign, term, content }

/-- Campaign parameters in a JSON text. -/
def read : Json.Reader Utm := Json.Reader.map ofRow (Json.readRecord members)

/-- The parameters as a JSON value, those that are absent left out. -/
def toValue (u : Utm) : Json.Value :=
  .object (Json.Value.textMember? "source" u.source ++ Json.Value.textMember? "medium" u.medium ++
    Json.Value.textMember? "campaign" u.campaign ++ Json.Value.textMember? "term" u.term ++
    Json.Value.textMember? "content" u.content)

end Utm

end Brokerage
