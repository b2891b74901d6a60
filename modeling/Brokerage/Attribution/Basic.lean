import Brokerage.Attribution.Utm
import Brokerage.Timestamp

/-!
# Attribution

What brought a visitor in: the campaign, and the page the visitor landed on.
-/

namespace Brokerage

/-- A visitor's arrival through a campaign. -/
structure Attribution where
  utm : Utm
  /-- The path of the page the visitor landed on. -/
  landingPage : String
  /-- The page the visitor came from. -/
  referrer : Option String := none
  capturedAt : Timestamp
  deriving DecidableEq

namespace Attribution

/-- The arrival at a page, if the page's link belongs to a campaign. Blanks around the referrer do
not count. -/
def ofVisit? (url : Url) (referrer : Option String) (now : Timestamp) : Option Attribution :=
  (Utm.ofUrl? url).map fun utm =>
    { utm
      landingPage := url.path.write
      referrer := referrer.bind Text.nonBlank?
      capturedAt := now }

/-- The types of the members. -/
abbrev Types : List Type := [Utm, String, Option String, Timestamp]

/-- The members; only the referrer may be missing. -/
def members : Json.Members Types :=
  .cons "utm" Utm.read none <|
  .cons "landing_page" Json.readText none <|
  .cons "referrer" (Json.readOption Json.readText) (some none) <|
  .cons "captured_at" Timestamp.read none .nil

/-- The arrival with these values of the members. -/
def ofRow : Json.Row Types → Attribution
  | (utm, landingPage, referrer, capturedAt, ()) => { utm, landingPage, referrer, capturedAt }

/-- An arrival in a JSON text. -/
def read : Json.Reader Attribution := Json.Reader.map ofRow (Json.readRecord members)

/-- The arrival as a JSON value, an absent referrer left out. -/
def toValue (a : Attribution) : Json.Value :=
  .object ([("utm", a.utm.toValue), ("landing_page", .text a.landingPage)] ++
    Json.Value.textMember? "referrer" a.referrer ++ [("captured_at", .text a.capturedAt.write)])

end Attribution

end Brokerage
