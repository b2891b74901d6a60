import Brokerage.Attribution.Basic
import Brokerage.Identity

/-!
# Captured leads

The form with which somebody writes in from a landing page.
-/

namespace Brokerage

/-- What somebody has put into the form of a landing page, and where that visitor came from. -/
structure LeadCapture where
  name : String
  email : Option String := none
  phone : Option String := none
  message : Option String := none
  listing : Option ListingId := none
  attribution : Option Attribution := none
  visit : Option VisitId := none
  deriving DecidableEq

namespace LeadCapture

/-- The form as a JSON value, what is absent left out. -/
def toValue (c : LeadCapture) : Json.Value :=
  .object ([("name", .text c.name)] ++ Json.Value.textMember? "email" c.email ++
    Json.Value.textMember? "phone" c.phone ++ Json.Value.textMember? "message" c.message ++
    Json.Value.textMember? "listing_id" (c.listing.map ListingId.text) ++
    (c.attribution.map (fun a => ("attribution", a.toValue))).toList ++
    Json.Value.textMember? "visit_id" (c.visit.map VisitId.write))

end LeadCapture

end Brokerage
