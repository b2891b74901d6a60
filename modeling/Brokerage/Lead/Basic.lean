import Brokerage.Identity
import Brokerage.Lead.Status
import Brokerage.Timestamp

/-!
# Leads

A person who may buy, as the backend keeps them, and the filters with which leads are listed. A lead
is written with all its members, the absent ones as `null`.
-/

namespace Brokerage

/-- A lead. -/
structure Lead where
  id : LeadId
  name : String
  email : Option String := none
  phone : Option String := none
  listing : Option ListingId := none
  /-- Where the lead came from: a landing page, a portal, a referral. -/
  source : Option String := none
  status : Lead.Status
  createdAt : Timestamp
  deriving DecidableEq

namespace Lead

/-- The types of a lead's members. -/
abbrev Types : List Type :=
  [LeadId, String, Option String, Option String, Option ListingId, Option String, Status, Timestamp]

/-- The members of a lead. Name, stage, creation and identity must be there. -/
def members : Json.Members Types :=
  .cons "id" LeadId.read none <|
  .cons "name" Json.readText none <|
  .cons "email" (Json.readOption Json.readText) (some none) <|
  .cons "phone" (Json.readOption Json.readText) (some none) <|
  .cons "listing_id" (Json.readOption ListingId.read) (some none) <|
  .cons "source" (Json.readOption Json.readText) (some none) <|
  .cons "status" Status.read none <|
  .cons "created_at" Timestamp.read none .nil

/-- The lead with these values of its members. -/
def ofRow : Json.Row Types → Lead
  | (id, name, email, phone, listing, source, status, createdAt, ()) =>
    { id, name, email, phone, listing, source, status, createdAt }

/-- A lead in a JSON text. -/
def read : Json.Reader Lead := Json.Reader.map ofRow (Json.readRecord members)

/-- A lead as a JSON value. -/
def toValue (l : Lead) : Json.Value :=
  .object [("id", .text l.id.text), ("name", .text l.name),
    ("email", .optionalText l.email), ("phone", .optionalText l.phone),
    ("listing_id", .optionalText (l.listing.map ListingId.text)),
    ("source", .optionalText l.source), ("status", l.status.toValue),
    ("created_at", .text l.createdAt.write)]

/-- Filters for listing leads. What is not set is left to the backend. -/
structure Query where
  status : Option Status := none
  search : Option String := none
  page : Option UInt32 := none
  perPage : Option UInt32 := none
  deriving DecidableEq

namespace Query

/-- One parameter, if there is a value for it. -/
def parameter? (name : String) : Option String → List (String × String)
  | some value => [(name, value)]
  | none => []

/-- The parameters that the filters set. A blank search sets none. -/
def parameters (q : Query) : List (String × String) :=
  parameter? "status" (q.status.map Status.name) ++
  parameter? "search" (q.search.bind Text.nonBlank?) ++
  parameter? "page" (q.page.map fun n => Json.natDigits n.toNat) ++
  parameter? "per_page" (q.perPage.map fun n => Json.natDigits n.toNat)

end Query

end Lead

end Brokerage
