import Brokerage.Json.Value
import Brokerage.Ulid

/-!
# Identities

Leads, listings, users and organizations are known by opaque texts that the backend hands out;
visits and requests by identifiers that are generated here.
-/

namespace Brokerage

/-- What the backend calls a lead. -/
structure LeadId where
  text : String
  deriving DecidableEq, Repr

/-- What the backend calls a listing, mostly its MLS number. -/
structure ListingId where
  text : String
  deriving DecidableEq, Repr

/-- What the backend calls a user. -/
structure UserId where
  text : String
  deriving DecidableEq, Repr

/-- What the backend calls a brokerage. -/
structure OrganizationId where
  text : String
  deriving DecidableEq, Repr

/-- A browsing session, to which a captured lead is linked. -/
structure VisitId where
  ulid : Ulid
  deriving DecidableEq

/-- One attempt at a request. A request that is sent again gets a new one. -/
structure RequestId where
  ulid : Ulid
  deriving DecidableEq

/-- A lead's name in a JSON text. -/
def LeadId.read : Json.Reader LeadId := Json.Reader.map LeadId.mk Json.readText

/-- A listing's name in a JSON text. -/
def ListingId.read : Json.Reader ListingId := Json.Reader.map ListingId.mk Json.readText

/-- A user's name in a JSON text. -/
def UserId.read : Json.Reader UserId := Json.Reader.map UserId.mk Json.readText

/-- A brokerage's name in a JSON text. -/
def OrganizationId.read : Json.Reader OrganizationId :=
  Json.Reader.map OrganizationId.mk Json.readText

/-- A visit in a JSON text. -/
def VisitId.read : Json.Reader VisitId := Json.Reader.map VisitId.mk Ulid.read

/-- The text of a visit's identifier. -/
def VisitId.write (v : VisitId) : String := v.ulid.write

/-- The text of a request's identifier. -/
def RequestId.write (r : RequestId) : String := r.ulid.write

end Brokerage
