import Brokerage.Identity

/-!
# Users

The signed-in member of a brokerage, their role, and what they sign in with.
-/

namespace Brokerage

/-- The role of a member of a brokerage. -/
inductive Role where
  | owner
  | admin
  | agent
  /-- A role that is not known here. -/
  | other
  deriving DecidableEq, Repr

namespace Role

/-- What a role is called. -/
def name : Role → String
  | .owner => "owner"
  | .admin => "admin"
  | .agent => "agent"
  | .other => "other"

/-- The role with this name. -/
def ofName (s : String) : Role :=
  ([.owner, .admin, .agent].find? (·.name == s)).getD .other

/-- A role in a JSON text. -/
def read : Json.Reader Role := Json.readNamed fun s => some (ofName s)

/-- A role as a JSON value. -/
def toValue (r : Role) : Json.Value := .text r.name

end Role

/-- The signed-in user. -/
structure User where
  id : UserId
  email : String
  name : Option String := none
  organization : OrganizationId
  role : Role
  deriving DecidableEq

namespace User

/-- The members of a user. Only the name may be missing. -/
def members : Json.Members [UserId, String, Option String, OrganizationId, Role] :=
  .cons "id" UserId.read none <|
  .cons "email" Json.readText none <|
  .cons "name" (Json.readOption Json.readText) (some none) <|
  .cons "organization_id" OrganizationId.read none <|
  .cons "role" Role.read none .nil

/-- A user in a JSON text. -/
def read : Json.Reader User :=
  Json.Reader.map
    (fun (id, email, name, organization, role, ()) => ⟨id, email, name, organization, role⟩)
    (Json.readRecord members)

/-- A user as a JSON value. -/
def toValue (u : User) : Json.Value :=
  .object [("id", .text u.id.text), ("email", .text u.email), ("name", .optionalText u.name),
    ("organization_id", .text u.organization.text), ("role", u.role.toValue)]

end User

/-- What a user signs in with. -/
structure Credentials where
  email : String
  password : String

/-- Credentials as a JSON value. -/
def Credentials.toValue (c : Credentials) : Json.Value :=
  .object [("email", .text c.email), ("password", .text c.password)]

end Brokerage
