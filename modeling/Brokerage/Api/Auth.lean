import Brokerage.Api.Call
import Brokerage.User

/-!
# Signing in and out
-/

namespace Brokerage.Auth

/-- The request that signs in. That it is refused means wrong credentials, so no session is renewed
for it. -/
def loginRequest (c : Credentials) : Request :=
  { (Call.post "auth/login").withJson c.toValue with renews := false }

/-- Signs in. The backend sets the cookies of the session. -/
def login (c : Credentials) : Call User :=
  (Call.sendJson (loginRequest c) User.read).reporting fun user =>
    ⟨.info, "Signed in", [("user_id", user.id.text)]⟩

/-- Signs out. -/
def logout : Call Unit :=
  Call.sendEmpty (Call.post "auth/logout")

/-- The signed-in user. -/
def me : Call User :=
  Call.sendJson (Call.get "auth/me") User.read

end Brokerage.Auth
