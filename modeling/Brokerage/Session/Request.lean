import Brokerage.Config
import Brokerage.Cookie.Source
import Brokerage.Identity

/-!
# Requests

What a caller asks for, and what goes to the backend for one attempt at it. Every attempt is put
together anew: it carries an identifier of its own, and if it may change anything at the backend,
the token against forged requests as the cookies hold it at that moment.
-/

namespace Brokerage

/-- Which attempt at a request is made. -/
inductive Attempt where
  | initial
  /-- The request is sent again, once, after the session was renewed. -/
  | retry
  deriving DecidableEq, Repr

namespace Attempt

/-- What an attempt is called. -/
def name : Attempt → String
  | initial => "initial"
  | retry => "retry"

/-- A session is renewed after the first attempt only. -/
def mayRenew : Attempt → Bool
  | initial => true
  | retry => false

end Attempt

/-- True of methods that may change something at the backend. Case matters. -/
def isStateChanging (method : String) : Bool :=
  !(["GET", "HEAD", "OPTIONS", "TRACE"].contains method)

/-- What a request carries. -/
structure Body where
  contentType : String
  content : Bytes
  deriving DecidableEq, Repr

/-- What a caller asks for. -/
structure Request where
  method : String
  /-- The path, relative to the base URL. -/
  path : String
  query : List Form.Pair := []
  body : Option Body := none
  category : Category := .interactive
  /-- A session that turns out to be over is renewed. -/
  renews : Bool := true
  deriving DecidableEq, Repr

/-- What goes to the backend for one attempt. -/
structure Outgoing where
  method : String
  url : Url
  headers : List (String × String)
  content : Option Bytes
  timeout : Duration
  deriving DecidableEq, Repr

/-- What the backend says to an attempt. -/
structure Response where
  status : Nat
  /-- The body, unless it cannot be read. -/
  body : Option Bytes
  deriving DecidableEq, Repr

namespace Response

/-- True of the statuses that report success. -/
def isSuccess (r : Response) : Bool := 200 ≤ r.status && r.status < 300

/-- True of the status that says that there is no session. -/
def isUnauthorized (r : Response) : Bool := r.status == 401

/-- The body as a text; what cannot be read is empty. -/
def text (r : Response) : String := Text.decodeLossy (r.body.getD [])

end Response

namespace Request

/-- The header that identifies an attempt. -/
def idHeader : String := "x-request-id"

/-- The header that carries the token against forged requests. -/
def tokenHeader : String := "x-csrf-token"

/-- The header that says what the body is. -/
def typeHeader : String := "content-type"

/-- True of the texts that a header can hold: no control characters but tabs. -/
def isHeaderValue (s : String) : Bool :=
  (Text.encode s).all fun b => b == 0x09 || (0x20 ≤ b && b != 0x7F)

/-- A request for a JSON value to be taken in. -/
def withJson (r : Request) (v : Json.Value) : Request :=
  { r with body := some ⟨"application/json", v.write⟩ }

/-- The token that goes with a method to a URL, if the cookies hold one that a header can hold. -/
def token? (config : Config) (cookies : CookieSource) (method : String) (url : Url) :
    Option String :=
  if isStateChanging method then (cookies.lookup url config.csrfCookie).filter isHeaderValue
  else none

/-- The headers of an attempt: the identifier, and the token if there is one. -/
def decoration (config : Config) (cookies : CookieSource) (id : RequestId) (method : String)
    (url : Url) : List (String × String) :=
  (idHeader, id.write) :: ((token? config cookies method url).map ((tokenHeader, ·))).toList

/-- The URL of a request. -/
def url (r : Request) (config : Config) : Except Url.Fault Url :=
  (config.endpoint r.path).map (·.addPairs r.query)

/-- The header that says what the body is, if there is one. -/
def typeHeaders (r : Request) : Except ConfigFault (List (String × String)) :=
  match r.body with
  | none => .ok []
  | some body =>
    if isHeaderValue body.contentType then .ok [(typeHeader, body.contentType)]
    else .error (.contentType body.contentType)

/-- What goes to the backend for an attempt at a request. -/
def build (r : Request) (config : Config) (cookies : CookieSource) (id : RequestId) :
    Except Error Outgoing :=
  match r.url config with
  | .error fault => .error (.url fault)
  | .ok url =>
    match r.typeHeaders with
    | .error fault => .error (.config fault)
    | .ok headers =>
      .ok
        { method := r.method
          url := url
          headers := headers ++ decoration config cookies id r.method url
          content := r.body.map Body.content
          timeout := config.timeouts.ceiling r.category }

/-- What goes to the backend to renew a session. -/
def buildRenewal (config : Config) (cookies : CookieSource) (url : Url) (id : RequestId) :
    Outgoing where
  method := "POST"
  url := url
  headers := decoration config cookies id "POST" url
  content := none
  timeout := config.timeouts.renewal

end Request

end Brokerage
