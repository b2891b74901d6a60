import Brokerage.Files.Fault
import Brokerage.Json.Fault
import Brokerage.Text.Numeral
import Brokerage.Text.Quoted
import Brokerage.Timeouts
import Brokerage.Url.Fault

/-!
# Errors

What can go wrong between the caller and the backend. Each error keeps its cause; the wording is
in one function for each kind of cause.
-/

namespace Brokerage

/-- Why a session was not renewed. All requests that waited for the renewal get the same one. -/
structure RenewalFailure where
  /-- The status of the answer, if there was one. -/
  status : Option Nat
  detail : String
  deriving DecidableEq, Repr

namespace RenewalFailure

/-- The backend refused. -/
def rejected (status : Nat) (detail : String) : RenewalFailure := ⟨some status, detail⟩

/-- The backend was not reached. -/
def unreachable (detail : String) : RenewalFailure := ⟨none, detail⟩

/-- The wording of a failure. -/
def message (f : RenewalFailure) : String :=
  match f.status with
  | some status => "renewal rejected with status " ++ Nat.repr status ++ ": " ++ f.detail
  | none => "renewal request failed: " ++ f.detail

end RenewalFailure

/-- The reason phrases of the statuses that report an error. -/
def reasons : List (Nat × String) :=
  [(400, "Bad Request"), (401, "Unauthorized"), (402, "Payment Required"), (403, "Forbidden"),
   (404, "Not Found"), (405, "Method Not Allowed"), (406, "Not Acceptable"),
   (407, "Proxy Authentication Required"), (408, "Request Timeout"), (409, "Conflict"),
   (410, "Gone"), (411, "Length Required"), (412, "Precondition Failed"),
   (413, "Payload Too Large"), (414, "URI Too Long"), (415, "Unsupported Media Type"),
   (416, "Range Not Satisfiable"), (417, "Expectation Failed"), (418, "I'm a teapot"),
   (421, "Misdirected Request"), (422, "Unprocessable Entity"), (423, "Locked"),
   (424, "Failed Dependency"), (425, "Too Early"), (426, "Upgrade Required"),
   (428, "Precondition Required"), (429, "Too Many Requests"),
   (431, "Request Header Fields Too Large"), (451, "Unavailable For Legal Reasons"),
   (500, "Internal Server Error"), (501, "Not Implemented"), (502, "Bad Gateway"),
   (503, "Service Unavailable"), (504, "Gateway Timeout"), (505, "HTTP Version Not Supported"),
   (506, "Variant Also Negotiates"), (507, "Insufficient Storage"), (508, "Loop Detected"),
   (510, "Not Extended"), (511, "Network Authentication Required")]

/-- The reason phrase of a status. -/
def reason (status : Nat) : String :=
  (reasons.lookup status).getD "<unknown status code>"

/-- Why an exchange with the backend came to nothing. -/
inductive TransferFault where
  /-- No answer came from the URL, because the time was up or for another reason. -/
  | send (url : String) (timedOut : Bool)
  /-- The body of the answer was cut off or is not what it has to be. -/
  | body
  /-- The answer itself counts as a fault because of its status. -/
  | status (code : Nat) (url : String)
  deriving DecidableEq, Repr

/-- The wording of a fault. -/
def TransferFault.message : TransferFault → String
  | .send url _ => "error sending request for url (" ++ url ++ ")"
  | .body => "error decoding response body"
  | .status code url =>
    "HTTP status " ++ (if code < 500 then "client" else "server") ++ " error (" ++
      Nat.repr code ++ " " ++ reason code ++ ") for url (" ++ url ++ ")"

/-- Why a client cannot be set up or a request cannot be put together. -/
inductive ConfigFault where
  /-- A setting is missing that has no standard value. -/
  | missing (setting : String)
  /-- A setting is no URL. -/
  | url (setting : String) (fault : Url.Fault)
  /-- A setting is no number. -/
  | number (setting : String) (fault : Text.NumeralFault)
  /-- The timeouts do not fit together. -/
  | timeouts (fault : Timeouts.Fault)
  /-- There is a transport of the caller's, and nothing to read its cookies from. -/
  | noCookies
  /-- No header can hold the content type. -/
  | contentType (text : String)
  /-- Another cause, worded by who found it. -/
  | other (text : String)
  deriving DecidableEq, Repr

/-- The wording of a fault. -/
def ConfigFault.message : ConfigFault → String
  | .missing setting => setting ++ " is required"
  | .url setting fault => setting ++ ": " ++ fault.message
  | .number setting fault => setting ++ ": " ++ fault.message
  | .timeouts fault => fault.message
  | .noCookies => "a custom transport needs a cookie source to read the CSRF cookie"
  | .contentType text =>
    "content type " ++ Text.quoted text ++ ": failed to parse header value"
  | .other text => text

/-- Why a store could not be read or written. -/
inductive StorageFault where
  /-- The file at the path, or what leads to it, is at fault. -/
  | file (path : String) (fault : Files.Fault)
  /-- Another cause, worded by who found it. -/
  | other (text : String)
  deriving DecidableEq, Repr

/-- The wording of a fault. -/
def StorageFault.message : StorageFault → String
  | .file path fault => path ++ ": " ++ fault.message
  | .other text => text

/-- The wording of a fault of a JSON text. -/
def Json.Fault.message : Json.Fault → String
  | .ended => "unexpected end of text"
  | .malformed => "malformed text"
  | .mismatched => "unexpected value"

/-- What a call fails with. -/
inductive Error where
  /-- The exchange with the backend came to nothing. -/
  | transfer (fault : TransferFault)
  /-- The backend answered with a status that is no success. -/
  | status (method path : String) (code : Nat) (body : String)
  /-- The session is over and could not be renewed: the user has to sign in again. -/
  | sessionExpired (failure : RenewalFailure)
  /-- The client or the request is not set up as it has to be. -/
  | config (fault : ConfigFault)
  /-- A text is no URL. -/
  | url (fault : Url.Fault)
  /-- A text is not the JSON of the value wanted. -/
  | json (fault : Json.Fault)
  /-- A store could not be read or written. -/
  | storage (fault : StorageFault)
  /-- A text names no stage of a lead. -/
  | invalidLeadStatus (text : String)
  deriving DecidableEq, Repr

namespace Error

/-- The wording of an error. -/
def message : Error → String
  | transfer fault => "HTTP error: " ++ fault.message
  | status method path code _ =>
    method ++ " " ++ path ++ " failed with status " ++ Nat.repr code
  | sessionExpired failure => "Session expired: " ++ failure.message
  | config fault => "Configuration error: " ++ fault.message
  | url fault => "Invalid URL: " ++ fault.message
  | json fault => "JSON error: " ++ fault.message
  | storage fault => "Storage error: " ++ fault.message
  | invalidLeadStatus text => "Invalid lead status: " ++ text

/-- The status that an error carries. -/
def status? : Error → Option Nat
  | transfer (.status code _) => some code
  | status _ _ code _ => some code
  | sessionExpired failure => failure.status
  | _ => none

/-- True if the user has to sign in again. -/
def isSessionExpired : Error → Bool
  | sessionExpired _ => true
  | _ => false

/-- True if the time for an answer was up. -/
def isTimeout : Error → Bool
  | transfer (.send _ timedOut) => timedOut
  | _ => false

end Error

end Brokerage
