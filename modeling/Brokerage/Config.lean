import Brokerage.Error
import Brokerage.Text.Blank
import Brokerage.Url.Parser

/-!
# Configuration

Where the backend is and how it is talked to. Only the base URL has to be given; paths of the
interface are resolved below it, so the path of a web address is kept with a slash at its end.
-/

namespace Brokerage

/-- The settings of a client. -/
structure Config where
  /-- Where the interface of the backend is, as `Url.withTrailingSlash` leaves it. Only the path of
  a web address is sure to end in a slash. -/
  baseUrl : Url
  /-- Where sessions are renewed, relative to the base. -/
  refreshPath : String
  /-- Where a user signs in again. -/
  loginPath : String
  /-- The cookie that holds the token against forged requests. -/
  csrfCookie : String
  timeouts : Timeouts
  deriving DecidableEq, Repr

namespace Config

/-- The standard settings for a backend. -/
def ofUrl (url : Url) : Config where
  baseUrl := url.withTrailingSlash
  refreshPath := "auth/refresh"
  loginPath := "/login"
  csrfCookie := "csrf_token"
  timeouts := .standard

/-- The URL of a path of the interface. Slashes at its start do not count. -/
def endpoint (c : Config) (path : String) : Except Url.Fault Url :=
  c.baseUrl.join (String.ofList (path.toList.dropWhile (· == '/')))

/-- Where to sign in, and where to go on afterwards. -/
def loginLocation (c : Config) (returnTo : Option String) : String :=
  match returnTo with
  | some next =>
    if next = "" then c.loginPath else c.loginPath ++ "?next=" ++ Percent.component next
  | none => c.loginPath

/-! ### Settings from the environment -/

/-- The variable that holds the base URL. -/
def urlVariable : String := "ESTATEHUB_API_URL"

/-- The variable that holds the sign-in route. -/
def loginVariable : String := "ESTATEHUB_LOGIN_PATH"

/-- The variable that holds the name of the token's cookie. -/
def cookieVariable : String := "ESTATEHUB_CSRF_COOKIE"

/-- The variable that holds a category's ceiling in whole seconds. -/
def ceilingVariable : Category → String
  | .interactive => "ESTATEHUB_TIMEOUT_INTERACTIVE_SECS"
  | .generation => "ESTATEHUB_TIMEOUT_GENERATION_SECS"
  | .queue => "ESTATEHUB_TIMEOUT_QUEUE_SECS"
  | .upload => "ESTATEHUB_TIMEOUT_UPLOAD_SECS"

/-- The variable that holds the ceiling of a renewal in whole seconds. -/
def renewalVariable : String := "ESTATEHUB_TIMEOUT_RENEWAL_SECS"

/-- The span that a setting gives in whole seconds, or `standard` if it is not set. Blanks around
the number do not count. -/
def readSeconds (lookup : String → Option String) (setting : String) (standard : Duration) :
    Except ConfigFault Duration :=
  match lookup setting with
  | none => .ok standard
  | some text =>
    match Text.readNumeral (Text.trim text) with
    | .ok n => .ok (.ofSeconds n)
    | .error fault => .error (.number setting fault)

/-- The ceilings with those of some categories read from their variables. -/
def readCeilings (lookup : String → Option String) :
    List Category → Timeouts → Except ConfigFault Timeouts
  | [], t => .ok t
  | category :: rest, t =>
    match readSeconds lookup (ceilingVariable category) (t.ceiling category) with
    | .ok d => readCeilings lookup rest (t.setCeiling d category)
    | .error fault => .error fault

/-- The timeouts that the variables give. -/
def readTimeouts (lookup : String → Option String) : Except ConfigFault Timeouts :=
  match readCeilings lookup Category.all .standard with
  | .error fault => .error fault
  | .ok t =>
    match readSeconds lookup renewalVariable t.renewal with
    | .ok d => .ok { t with renewal := d }
    | .error fault => .error fault

/-- The base URL that its variable gives. -/
def readUrl (lookup : String → Option String) : Except ConfigFault Url :=
  match lookup urlVariable with
  | none => .error (.missing urlVariable)
  | some text =>
    match Url.parse text with
    | .ok url => .ok url
    | .error fault => .error (.url urlVariable fault)

/-- The settings that variables give. The base URL comes first, then each timeout, and last whether
the timeouts fit together: of several faults the first one is reported. -/
def ofLookup (lookup : String → Option String) : Except ConfigFault Config :=
  match readUrl lookup with
  | .error fault => .error fault
  | .ok url =>
    match readTimeouts lookup with
    | .error fault => .error fault
    | .ok timeouts =>
      match timeouts.fault? with
      | some fault => .error (.timeouts fault)
      | none =>
        .ok { ofUrl url with
              loginPath := (lookup loginVariable).getD (ofUrl url).loginPath
              csrfCookie := (lookup cookieVariable).getD (ofUrl url).csrfCookie
              timeouts := timeouts }

/-- The settings that an environment gives. A variable whose value is no text counts as unset. -/
def ofEnvironment (environment : List (String × Bytes)) : Except ConfigFault Config :=
  ofLookup fun name => (environment.lookup name).bind Text.decode?

end Config

end Brokerage
