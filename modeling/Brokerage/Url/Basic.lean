import Brokerage.Url.Form
import Brokerage.Url.Host

/-!
# URLs

A URL taken apart. Every component is kept in its escaped form, so that writing one joins the
components with their delimiters and escapes nothing.
-/

namespace Brokerage

/-- Who is asked for: the machine, the port unless it is the usual one of the scheme, and the
account. -/
structure Url.Authority where
  username : String
  password : Option String
  host : Host
  port : Option Nat
  deriving DecidableEq, Repr

/-- Where on the machine. -/
inductive Url.Path where
  /-- A text that no relative URL can be resolved against, as in `mailto:a@b`. -/
  | rootless (text : String)
  /-- Segments, each behind a slash. There may be none. -/
  | rooted (segments : List String)
  deriving DecidableEq, Repr

/-- A URL. -/
structure Url where
  /-- The scheme in small letters. -/
  scheme : String
  authority : Option Url.Authority
  path : Url.Path
  query : Option String
  fragment : Option String
  deriving DecidableEq, Repr

namespace Url

/-- The segments, each behind a slash. -/
def writeSegments (segments : List String) : String :=
  String.join (segments.map ("/" ++ ·))

/-- The path as it is written. -/
def Path.write : Path → String
  | rootless text => text
  | rooted segments => writeSegments segments

/-- A component behind its delimiter, if there is one. -/
def after (delimiter : String) : Option String → String
  | some s => delimiter ++ s
  | none => ""

/-- The account in front of a host. -/
def Authority.writeAccount (a : Authority) : String :=
  if a.username = "" ∧ a.password = none then ""
  else a.username ++ after ":" a.password ++ "@"

/-- The authority as it is written. -/
def Authority.write (a : Authority) : String :=
  "//" ++ a.writeAccount ++ a.host.write ++ after ":" (a.port.map Nat.repr)

/-- What stands between the scheme and the path. Without an authority, a path whose first segment
is empty would be taken for one, so a dot goes in front of it. -/
def writeAuthority (u : Url) : String :=
  match u.authority, u.path with
  | some a, _ => a.write
  | none, .rooted ("" :: _ :: _) => "/."
  | none, _ => ""

/-- The URL as a text. -/
def write (u : Url) : String :=
  u.scheme ++ ":" ++ u.writeAuthority ++ u.path.write ++ after "?" u.query ++ after "#" u.fragment

/-- True of the schemes whose URLs name a machine and a path on it. -/
def isSpecial (scheme : String) : Bool :=
  ["http", "https", "ws", "wss", "ftp", "file"].contains scheme

/-- The port that a scheme uses if none is given. -/
def defaultPort? (scheme : String) : Option Nat :=
  if scheme = "http" ∨ scheme = "ws" then some 80
  else if scheme = "https" ∨ scheme = "wss" then some 443
  else if scheme = "ftp" then some 21
  else none

/-- The host, if the URL names one. -/
def host? (u : Url) : Option Host :=
  match u.authority with
  | some a => if a.host.isEmpty then none else some a.host
  | none => none

/-- The pairs of the query. -/
def pairs (u : Url) : List Form.Pair :=
  Form.read (u.query.getD "")

/-- A query with further pairs behind it. -/
def extendQuery (query : Option String) (pairs : List Form.Pair) : String :=
  match query with
  | none => Form.write pairs
  | some q => if q = "" then Form.write pairs else q ++ "&" ++ Form.write pairs

/-- The URL with further pairs in its query. -/
def addPairs (u : Url) (pairs : List Form.Pair) : Url :=
  if pairs = [] then u else { u with query := some (extendQuery u.query pairs) }

/-! ### Drives -/

/-- True of a letter with a colon or a bar behind it, which names a drive. -/
def isDrive : List Char → Bool
  | [c, d] => c.isAlpha && (d = ':' || d = '|')
  | _ => false

/-- A drive as it is written: with a colon. -/
def writeDrive (letter : Char) : String :=
  String.ofList [letter, ':']

/-- True of a drive with a colon. -/
def isSettledDrive (segment : String) : Bool :=
  isDrive segment.toList && segment.toList.getLast? = some ':'

/-- A segment as it is written if it is the first one of a file's path. -/
def settleDrive (segment : String) : String :=
  if isDrive segment.toList then writeDrive (segment.toList.headD ' ') else segment

/-! ### Trailing slashes -/

/-- The path with a slash at its end, if it has none. A path with a root gets a new last segment,
and its first one is settled by `settle`. Where nothing can be relative to a path, a slash at its
start would make it another path and is escaped. -/
def Path.withTrailingSlash (settle : String → String) : Path → Path
  | rootless text =>
    if text = "" then rootless "%2F"
    else if text.toList.getLast? = some '/' then rootless text
    else rootless (text ++ "/")
  | rooted segments =>
    if segments.getLast? = some "" then rooted segments
    else rooted ((segments.take 1).map settle ++ segments.drop 1 ++ [""])

/-- The URL with a slash put behind its path, as far as the path can have one. If a file's path gets
one, its first segment may be a drive. -/
def withTrailingSlash (u : Url) : Url :=
  { u with path := u.path.withTrailingSlash (if u.scheme = "file" then settleDrive else id) }

end Url

end Brokerage
