import Brokerage.Cookie.Date
import Brokerage.Text.Blank
import Brokerage.Url.Parser

/-!
# Cookies

A named value that a backend leaves with its clients, and to whom it may go back: which hosts, which
paths, and whether only over a secure connection.
-/

namespace Brokerage

/-- The hosts to which a cookie goes back. -/
inductive Cookie.Scope where
  /-- The host that set it. -/
  | host (name : String)
  /-- A domain and all below it. -/
  | domain (name : String)
  deriving DecidableEq, Repr

/-- The host or the domain of a scope. -/
def Cookie.Scope.name : Cookie.Scope → String
  | host name => name
  | domain name => name

/-- A cookie. -/
structure Cookie where
  name : String
  value : String
  scope : Cookie.Scope
  path : String
  /-- It only goes over secure connections. -/
  secure : Bool
  /-- It only concerns web requests. -/
  httpOnly : Bool
  /-- The second since the start of the year 0 at which it stops to hold. -/
  expires : Option Nat
  deriving DecidableEq, Repr

namespace Cookie

/-! ### Pairs -/

/-- Characters as a text without the blanks around them. -/
def trimmed (cs : List Char) : String :=
  Text.trim (String.ofList cs)

/-- A name and a value around the first equals sign. Blanks around either do not count, and without
a name or without the sign there is no pair. -/
def pair? (cs : List Char) : Option (String × String) :=
  match Text.cut '=' cs with
  | (name, some value) => if trimmed name = "" then none else some (trimmed name, trimmed value)
  | (_, none) => none

/-- The value of a cookie in a header that lists them, as in `a=1; b=2`. The first one of the name
counts, and an empty value is none. -/
def inHeader? (header name : String) : Option String :=
  (((header.toList.splitOn ';').filterMap pair?).find? (·.1 == name)).bind
    fun pair => if pair.2 = "" then none else some pair.2

/-! ### Where a cookie goes -/

/-- Characters without a full stop at their start. -/
def dropStop : List Char → List Char
  | '.' :: cs => cs
  | cs => cs

/-- A domain in the form in which hosts are written. Any ASCII character may be part of it. -/
def sentDomain? (text : String) : Option (List Char) :=
  Domain.toAscii? (fun _ => false) (Text.encode (Text.trim text))

/-- True of a host under a domain. An address is under none but itself. -/
def isUnder (host : Host) (domain : String) : Bool :=
  host.write == domain ||
    (('.' :: domain.toList).isSuffixOf host.write.toList &&
      (Address.dotted? host.write.toList).isNone)

/-- The name under which the cookies of a host are kept. Four bytes inside an address of eight
pieces are written as bytes, in which form no host is looked up. -/
def keptUnder : Host → String
  | .ipv6 [0, 0, 0, 0, 0, 0xFFFF, high, low] =>
    "[::ffff:" ++ Address.writeIpv4 (high * 0x10000 + low) ++ "]"
  | host => host.write

/-- True if cookies that are kept under a name are found for a host: read as a domain, the name is
the host or one above it. -/
def isFound (name : String) (h : Host) : Bool :=
  match sentDomain? name with
  | none => false
  | some [] => false
  | some domain => isUnder h (String.ofList (dropStop domain))

/-- True if a cookie goes to a host. -/
def Scope.covers (scope : Scope) (h : Host) : Bool :=
  isFound scope.name h &&
    match scope with
    | host name => h.write == name
    | domain name => isUnder h name

/-- True of paths at or below another one. -/
def isBelow (path above : String) : Bool :=
  path == above ||
    (above.toList.isPrefixOf path.toList &&
      (above.toList.getLast? == some '/' || (path.toList.drop above.length).head? == some '/'))

/-- True of the URLs of web requests. -/
def isWeb (url : Url) : Bool :=
  "http".toList.isPrefixOf url.scheme.toList

/-- True of hosts that are this machine. -/
def isLoopback : Host → Bool
  | .named name => name == "localhost"
  | .ipv4 address => address / 0x1000000 == 127
  | .ipv6 pieces => pieces == [0, 0, 0, 0, 0, 0, 0, 1]

/-- True of URLs that nobody else can listen to. -/
def isSecure (url : Url) : Bool :=
  url.scheme == "https" || (url.host?.map isLoopback).getD false

/-- True if the path of a cookie covers a URL. -/
def coversPath (path : String) (url : Url) : Bool :=
  match url.path with
  | .rootless _ => false
  | .rooted _ => isBelow url.path.write path

/-- True if a cookie goes to a URL. -/
def goesTo (c : Cookie) (url : Url) : Bool :=
  coversPath c.path url && (url.host?.map c.scope.covers).getD false &&
    (!c.secure || isSecure url) && (!c.httpOnly || isWeb url)

/-- True of a cookie that does not hold any more. -/
def isExpired (c : Cookie) (now : Nat) : Bool :=
  match c.expires with
  | some moment => moment ≤ now
  | none => false

/-! ### Setting cookies -/

/-- The attributes behind the pair of a cookie. Of those of one name the last one counts. -/
structure Attributes where
  secure : Bool := false
  httpOnly : Bool := false
  maxAge : Option Nat := none
  expires : Option Nat := none
  domain : Option String := none
  path : Option String := none

/-- The seconds that a maximal age gives: none below zero, and as many as there can be if they are
left out or too many. Anything but digits behind a sign is no age. -/
def maxAge? (text : String) : Option Nat :=
  let negative := text.toList.head? == some '-'
  let digits := if negative then text.toList.drop 1 else text.toList
  if !digits.all Char.isDigit then none
  else if negative then some 0
  else if digits.isEmpty then some (Nat.pow 2 63 - 1)
  else some (Nat.min (digits.foldl (fun n c => n * 10 + (c.toNat - 0x30)) 0) (Nat.pow 2 63 - 1))

/-- A name and, behind an equals sign, a value, without the blanks around them. -/
def readAttribute (cs : List Char) : String × Option String :=
  match Text.cut '=' cs with
  | (name, value) => (String.ofList ((trimmed name).toList.map Char.toLower), value.map trimmed)

/-- The attributes with another one. Those that are unknown or make no sense change nothing. -/
def Attributes.add (a : Attributes) (cs : List Char) : Attributes :=
  match readAttribute cs with
  | ("secure", _) => { a with secure := true }
  | ("httponly", _) => { a with httpOnly := true }
  | ("max-age", some text) => { a with maxAge := (maxAge? text).or a.maxAge }
  | ("expires", some text) => { a with expires := (date? text).or a.expires }
  | ("domain", some text) => if text = "" then a else { a with domain := some text }
  | ("path", some text) => { a with path := some text }
  | _ => a

/-- The path of a cookie that names none: the directory of the URL that set it. -/
def defaultPath (url : Url) : String :=
  match url.path with
  | .rootless _ => "/"
  | .rooted segments => if segments.length ≤ 1 then "/" else Url.writeSegments segments.dropLast

/-- The path that an attribute names; it has to start at the root. -/
def path? (text : String) : Option String :=
  if text.toList.head? == some '/' then some text else none

/-- The hosts that a cookie from a host goes to: that host, unless the cookie names a domain. None
if the host is not under the domain. A full stop or two in front of a domain do not count. -/
def scope? (h : Host) (domain : Option String) : Option Scope :=
  match domain with
  | none => some (.host (keptUnder h))
  | some text =>
    match sentDomain? (String.ofList (dropStop text.toList)) with
    | none => none
    | some [] => some (.host (keptUnder h))
    | some name =>
      let name := String.ofList (dropStop name)
      if isUnder h name then some (.domain name) else none

/-- The cookie that a URL sets with a text. Its age counts for more than its expiry date. -/
def ofSetting? (text : String) (url : Url) (now : Nat) : Option Cookie :=
  match text.toList.splitOn ';' with
  | [] => none
  | first :: rest =>
    let a := rest.foldl Attributes.add {}
    match pair? first, url.host? with
    | some (name, value), some host =>
      if a.httpOnly && !isWeb url then none
      else
        (scope? host a.domain).map fun scope =>
          { name := name
            value := value
            scope := scope
            path := (a.path.bind path?).getD (defaultPath url)
            secure := a.secure
            httpOnly := a.httpOnly
            expires := (a.maxAge.map (fun s => if s = 0 then 0 else now + s)).or a.expires }
    | _, _ => none

end Cookie

end Brokerage
