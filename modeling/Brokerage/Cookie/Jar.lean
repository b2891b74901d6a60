import Brokerage.Cookie.Basic

/-!
# Cookie jars

The cookies that a client keeps. There is one for each name, host and path; those that go to a URL
are listed in one header.
-/

namespace Brokerage

/-- The cookies that a client keeps, and the second since the start of the year 0 at which they are
looked at. -/
structure Jar where
  now : Nat
  cookies : List Cookie := []
  deriving DecidableEq, Repr

namespace Jar

/-- True of cookies of which a jar keeps one only, whether they go to a host or to a domain of that
name. -/
def isSame (a b : Cookie) : Bool :=
  a.name == b.name && a.scope.name == b.scope.name && a.path == b.path

/-- Puts a cookie where the one is that it is to replace, or at the end. -/
def replaceOrAppend (c : Cookie) : List Cookie → List Cookie
  | [] => [c]
  | d :: rest => if isSame c d then c :: rest else d :: replaceOrAppend c rest

/-- The jar with a cookie. Nothing but a web request may replace one that only concerns them, and a
cookie that does not hold any more takes the one away that it replaces. -/
def insert (j : Jar) (c : Cookie) (url : Url) : Jar :=
  if j.cookies.any (fun d => isSame c d && d.httpOnly && !Cookie.isWeb url) then j
  else if c.isExpired j.now then { j with cookies := j.cookies.filter (fun d => !isSame c d) }
  else { j with cookies := replaceOrAppend c j.cookies }

/-- The jar after a URL has set a cookie with a text, if it may. -/
def add (j : Jar) (text : String) (url : Url) : Jar :=
  match Cookie.ofSetting? text url j.now with
  | some c => j.insert c url
  | none => j

/-- The cookies that go to a URL. -/
def sentTo (j : Jar) (url : Url) : List Cookie :=
  j.cookies.filter (fun c => c.goesTo url && !c.isExpired j.now)

/-- The header that lists cookies. -/
def header (cookies : List Cookie) : String :=
  String.intercalate "; " (cookies.map (fun c => c.name ++ "=" ++ c.value))

/-- True of the characters that a header shows: visible ASCII, spaces and tabs. -/
def isPlain (c : Char) : Bool :=
  c = '\t' || (0x20 ≤ c.toNat && c.toNat < 0x7F)

/-- The value of a cookie as it goes to a URL, looked up in the header. A header that is not all
plain characters cannot be read. -/
def lookup (j : Jar) (url : Url) (name : String) : Option String :=
  let text := header (j.sentTo url)
  if text.toList.all isPlain then Cookie.inHeader? text name else none

end Jar

end Brokerage
