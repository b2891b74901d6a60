import Brokerage.Cookie.Jar
import Brokerage.Store.Table

/-!
# Sources of cookies

Where the client reads the cookies of the backend from: a jar, or values that the application sets
itself and that do not depend on the URL.
-/

namespace Brokerage

/-- Where cookies are read from. -/
inductive CookieSource where
  /-- Values that the application sets. -/
  | fixed (values : Table)
  /-- A jar. -/
  | jar (jar : Jar)
  deriving DecidableEq, Repr

namespace CookieSource

/-- The value of a cookie as it goes to a URL. -/
def lookup (s : CookieSource) (url : Url) (name : String) : Option String :=
  match s with
  | fixed values => values.get? name
  | jar j => j.lookup url name

/-- A change of the cookies. -/
inductive Change where
  /-- The application sets a value. -/
  | set (name value : String)
  /-- The application takes a value away. -/
  | remove (name : String)
  /-- A URL sets a cookie. -/
  | add (setting : String) (url : Url)
  deriving DecidableEq, Repr

/-- The source after a change. One that does not concern this kind of source changes nothing. -/
def apply (s : CookieSource) (change : Change) : CookieSource :=
  match s, change with
  | fixed values, .set name value => fixed (values.insert name value)
  | fixed values, .remove name => fixed (values.erase name)
  | jar j, .add setting url => jar (j.add setting url)
  | s, _ => s

end CookieSource

end Brokerage
