import Brokerage.Text.Blank
import Brokerage.Url.Basic

/-!
# Reading URLs

A text is read from its delimiters: the fragment behind the first `#`, the query behind the first
`?`, the scheme in front of a colon. What is left names a machine and a path, or a path that is
resolved against the one of a base.
-/

namespace Brokerage.Url

/-! ### Delimiters -/

/-- The text without the controls and spaces around it. -/
def stripped (s : String) : List Char :=
  Text.stripBy (·.toNat ≤ 0x20) s.toList

/-- Tabs and line breaks, which may stand anywhere in a URL and do not belong to it. -/
def isBreak (c : Char) : Bool :=
  c = '\t' || c = '\n' || c = '\r'

/-- The characters that belong to the URL. -/
def withoutBreaks (cs : List Char) : List Char :=
  cs.filter (!isBreak ·)

/-- The text from the first character on that belongs to the URL. -/
def skipBreaks (cs : List Char) : List Char :=
  cs.dropWhile isBreak

/-- A text cut at the delimiters of its query and its fragment. Its front may hold breaks. -/
structure Pieces where
  front : List Char
  query : Option (List Char)
  fragment : Option (List Char)

/-- Cuts a text at the delimiters of its query and its fragment. -/
def Pieces.ofChars (cs : List Char) : Pieces :=
  match Text.cut '#' cs with
  | (cs, fragment) =>
    match Text.cut '?' cs with
    | (front, query) => ⟨front, query.map withoutBreaks, fragment.map withoutBreaks⟩

/-- The query in its escaped form. -/
def encodeQuery (scheme : String) (query : List Char) : String :=
  Percent.encode (if isSpecial scheme then Percent.inSpecialQuery else Percent.inQuery)
    (String.ofList query)

/-- The fragment in its escaped form. -/
def encodeFragment (fragment : List Char) : String :=
  Percent.encode Percent.inFragment (String.ofList fragment)

/-- True of the characters of a scheme behind its first letter. -/
def isSchemeChar (c : Char) : Bool :=
  c.isAlphanum || c = '+' || c = '-' || c = '.'

/-- The scheme in small letters and what follows its colon, if the text starts with one. -/
def scheme? (cs : List Char) : Option (String × List Char) :=
  match Text.cut ':' cs with
  | (scheme, some rest) =>
    let scheme := withoutBreaks scheme
    if scheme.head?.any Char.isAlpha && scheme.all isSchemeChar then
      some (String.ofList (scheme.map Char.toLower), rest)
    else none
  | (_, none) => none

/-- True of what separates segments; a backslash does so where the scheme is special. -/
def isSlash (special : Bool) (c : Char) : Bool :=
  c = '/' || (special && c = '\\')

/-! ### Paths -/

/-- True of a segment that stands for the place it is in: a dot, escaped or not. -/
def isDot (segment : List Char) : Bool :=
  [".", "%2e"].contains (String.ofList (segment.map Char.toLower))

/-- True of a segment that stands for the place above. -/
def isDotDot (segment : List Char) : Bool :=
  ["..", ".%2e", "%2e.", "%2e%2e"].contains (String.ofList (segment.map Char.toLower))

/-- True of a segment that is a drive, or goes on with a backslash behind one. -/
def startsWithDrive : List Char → Bool
  | c :: d :: rest => isDrive [c, d] && (rest.isEmpty || rest.head? == some '\\')
  | _ => false

/-- The segments one place up. The root and a drive have no place above them. -/
def parent (segments : List String) : List String :=
  match segments.getLast? with
  | some last => if startsWithDrive last.toList then segments else segments.dropLast
  | none => []

/-- The segment in its escaped form. -/
def encodeSegment (segment : List Char) : String :=
  Percent.encode Percent.inPath (String.ofList segment)

/-- How a segment goes behind those that are there. -/
abbrev Placing := List String → List Char → List String

/-- The segments after one more that is not the last one. -/
def step (place : Placing) (segments : List String) (segment : List Char) : List String :=
  if isDotDot (withoutBreaks segment) then parent segments
  else if isDot (withoutBreaks segment) then segments
  else segments ++ place segments segment

/-- The segments after the last one. A path whose last segment stands for a place ends in a
slash. -/
def lastStep (place : Placing) (segments : List String) (segment : List Char) : List String :=
  if isDotDot (withoutBreaks segment) then parent segments ++ [""]
  else if isDot (withoutBreaks segment) then segments ++ [""]
  else segments ++ place segments segment

/-- Puts segments behind those that are there, and resolves those that stand for places. -/
def resolve (place : Placing) : List String → List (List Char) → List String
  | segments, [] => segments
  | segments, [last] => lastStep place segments last
  | segments, segment :: next :: rest =>
    resolve place (step place segments segment) (next :: rest)

/-- A segment goes into its place in its escaped form. -/
def placeEscaped : Placing :=
  fun _ segment => [encodeSegment segment]

/-- The path that a text behind the first slash is, after the segments that are there. -/
def readPath (special : Bool) (segments : List String) (cs : List Char) : List String :=
  resolve placeEscaped segments (cs.splitOnP (isSlash special))

/-- The text without one slash at its start. -/
def dropSlash (special : Bool) : List Char → List Char
  | [] => []
  | c :: cs => if isSlash special c then cs else c :: cs

/-- The path behind an authority. Where the scheme is special there is always one. -/
def readPathAfter (special : Bool) (cs : List Char) : List String :=
  if cs.isEmpty && !special then [] else readPath special [] (dropSlash special cs)

/-! ### Authorities -/

/-- The account in front of the last at sign. An empty password is none. -/
def readAccount (cs : List Char) : String × Option String :=
  let encoded := fun cs => Percent.encode Percent.inUserInfo (String.ofList cs)
  match Text.cut ':' cs with
  | (username, none) => (encoded username, none)
  | (username, some []) => (encoded username, none)
  | (username, some password) => (encoded username, some (encoded password))

/-- The host up to the first colon outside of brackets, and what follows it. -/
def cutHost : Bool → List Char → List Char × List Char
  | _, [] => ([], [])
  | inside, c :: cs =>
    if c = ':' && !inside then ([], c :: cs)
    else
      match cutHost (c = '[' || (inside && c != ']')) cs with
      | (host, rest) => (c :: host, rest)

/-- The number of a port in decimal digits; `none` if it is no port. -/
def portNumber? (cs : List Char) : Option Nat :=
  match Address.digitsFrom 10 0 cs with
  | some n => if n ≤ 65535 then some n else none
  | none => none

/-- Reads the port behind a host: the port unless it is the usual one, and the text that follows.
Only a slash of either kind may follow it. -/
def readPort (scheme : String) (cs : List Char) : Except Fault (Option Nat × List Char) :=
  match cs with
  | ':' :: cs =>
    let digits := cs.takeWhile Char.isDigit
    let rest := cs.dropWhile Char.isDigit
    if rest.isEmpty || isSlash true (rest.headD '/') then
      match portNumber? digits with
      | some n =>
        .ok (if digits.isEmpty || defaultPort? scheme = some n then none else some n, rest)
      | none => .error .port
    else .error .port
  | rest => .ok (none, rest)

/-- The host that a text is under a scheme. -/
def readHost (special : Bool) (cs : List Char) : Except Fault Host :=
  if special then if cs.isEmpty then .error .emptyHost else Host.readWeb cs
  else Host.readPlain cs

/-- The account and the rest behind the last at sign. Where nothing but the end of the authority
follows an at sign without an account, the host is missing. -/
def splitAccount (ends : Bool) (cs : List Char) :
    Except Fault ((String × Option String) × List Char) :=
  match Text.cutLast '@' cs with
  | (none, rest) => .ok (("", none), rest)
  | (some [], rest) => if rest.isEmpty && ends then .error .emptyHost else .ok (("", none), rest)
  | (some account, rest) => .ok (readAccount account, rest)

/-- Reads what follows the two slashes: the authority and the path behind it. `more` says that a
query or a fragment follows. -/
def readAuthority (scheme : String) (more : Bool) (cs : List Char) :
    Except Fault (Authority × List Char) :=
  let special := isSpecial scheme
  let front := cs.takeWhile (!isSlash special ·)
  let back := cs.dropWhile (!isSlash special ·)
  match splitAccount (more || !back.isEmpty) front with
  | .error e => .error e
  | .ok ((username, password), rest) =>
    match cutHost false rest with
    | (host, rest) =>
      match readHost special host with
      | .error e => .error e
      | .ok host =>
        if host.isEmpty && !rest.isEmpty then .error .emptyHost
        else
          match readPort scheme rest with
          | .error e => .error e
          | .ok (port, rest) =>
            if host.isEmpty && (username != "" || password.isSome) then .error .emptyHost
            else .ok (⟨username, password, host, port⟩, rest ++ back)

/-! ### Files -/

/-- The authority of a file on this machine. -/
def noMachine : Authority := ⟨"", none, .named "", none⟩

/-- The drive at the start of a text and what goes on behind it, if a break cuts it off. -/
def cutDrive? (cs : List Char) : Option (Char × List Char) :=
  match skipBreaks cs with
  | [] => none
  | letter :: cs =>
    match skipBreaks cs with
    | ':' :: c :: cs =>
      let rest := withoutBreaks cs
      if letter.isAlpha && isBreak c && !rest.isEmpty then some (letter, rest) else none
    | _ => none

/-- A segment of a file's path goes into its place in its escaped form. The first one may be a
drive: it is written with a colon, and what a break cuts off from it is a segment of its own. -/
def placeFile : Placing :=
  fun segments segment =>
    if segments.isEmpty then
      match cutDrive? segment with
      | some (letter, rest) => [writeDrive letter, encodeSegment rest]
      | none => [settleDrive (encodeSegment (withoutBreaks segment))]
    else [encodeSegment (withoutBreaks segment)]

/-- The segments of a text. -/
def splitPath (cs : List Char) : List (List Char) :=
  cs.splitOnP (isSlash true)

/-- The path of a file. Empty segments at its start are dropped. -/
def readFilePath (segments : List String) (cs : List Char) : List String :=
  match (resolve placeFile segments (splitPath cs)).dropWhile (· == "") with
  | [] => [""]
  | path => path

/-- True if a drive comes to be the first segment of a path, behind the segments that are there. -/
def meetsDrive : List String → List (List Char) → Bool
  | _, [] => false
  | segments, segment :: rest =>
    (segments.isEmpty && isDrive (withoutBreaks segment)) ||
      meetsDrive (step placeFile segments segment) rest

/-- True if a text starts with a segment that names a drive. -/
def startsWithDriveSegment (cs : List Char) : Bool :=
  isDrive (withoutBreaks (cs.takeWhile (!isSlash true ·)))

/-- Reads what follows the two slashes of a file: a machine, or the path right away. A path behind
a machine that starts with a drive is on this machine. -/
def readFileHost (cs : List Char) : Except Fault (Authority × List String) :=
  let host := withoutBreaks (cs.takeWhile (!isSlash true ·))
  let rest := cs.dropWhile (!isSlash true ·)
  if isDrive host then .ok (noMachine, readFilePath [] cs)
  else if host.isEmpty then .ok (noMachine, readFilePath [] rest)
  else
    match Host.readWeb host with
    | .error e => .error e
    | .ok host =>
      if host = .named "localhost" then .ok (noMachine, readFilePath [] rest)
      else
        let path := dropSlash true rest
        if meetsDrive [] (splitPath path) then .ok (noMachine, readFilePath [] path)
        else .ok ({ noMachine with host := host }, readFilePath [] path)

/-- The segments of a path, none for a path without a root. -/
def Path.segments : Path → List String
  | rootless _ => []
  | rooted segments => segments

/-- The drive that a path is on. -/
def driveOf (segments : List String) : List String :=
  match segments with
  | first :: _ => if isSettledDrive first then [first] else []
  | [] => []

/-- Reads a path that starts at the root. It stays on the drive of the base, or else on its
machine. -/
def readFromRoot (machine : Authority) (segments : List String) (cs : List Char) :
    Authority × List String :=
  if startsWithDriveSegment cs then (noMachine, readFilePath [] cs)
  else if driveOf segments = [] then (machine, readFilePath [] cs)
  else (noMachine, readFilePath (driveOf segments) cs)

/-- Reads a file, relative to another one if there is such. -/
def readFile (base : Option Url) (cs : List Char) : Except Fault (Authority × List String) :=
  let machine := (base.bind (·.authority)).getD noMachine
  let segments := (base.map (fun base => base.path.segments)).getD []
  match skipBreaks cs with
  | [] => .ok (machine, readFilePath [] [])
  | c :: rest =>
    if isSlash true c then
      match skipBreaks rest with
      | [] => .ok (readFromRoot machine segments rest)
      | d :: after =>
        if isSlash true d then readFileHost after else .ok (readFromRoot machine segments rest)
    else if startsWithDriveSegment cs then .ok (noMachine, readFilePath [] cs)
    else if segments = driveOf segments then .ok (machine, readFilePath segments cs)
    else .ok (machine, readFilePath segments.dropLast cs)

/-! ### Resolving -/

/-- A URL with a rooted path. -/
def assemble (scheme : String) (authority : Option Authority) (path : List String) (p : Pieces) :
    Url where
  scheme := scheme
  authority := authority
  path := .rooted path
  query := p.query.map (encodeQuery scheme)
  fragment := p.fragment.map encodeFragment

/-- Reads a URL behind the two slashes of its authority. -/
def readAbsolute (scheme : String) (p : Pieces) (cs : List Char) : Except Fault Url :=
  match readAuthority scheme (p.query.isSome || p.fragment.isSome) cs with
  | .error e => .error e
  | .ok (authority, rest) =>
    .ok (assemble scheme (some authority) (readPathAfter (isSpecial scheme) rest) p)

/-- The base with another query, if the text has one, and the fragment of the text. -/
def replaceTail (base : Url) (p : Pieces) : Url :=
  { base with
    query := (p.query.map (encodeQuery base.scheme)).or base.query
    fragment := p.fragment.map encodeFragment }

/-- Resolves a text without a scheme against a base with a rooted path. -/
def readRelative (base : Url) (segments : List String) (p : Pieces) : Except Fault Url :=
  let special := isSpecial base.scheme
  match p.front with
  | [] => .ok (replaceTail base p)
  | c :: rest =>
    if isSlash true c then
      let slashes := p.front.takeWhile (isSlash true)
      if 2 ≤ slashes.length then
        if ['/', '/'].isPrefixOf slashes then readAbsolute base.scheme p (p.front.drop 2)
        else readAbsolute base.scheme p (p.front.dropWhile (isSlash true))
      else .ok (assemble base.scheme base.authority (readPath special [] rest) p)
    else .ok (assemble base.scheme base.authority (readPath special segments.dropLast p.front) p)

/-- Resolves a file's text against another file, if there is one. -/
def readFileUrl (base : Option Url) (p : Pieces) : Except Fault Url :=
  match skipBreaks p.front, base with
  | [], some base => .ok (replaceTail base p)
  | _, base =>
    match readFile base p.front with
    | .error e => .error e
    | .ok (authority, path) => .ok (assemble "file" (some authority) path p)

/-- Reads what follows the colon of a scheme that is not special. -/
def readOther (scheme : String) (p : Pieces) : Except Fault Url :=
  match p.front with
  | '/' :: '/' :: cs => readAbsolute scheme p cs
  | '/' :: cs => .ok (assemble scheme none (readPath false [] cs) p)
  | cs =>
    .ok { assemble scheme none [] p with
          path := .rootless (Percent.encode Percent.controls (String.ofList cs)) }

/-- Reads what follows the colon of a special scheme. A scheme that the base shares may stand in
front of a relative text. -/
def readSpecial (base : Option Url) (scheme : String) (p : Pieces) : Except Fault Url :=
  match base.filter (·.scheme == scheme) with
  | some base =>
    if (p.front.takeWhile (isSlash true)).length < 2 then
      readRelative base base.path.segments p
    else readAbsolute scheme p (p.front.dropWhile (isSlash true))
  | none => readAbsolute scheme p (p.front.dropWhile (isSlash true))

/-- Reads a text without a scheme against a base. -/
def readWithoutScheme (base : Url) (p : Pieces) : Except Fault Url :=
  let q := { p with front := withoutBreaks p.front }
  if q.front.isEmpty && p.query.isNone && p.fragment.isSome then .ok (replaceTail base p)
  else
    match base.path with
    | .rootless _ => .error .relativeToRootless
    | .rooted segments =>
      if base.scheme = "file" then readFileUrl (some base) p else readRelative base segments q

/-- Reads a text that may be relative to a base. -/
def readAgainst (base : Option Url) (s : String) : Except Fault Url :=
  let p := Pieces.ofChars (stripped s)
  match scheme? p.front with
  | some (scheme, cs) =>
    if scheme = "file" then readFileUrl (base.filter (·.scheme == scheme)) { p with front := cs }
    else if isSpecial scheme then readSpecial base scheme { p with front := withoutBreaks cs }
    else readOther scheme { p with front := withoutBreaks cs }
  | none =>
    match base with
    | none => .error .relativeWithoutBase
    | some base => readWithoutScheme base p

/-- The URL that a text is. -/
def parse (s : String) : Except Fault Url :=
  readAgainst none s

/-- The URL that a text is when it stands on the page at `base`. -/
def join (base : Url) (s : String) : Except Fault Url :=
  readAgainst (some base) s

end Brokerage.Url
