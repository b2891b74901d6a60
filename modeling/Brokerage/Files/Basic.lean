import Brokerage.Files.Fault
import Brokerage.Files.Path
import Brokerage.Text.Utf8

/-!
# Files and directories

A tree of files and directories without links, as far as a store needs one: reading and writing
whole files, making directories and moving a file onto another one.
-/

namespace Brokerage

namespace Files

/-- Where something is: the names from the root down. -/
abbrev Place := List String

/-- What may be at a place. -/
inductive Entry where
  | file (content : Bytes)
  | directory
  deriving DecidableEq, Repr

end Files

/-- Files and directories, by place, and the working directory. The root is always there. -/
structure Files where
  entries : List (Files.Place × Files.Entry)
  current : Files.Place
  deriving DecidableEq, Repr

namespace Files

/-- What is at a place. -/
def at? (fs : Files) (place : Place) : Option Entry :=
  if place = [] then some .directory else fs.entries.lookup place

/-- The tree without anything at a place. -/
def erase (fs : Files) (place : Place) : Files :=
  { fs with entries := fs.entries.filter (fun entry => entry.1 != place) }

/-- The tree with an entry at a place, instead of what was there. -/
def put (fs : Files) (place : Place) (entry : Entry) : Files :=
  { fs with entries := (place, entry) :: (fs.erase place).entries }

/-! ### Places -/

/-- The place that a name means inside a directory. -/
def child (place : Place) (name : String) : Place :=
  if name = "." then place else if name = ".." then place.dropLast else place ++ [name]

/-- What a name means inside a directory: the place, and what is there. -/
def step (fs : Files) (place : Place) (name : String) : Except Fault (Place × Option Entry) :=
  if longestName < name.utf8ByteSize then .error .tooLong
  else .ok (child place name, fs.at? (child place name))

/-- Goes down through directories. -/
def walk (fs : Files) (place : Place) : List String → Except Fault Place
  | [] => .ok place
  | name :: rest =>
    match fs.step place name with
    | .error e => .error e
    | .ok (place, some .directory) => fs.walk place rest
    | .ok (_, some (.file _)) => .error .notDirectory
    | .ok (_, none) => .error .missing

/-- Where a path starts. -/
def start (fs : Files) (p : Path) : Place :=
  if p.absolute then [] else fs.current

/-- The directory that a path leads to before its last name. -/
def above (fs : Files) (p : Path) : Except Fault Place :=
  match p.fault? with
  | some e => .error e
  | none =>
    if p.names.isEmpty && !p.absolute then .error .missing
    else fs.walk (fs.start p) p.names.dropLast

/-- The place of a path, all of whose names but the last one lead through directories, and what is
there. -/
def locate (fs : Files) (p : Path) : Except Fault (Place × Option Entry) :=
  match fs.above p with
  | .error e => .error e
  | .ok place => fs.step place (p.names.getLast?.getD ".")

/-! ### Operations -/

/-- The content of a file. -/
def read (fs : Files) (p : Path) : Except Fault Bytes :=
  match fs.locate p with
  | .error e => .error e
  | .ok (_, none) => .error .missing
  | .ok (_, some .directory) => .error .isDirectory
  | .ok (_, some (.file content)) =>
    if p.namesDirectory then .error .notDirectory else .ok content

/-- The tree with a file of this content at a path, instead of one that was there. -/
def write (fs : Files) (p : Path) (content : Bytes) : Except Fault Files :=
  match fs.locate p with
  | .error e => .error e
  | .ok (_, some .directory) => .error .isDirectory
  | .ok (place, _) =>
    if p.namesDirectory then .error .isDirectory else .ok (fs.put place (.file content))

/-- The tree with the file of one path at another path, instead of one that was there. -/
def move (fs : Files) (source target : Path) : Except Fault Files :=
  match fs.locate source, fs.above target with
  | .error e, _ => .error e
  | .ok _, .error e => .error e
  | .ok (place, entry), .ok _ =>
    if !target.endsInName then .error .busy
    else
      match entry, fs.locate target with
      | none, _ => .error .missing
      | some _, .error e => .error e
      | some .directory, _ => .error .isDirectory
      | some (.file content), .ok (goal, there) =>
        if target.namesDirectory then .error .notDirectory
        else if there = some .directory then .error .isDirectory
        else .ok ((fs.erase place).put goal (.file content))

/-- Makes one directory, in the directory that names lead to. -/
def makeOne (fs : Files) (place : Place) (names : List String) (name : String) :
    Except Fault Files :=
  match fs.walk place names with
  | .error e => .error e
  | .ok place =>
    match fs.step place name with
    | .error e => .error e
    | .ok (_, some _) => .error .occupied
    | .ok (place, none) => .ok (fs.put place .directory)

/-- Makes one directory unless it is there. -/
def makeUnlessThere (fs : Files) (place : Place) (names : List String) (name : String) :
    Except Fault Files :=
  match fs.makeOne place names name with
  | .ok fs => .ok fs
  | .error .occupied =>
    match fs.walk place (names ++ [name]) with
    | .ok _ => .ok fs
    | .error _ => .error .occupied
  | .error e => .error e

/-- Makes the directory of these names, last one first, and if something on the way is missing,
first those that lead to it. What has been made stays, also if one cannot be made. -/
def makeUp (fs : Files) (place : Place) : List String → Files × Except Fault Unit
  | [] => (fs, .ok ())
  | name :: above =>
    match fs.makeUnlessThere place above.reverse name with
    | .ok fs => (fs, .ok ())
    | .error .missing =>
      match fs.makeUp place above with
      | (fs, .error e) => (fs, .error e)
      | (fs, .ok ()) =>
        match fs.makeUnlessThere place above.reverse name with
        | .ok fs => (fs, .ok ())
        | .error e => (fs, .error e)
    | .error e => (fs, .error e)

/-- Makes a directory and those on the way to it, as far as they are missing. -/
def makeAll (fs : Files) (p : Path) : Files × Except Fault Unit :=
  match p.fault? with
  | some e => (fs, .error e)
  | none => fs.makeUp (fs.start p) p.names.reverse

end Files

end Brokerage
