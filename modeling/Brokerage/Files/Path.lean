import Brokerage.Files.Fault
import Brokerage.Text.Parts

/-!
# Paths

The text of a path, taken apart into names. Dots and empty names between slashes stand for the
directory they are in and are left out.
-/

namespace Brokerage.Files

/-- What stands behind the last name of a path. -/
inductive Ending where
  | nothing
  /-- Slashes, so that only a directory can be meant. -/
  | slash
  /-- A dot, which means the directory itself. -/
  | dot
  deriving DecidableEq, Repr

/-- A path, relative to the working directory unless it starts at the root. -/
structure Path where
  absolute : Bool
  /-- The names on the way, `..` for the directory above and a first `.` for the working one. -/
  names : List String
  ending : Ending
  /-- The number of bytes of the text. -/
  size : Nat
  deriving DecidableEq, Repr

/-- No path has as many bytes. -/
def sizeLimit : Nat := 4096

/-- The most bytes that a name has. -/
def longestName : Nat := 255

namespace Path

/-- The names of a text without those that stand for the directory they are in, unless the first
name of a relative path does. -/
def namesOf (absolute : Bool) (parts : List String) : List String :=
  match parts with
  | "." :: rest =>
    if absolute then rest.filter (fun part => part != "" && part != ".")
    else "." :: rest.filter (fun part => part != "" && part != ".")
  | parts => parts.filter (fun part => part != "" && part != ".")

/-- What stands behind the last name of a text. -/
def endingOf (parts : List String) : Ending :=
  match (parts.reverse.dropWhile (· == "")).head? with
  | some "." => .dot
  | _ => if parts.getLast? == some "" then .slash else .nothing

/-- The path that a text is. -/
def ofText (text : String) : Path :=
  let parts := (text.toList.splitOn '/').map String.ofList
  let absolute := text.toList.head? == some '/'
  { absolute := absolute
    names := namesOf absolute parts
    ending := endingOf parts
    size := text.utf8ByteSize }

/-- The path of these names and no more. -/
def ofNames (absolute : Bool) (names : List String) : Path where
  absolute := absolute
  names := names
  ending := .nothing
  size := names.foldl (fun n name => n + name.utf8ByteSize + 1) 0

/-- The path of the directory that a path is in; none for the root and for a path of no names. -/
def parent? (p : Path) : Option Path :=
  if p.names.isEmpty then none else some (ofNames p.absolute p.names.dropLast)

/-- True of a path that can mean a directory only. -/
def namesDirectory (p : Path) : Bool :=
  p.ending != .nothing

/-- True of a path whose last name is one that a file can have. -/
def endsInName (p : Path) : Bool :=
  p.ending != .dot && p.names.getLast?.any (fun name => name != "." && name != "..")

/-- Why no path can be written like this. -/
def fault? (p : Path) : Option Fault :=
  if p.names.any (·.toList.contains '\x00') then some .nullCharacter
  else if sizeLimit ≤ p.size then some .tooLong
  else none

end Path

end Brokerage.Files
