import Brokerage.Files.Basic
import Brokerage.Store.Basic

/-!
# Stores in a file

A table kept as one JSON object in a file. Every change writes the whole file anew: the new content
goes to a file beside it, which then takes its place, so that the file is never half written. A
file that holds a text of any other kind counts as an empty table.
-/

namespace Brokerage

/-- The store in the file at a path. -/
structure FileStore where
  path : String
  deriving DecidableEq, Repr

namespace FileStore

/-- The path of the file. -/
def target (s : FileStore) : Files.Path := Files.Path.ofText s.path

/-- The path of the file beside it that takes the new content. The whole name stays in front, so
that stores which differ in the extension alone do not share it. -/
def temporary (s : FileStore) : Files.Path := Files.Path.ofText (s.path ++ ".tmp")

/-- The error of a fault of the file or of what leads to it. -/
def error (s : FileStore) (fault : Files.Fault) : Error := .storage (.file s.path fault)

/-- The report of a file that does not hold a table. -/
def discarded (s : FileStore) : Log.Event :=
  ⟨.warn, "Discarding unreadable store file", [("path", s.path)]⟩

/-- The table in the file. -/
def load (s : FileStore) : Task Files Table := fun fs =>
  match fs.read s.target with
  | .error .missing => ⟨.ok .empty, fs, []⟩
  | .error fault => ⟨.error (s.error fault), fs, []⟩
  | .ok content =>
    match Text.decode? content with
    | none => ⟨.error (s.error .notText), fs, []⟩
    | some _ =>
      match Table.ofBytes content with
      | .ok table => ⟨.ok table, fs, []⟩
      | .error _ => ⟨.ok .empty, fs, [s.discarded]⟩

/-- Makes the directory of the file. -/
def makeParent (s : FileStore) : Task Files Unit := fun fs =>
  match s.target.parent? with
  | none => ⟨.ok (), fs, []⟩
  | some parent =>
    match fs.makeAll parent with
    | (fs, .ok ()) => ⟨.ok (), fs, []⟩
    | (fs, .error fault) => ⟨.error (s.error fault), fs, []⟩

/-- Writes the file beside. -/
def writeTemporary (s : FileStore) (content : Bytes) : Task Files Unit := fun fs =>
  match fs.write s.temporary content with
  | .ok fs => ⟨.ok (), fs, []⟩
  | .error fault => ⟨.error (s.error fault), fs, []⟩

/-- Puts the file beside in the place of the file. -/
def replace (s : FileStore) : Task Files Unit := fun fs =>
  match fs.move s.temporary s.target with
  | .ok fs => ⟨.ok (), fs, []⟩
  | .error fault => ⟨.error (s.error fault), fs, []⟩

/-- Makes a table the content of the file. -/
def save (s : FileStore) (table : Table) : Task Files Unit := do
  s.makeParent
  s.writeTemporary table.write
  s.replace

/-- Changes the table in the file. -/
def update (s : FileStore) (change : Table → Table) : Task Files Unit := do
  s.save (change (← s.load))

/-- The file as a store. -/
def store (s : FileStore) : KeyStore Files where
  get name := do return (← s.load).get? name
  set name text := s.update (·.insert name text)
  remove name := s.update (·.erase name)

end FileStore

end Brokerage
