import Brokerage.Proofs.Files.Directory
import Brokerage.Proofs.Files.Path
import Brokerage.Proofs.Store.Table
import Brokerage.Store.File

/-!
# What the steps of a store in a file do

A store reads its file, makes the directories on the way to it, writes the file beside it and moves
that one into its place. Each of these steps by what it does to the files. The file and the
one beside it are never at the same place (`ne_of_locate`), whatever the path: they have
the same directories on the way and different last names, or the path of the store means
one of these directories.
-/

namespace Brokerage

/-! ### Changes -/

/-- A change of a store. -/
inductive Edit where
  | set (name text : String)
  | remove (name : String)

/-- The table after a change. -/
def Edit.change : Edit → Table → Table
  | set name text, t => t.insert name text
  | remove name, t => t.erase name

/-- Makes a change to a store. -/
def KeyStore.edit {σ : Type} (store : KeyStore σ) : Edit → Task σ Unit
  | .set name text => store.set name text
  | .remove name => store.remove name

/-- What stays in order when it is changed. -/
theorem Table.Ordered.change {t : Table} (h : t.Ordered) (edit : Edit) :
    Table.Ordered (edit.change t) := by
  cases edit with
  | set name text => exact h.insert name text
  | remove name => exact h.erase name

/-! ### Tasks -/

namespace Task

variable {σ α β : Type} {task : Task σ α} {s s' : σ} {events : List Log.Event}

/-- A task goes on with what the first one found. -/
theorem bind_of_ok {a : α} (next : α → Task σ β) (h : task s = ⟨.ok a, s', events⟩) :
    (task >>= next) s =
      ⟨(next a s').result, (next a s').store, events ++ (next a s').events⟩ := by
  show Task.bind task next s = _
  rw [Task.bind, h]

/-- A task that fails ends there. -/
theorem bind_of_error {e : Error} (next : α → Task σ β) (h : task s = ⟨.error e, s', events⟩) :
    (task >>= next) s = ⟨.error e, s', events⟩ := by
  show Task.bind task next s = _
  rw [Task.bind, h]

end Task

namespace FileStore

variable {s : FileStore} {fs fs' : Files} {t : Table} {entries : List (String × String)}

theorem edit_store (s : FileStore) (edit : Edit) : s.store.edit edit = s.update edit.change := by
  cases edit <;> rfl

/-! ### Reading -/

/-- Reading changes no file. -/
theorem load_store (s : FileStore) (fs : Files) : (s.load fs).store = fs := by
  rw [load]
  repeat' split
  all_goals rfl

theorem load_of_missing (missing : fs.read s.target = .error .missing) :
    s.load fs = ⟨.ok .empty, fs, []⟩ := by
  rw [load, missing]

/-- A file that holds an object of texts is read as the table of its entries. -/
theorem load_of_isObject {text : String} (content : fs.content? s.target = some (Text.encode text))
    (object : Table.IsObject entries text.toList) :
    s.load fs = ⟨.ok (.ofEntries entries), fs, []⟩ := by
  have table : Table.ofBytes (Text.encode text) = .ok (.ofEntries entries) := by
    rw [Text.encode_eq_flatMap]
    exact Table.ofBytes_of_isObject object
  rw [load, Files.content?_eq_some_iff.mp content]
  simp only [Text.decode?_encode, table]

/-- A file that was written for a table is read as the table. -/
theorem load_of_write (ordered : t.Ordered) (content : fs.content? s.target = some t.write) :
    s.load fs = ⟨.ok t, fs, []⟩ := by
  obtain ⟨text, bytes, object⟩ := t.exists_isObject
  rw [load_of_isObject (bytes ▸ content) object, ordered.ofEntries_eq]

/-- Looking up changes no file. -/
theorem get_store (s : FileStore) (name : String) (fs : Files) :
    (s.store.get name fs).store = fs := by
  have same := s.load_store fs
  show (Task.bind s.load (fun t => Task.pure (t.get? name)) fs).store = fs
  rw [Task.bind]
  split
  · exact same
  · exact same

/-! ### Making the directory -/

/-- The names that lead to the directory of the file. -/
def way (s : FileStore) : List String := s.target.names.dropLast

/-- Making the directory makes directories on the way, whether it succeeds or not. -/
theorem grows_makeParent (s : FileStore) (fs : Files) :
    Files.Grows (fs.start s.target) s.way fs (s.makeParent fs).store := by
  rw [makeParent]
  split
  · exact .refl
  · next parent here =>
    obtain ⟨-, rfl⟩ := Files.Path.parent?_eq_some_iff.mp here
    have grows : Files.Grows (fs.start s.target) s.way fs
        (fs.makeAll (.ofNames s.target.absolute s.target.names.dropLast)).1 := by
      rw [Files.makeAll]
      split
      · exact .refl
      · have up := Files.grows_makeUp fs (fs.start s.target) s.way.reverse
        rwa [List.reverse_reverse] at up
    split
    · next made =>
      rw [made] at grows
      exact grows
    · next stuck =>
      rw [stuck] at grows
      exact grows

/-- If making what is missing leads to the directory, it is made. -/
theorem makeParent_of_leads {goal : Files.Place} (sound : s.target.fault? = none)
    (filled : s.target.names ≠ [])
    (leads : Files.Leads fs (fs.start s.target) s.way fs' goal) :
    s.makeParent fs = ⟨.ok (), fs', []⟩ := by
  have parent := Files.Path.parent?_eq_some_iff.mpr ⟨filled, rfl⟩
  have up := Files.makeUp_of_leads leads
  have makeAll : fs.makeAll (.ofNames s.target.absolute s.target.names.dropLast) =
      (fs', .ok ()) := by
    rw [Files.makeAll, Files.Path.fault?_parent parent sound]
    exact up
  rw [makeParent, parent]
  simp only [makeAll]

/-! ### The file beside -/

/-- The file beside has the same directories on the way and a longer last name. If the path of the
store does not end in a name, it means the last one of these directories. -/
theorem exists_names_temporary (s : FileStore) :
    ∃ front last, s.temporary.names = front ++ [last ++ ".tmp"] ∧
      s.temporary.absolute = s.target.absolute ∧ s.temporary.ending = .nothing ∧
      (s.target.names = front ++ [last] ∨ s.target.names = front ∧ s.target.ending ≠ .nothing) :=
  Files.Path.exists_names_append (by decide) (by decide) s.path

theorem start_temporary (absolute : s.temporary.absolute = s.target.absolute) :
    fs.start s.temporary = fs.start s.target := by
  rw [Files.start, Files.start, absolute]

/-- If the path of the store ends in a name, that of the file beside ends in a longer one. -/
theorem names_temporary (plain : s.target.ending = .nothing) :
    s.target.names = s.way ++ [s.target.last] ∧
      s.temporary.names = s.way ++ [s.target.last ++ ".tmp"] ∧
      s.temporary.absolute = s.target.absolute ∧ s.temporary.ending = .nothing := by
  obtain ⟨front, last, names, absolute, file, named | ⟨-, other⟩⟩ := s.exists_names_temporary
  · have way : s.way = front := by rw [way, named, List.dropLast_concat]
    have last' := Files.Path.last_of_names named
    rw [way, last']
    exact ⟨named, names, absolute, file⟩
  · exact absurd plain other

/-- If there is room for the path of the file beside, it can be written. -/
theorem fault?_temporary (plain : s.target.ending = .nothing) (sound : s.target.fault? = none)
    (size : s.target.size + 4 < Files.sizeLimit) : s.temporary.fault? = none := by
  obtain ⟨names, names', -⟩ := names_temporary plain
  obtain ⟨noNull, -⟩ := Files.Path.fault?_eq_none_iff.mp sound
  refine Files.Path.fault?_eq_none_iff.mpr ⟨fun name there => ?_, ?_⟩
  · rw [names'] at there
    rw [names] at noNull
    rcases List.mem_append.mp there with before | last
    · exact noNull name (List.mem_append_left _ before)
    · have null := noNull s.target.last (by simp)
      rw [List.mem_singleton.mp last, String.toList_append, List.mem_append]
      rintro (inside | suffix)
      · exact null inside
      · exact absurd suffix (by decide)
  · have longer : s.temporary.size = s.target.size + 4 := by
      show (s.path ++ ".tmp").utf8ByteSize = s.path.utf8ByteSize + 4
      rw [String.utf8ByteSize_append]
      rfl
    rw [longer]
    exact size

/-- The last name of the file beside is the name of a file. -/
theorem plain_temporary (last : String) : last ++ ".tmp" ≠ "." ∧ last ++ ".tmp" ≠ ".." := by
  have wide : 4 ≤ (last ++ ".tmp").toList.length := by
    rw [String.toList_append, List.length_append]
    exact Nat.le_add_left ..
  refine ⟨fun dot => ?_, fun dots => ?_⟩
  · rw [dot] at wide
    exact absurd wide (by decide)
  · rw [dots] at wide
    exact absurd wide (by decide)

/-- The place of the file beside is in the directory that the names on the way lead to. -/
theorem locate_temporary {front : List String} {last : String} {place : Files.Place}
    {e : Option Files.Entry} (names : s.temporary.names = front ++ [last ++ ".tmp"])
    (absolute : s.temporary.absolute = s.target.absolute)
    (found : fs.locate s.temporary = .ok (place, e)) :
    ∃ between, fs.walk (fs.start s.target) front = .ok between ∧
      place = between ++ [last ++ ".tmp"] := by
  obtain ⟨between, above, -, rfl, -⟩ := Files.locate_eq_ok_iff.mp found
  obtain ⟨-, -, reached⟩ := Files.above_eq_ok_iff.mp above
  rw [start_temporary absolute, names, List.dropLast_concat] at reached
  refine ⟨between, reached, ?_⟩
  rw [Files.Path.last_of_names names]
  exact Files.child_of_name between (plain_temporary last).1 (plain_temporary last).2

/-- A name never means what the longer one means. -/
theorem child_ne (above : Files.Place) (last : String) :
    Files.child above last ≠ above ++ [last ++ ".tmp"] := by
  rw [Files.child]
  intro same
  split at same
  · simpa using congrArg List.length same
  split at same
  · have lengths := congrArg List.length same
    rw [List.length_dropLast, List.length_append, List.length_singleton] at lengths
    omega
  · have lengths := congrArg (·.toList.length) (List.cons.inj (List.append_cancel_left same)).1
    simp at lengths

/-- **No file is at the same place as the file beside it.** -/
theorem ne_of_locate {place place' : Files.Place} {e e' : Option Files.Entry}
    (target : fs.locate s.target = .ok (place, e))
    (temporary : fs.locate s.temporary = .ok (place', e')) : place ≠ place' := by
  obtain ⟨front, last, names, absolute, -, names'⟩ := s.exists_names_temporary
  obtain ⟨between, reached, rfl⟩ := locate_temporary names absolute temporary
  obtain ⟨above, onward, -, rfl, -⟩ := Files.locate_eq_ok_iff.mp target
  obtain ⟨-, -, before⟩ := Files.above_eq_ok_iff.mp onward
  rcases names' with named | ⟨unnamed, -⟩
  · -- the two last names are different
    rw [named, List.dropLast_concat, reached] at before
    cases before
    rw [Files.Path.last_of_names named]
    exact child_ne between last
  · -- the path means the directory that the file beside is in
    rw [← unnamed] at reached
    rw [Files.child_last_of_walk reached before]
    intro same
    simpa using congrArg List.length same

/-- Moving the file beside into the place of the file leaves nothing where it was. -/
theorem moved_of_move (h : fs.move s.temporary s.target = .ok fs') :
    Files.Moved s.temporary s.target fs fs' := by
  obtain ⟨_, _, -, -, plain, -⟩ := s.exists_names_temporary
  exact Files.moved_of_move h plain fun _ _ _ _ source target => (ne_of_locate target source).symm

end FileStore

end Brokerage
