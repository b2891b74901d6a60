import Brokerage.Proofs.Store.File

/-!
# What a store depends on and what it touches

A store whose path names a file, in a directory that is there or can be made (`Housed`), looks at
two places only. Reading depends on what is at the place of the file (`Housed.load`), and whether a
change succeeds depends, besides, on whether a directory is at the place of the file beside
(`FileStore.obstacle?`). Whether the directory of the two is there already makes no difference, as
long as the path does not step back over one that is missing: what is missing counts as an empty
table.

What a change touches are the same two places, and directories that were missing on the way down to
them (`Housed.updated`). It puts no file in the place of a directory and no directory in the place
of a file.
-/

namespace Brokerage

namespace Files

variable {fs fs' made : Files} {place goal other : Place} {names : List String} {p : Path}

/-! ### Ways down to a directory -/

/-- Where a way down leads to a directory in one tree, it does in every tree that has the
directory. -/
theorem walk_of_isDirectory (tree : IsTree fs') (down : ".." ∉ names)
    (h : fs.walk place names = .ok goal) (there : fs'.at? goal = some .directory) :
    fs'.walk place names = .ok goal := by
  induction names generalizing place with
  | nil => exact h
  | cons name names ih =>
    obtain ⟨short, -, rest⟩ := walk_cons_eq_ok_iff.mp h
    have down' : ".." ∉ names := fun inside => down (List.mem_cons_of_mem name inside)
    have above : child place name <+: goal := prefix_of_walk down' rest
    exact walk_cons_eq_ok_iff.mpr
      ⟨short, tree.isDirectory_of_prefix there above, ih down' rest⟩

/-- If a way can be gone where more is there, it could be gone before, or there is a first directory
on it that was missing. -/
theorem walk_or_missing (kept : ∀ other e, fs.at? other = some e → fs'.at? other = some e)
    (h : fs'.walk place names = .ok goal) :
    fs.walk place names = .ok goal ∨
      ∃ front name back between, names = front ++ name :: back ∧
        fs.walk place front = .ok between ∧ name.utf8ByteSize ≤ longestName ∧
        fs.at? (child between name) = none ∧ fs'.walk (child between name) back = .ok goal := by
  have keeps : Keeps fs fs' := fun other directory => kept other .directory directory
  rcases fs.walk_cases place names with
    ⟨other, first⟩ | ⟨front, name, back, between, rfl, first, stuck⟩
  · have again := walk_of_keeps keeps first
    rw [h] at again
    cases again
    exact .inl first
  · obtain ⟨between', again, rest⟩ := walk_append_eq_ok_iff.mp h
    rw [walk_of_keeps keeps first] at again
    cases again
    obtain ⟨short, directory, onward⟩ := walk_cons_eq_ok_iff.mp rest
    refine .inr ⟨front, name, back, between, rfl, first, short, ?_, onward⟩
    cases entry : fs.at? (child between name) with
    | none => rfl
    | some e =>
      have same := kept _ e entry
      rw [directory] at same
      cases same
      exact absurd entry (stuck.resolve_left (Nat.not_lt.mpr short))

/-- What is in a directory is not on the way down to it. -/
theorem not_prefix_of_inside (goal : Place) (name : String) : ¬ goal ++ [name] <+: goal := by
  intro before
  have lengths := before.length_le
  rw [List.length_append, List.length_singleton] at lengths
  omega

/-- Directories on the way down to `goal` were made, so that it is there, and nothing else has
changed. -/
structure Opened (goal : Place) (fs fs' : Files) : Prop where
  tree : IsTree fs'
  current : fs'.current = fs.current
  there : fs'.at? goal = some .directory
  keeps : Keeps fs fs'
  only : ∀ place, ¬ place <+: goal → fs'.at? place = fs.at? place

theorem Opened.inside (opened : Opened goal fs fs') (name : String) :
    fs'.at? (goal ++ [name]) = fs.at? (goal ++ [name]) :=
  opened.only _ (not_prefix_of_inside goal name)

/-- What is made on a straight way is on the way down to where it leads. -/
theorem IsStraight.opened (tree : IsTree fs) (straight : IsStraight fs p)
    (grows : Grows (fs.start p) p.names.dropLast fs fs')
    (reached : fs'.walk (fs.start p) p.names.dropLast = .ok goal) : Opened goal fs fs' := by
  have grown := grows.grown
  have start := tree.start p
  refine ⟨tree.of_grows start grows, grown.current,
    isDirectory_of_walk reached (grown.keeps _ start), grown.keeps, fun place outside => ?_⟩
  by_contra changed
  obtain ⟨absent, -, front, ⟨back, names⟩, here⟩ := grown.made place changed
  -- the place is that of the first directory that was missing, or below it
  rcases walk_or_missing grown.kept here with
    first | ⟨before, name, after, between, rfl, first, short, missing, -⟩
  · rw [isDirectory_of_walk first start] at absent
    cases absent
  · have down : ".." ∉ after ++ back :=
      straight before name (after ++ back) between (by simp [← names]) first short missing
    rw [← names] at reached
    obtain ⟨place', again, onward⟩ := walk_append_eq_ok_iff.mp reached
    rw [here] at again
    cases again
    exact outside (prefix_of_walk (fun up => down (List.mem_append_right after up)) onward)

/-- A straight way that could be gone when directories were made can be gone wherever these are
there. -/
theorem IsStraight.walk_of_isDirectory (straight : IsStraight fs p)
    (leads : Leads fs (fs.start p) p.names.dropLast made goal) (tree : IsTree fs')
    (keeps : Keeps fs fs') (there : fs'.at? goal = some .directory) :
    fs'.walk (fs.start p) p.names.dropLast = .ok goal := by
  rcases walk_or_missing (fun _ _ => leads.kept) leads.walk with
    first | ⟨front, name, back, between, names, first, short, missing, onward⟩
  · exact walk_of_keeps keeps first
  · have down : ".." ∉ back := straight front name back between names first short missing
    have above : child between name <+: goal := prefix_of_walk down onward
    rw [names]
    refine walk_append_eq_ok_iff.mpr ⟨between, walk_of_keeps keeps first, ?_⟩
    exact walk_cons_eq_ok_iff.mpr ⟨short, tree.isDirectory_of_prefix there above,
      Files.walk_of_isDirectory tree down onward there⟩

end Files

namespace FileStore

variable {s r : FileStore} {goal : Files.Place} {fs fs' made : Files}
variable {change : Table → Table} {t : Table}

/-! ### Where a store has its file -/

/-- The path of a store names a file in a directory that is there or can be made, and does not step
back over one that is missing. -/
structure Housed (s : FileStore) (goal : Files.Place) (fs : Files) : Prop where
  named : s.target.endsInName = true ∧ s.target.ending = .nothing
  sound : s.target.fault? = none
  short : s.target.last.utf8ByteSize ≤ Files.longestName
  straight : fs.IsStraight s.target
  leads : ∃ made, Files.Leads fs (fs.start s.target) s.way made goal

/-- The place of the file. -/
def fileAt (s : FileStore) (goal : Files.Place) : Files.Place := goal ++ [s.target.last]

/-- The place of the file beside. -/
def besideAt (s : FileStore) (goal : Files.Place) : Files.Place := goal ++ [s.target.last ++ ".tmp"]

theorem Housed.plain (housed : Housed s goal fs) : s.target.last ≠ "." ∧ s.target.last ≠ ".." := by
  obtain ⟨ends, plain⟩ := housed.named
  obtain ⟨names, -⟩ := names_temporary plain
  rw [Files.Path.endsInName, names, List.getLast?_concat] at ends
  simpa using ((Bool.and_eq_true _ _).mp ends).2

/-- When the directory is there, the way leads to it. -/
theorem Housed.walk (housed : Housed s goal fs) (tree : Files.IsTree fs')
    (keeps : Files.Keeps fs fs') (current : fs'.current = fs.current)
    (there : fs'.at? goal = some .directory) : fs'.walk (fs'.start s.target) s.way = .ok goal := by
  obtain ⟨made, leads⟩ := housed.leads
  rw [Files.start_of_current current]
  exact housed.straight.walk_of_isDirectory leads tree keeps there

/-- A store goes on to have its file where it has it when directories are kept and its own one is
there. -/
theorem Housed.mono (housed : Housed s goal fs) (tree : Files.IsTree fs')
    (keeps : Files.Keeps fs fs') (current : fs'.current = fs.current)
    (there : fs'.at? goal = some .directory) : Housed s goal fs' := by
  have reached := housed.walk tree keeps current there
  exact ⟨housed.named, housed.sound, housed.short, .of_walk reached, fs', .of_walk reached⟩

/-! ### What is read -/

/-- The table that a store reads if this is at the place of its file. -/
def tableOf (s : FileStore) : Option Files.Entry → Except Error Table
  | none => .ok .empty
  | some .directory => .error (s.error .isDirectory)
  | some (.file content) =>
    match Text.decode? content with
    | none => .error (s.error .notText)
    | some _ => .ok ((Table.ofBytes content).toOption.getD .empty)

/-- **Reading depends on what is at the place of the file.** -/
theorem Housed.load (housed : Housed s goal fs) (tree : fs.IsTree) :
    ∃ events, s.load fs = ⟨s.tableOf (fs.at? (s.fileAt goal)), fs, events⟩ := by
  obtain ⟨names, -⟩ := names_temporary housed.named.2
  obtain ⟨made, leads⟩ := housed.leads
  rcases leads.cases with ⟨reached, -⟩ | missing
  · have found := (Files.Leads.of_walk reached).locate housed.sound names housed.plain housed.short
    have plain : s.target.namesDirectory = false := by
      rw [Files.Path.namesDirectory, housed.named.2]
      rfl
    rw [FileStore.load, Files.read, found, plain]
    show ∃ events, _ = Outcome.mk (s.tableOf (fs.at? (goal ++ [s.target.last]))) fs events
    cases fs.at? (goal ++ [s.target.last]) with
    | none => exact ⟨[], rfl⟩
    | some entry =>
      cases entry with
      | directory => exact ⟨[], rfl⟩
      | file content =>
        rw [tableOf]
        simp only [Bool.false_eq_true, if_false]
        cases Text.decode? content with
        | none => exact ⟨[], rfl⟩
        | some text =>
          cases Table.ofBytes content with
          | error fault => exact ⟨[s.discarded], rfl⟩
          | ok table => exact ⟨[], rfl⟩
  · -- where the directory is missing, so is the file
    have absent : fs.at? (s.fileAt goal) = none := by
      cases entry : fs.at? (s.fileAt goal) with
      | none => rfl
      | some e =>
        have there := tree.parent _ _ entry
        rw [fileAt, List.dropLast_concat] at there
        have reached := housed.walk tree (fun _ => id) rfl there
        rw [missing] at reached
        cases reached
    have above : fs.above s.target = .error .missing := by
      rw [Files.above, housed.sound]
      simpa [names] using missing
    rw [absent, load_of_missing (by rw [Files.read, Files.locate, above])]
    exact ⟨[], rfl⟩

/-! ### What is written -/

/-- What keeps a store from writing the file beside if this is at its place. -/
def obstacle? (s : FileStore) (e : Option Files.Entry) : Option Files.Fault :=
  match s.temporary.fault? with
  | some fault => some fault
  | none =>
    if Files.longestName < (s.target.last ++ ".tmp").utf8ByteSize then some .tooLong
    else if e = some .directory then some .isDirectory else none

/-- Whether the file beside can be written depends on whether a directory is at its place. -/
theorem obstacle?_congr {e e' : Option Files.Entry}
    (same : e = some .directory ↔ e' = some .directory) : s.obstacle? e = s.obstacle? e' := by
  rw [obstacle?, obstacle?]
  simp only [same]

/-- The file beside is written where its place is, unless something keeps the store from it. -/
theorem Housed.write (housed : Housed s goal fs)
    (reached : fs.walk (fs.start s.target) s.way = .ok goal) (content : Bytes) :
    fs.write s.temporary content =
      match s.obstacle? (fs.at? (s.besideAt goal)) with
      | some fault => .error fault
      | none => .ok (fs.put (s.besideAt goal) (.file content)) := by
  obtain ⟨-, names, absolute, file⟩ := names_temporary housed.named.2
  have plain : s.temporary.namesDirectory = false := by
    rw [Files.Path.namesDirectory, file]
    rfl
  have start : fs.start s.temporary = fs.start s.target := start_temporary absolute
  have place := Files.child_of_name goal (plain_temporary s.target.last).1
    (plain_temporary s.target.last).2
  rw [Files.write, Files.locate, Files.above, obstacle?, start, names, List.dropLast_concat,
    List.getLast?_concat, reached, besideAt, plain]
  cases s.temporary.fault? with
  | some fault => rfl
  | none =>
    have some_names : (s.way ++ [s.target.last ++ ".tmp"]).isEmpty = false := by
      simp
    simp only [some_names, Bool.false_and, Bool.false_eq_true, if_false, Option.getD_some,
      Files.step, place]
    by_cases long : Files.longestName < (s.target.last ++ ".tmp").utf8ByteSize
    · simp only [if_pos long]
    · simp only [if_neg long]
      by_cases directory : fs.at? (goal ++ [s.target.last ++ ".tmp"]) = some .directory
      · simp only [directory, if_true]
      · simp only [if_neg directory]

/-! ### What a change touches -/

/-- The file has got its content, and there is nothing beside it. -/
structure Edited (s : FileStore) (goal : Files.Place) (content : Bytes) (fs fs' : Files) :
    Prop where
  current : fs'.current = fs.current
  at?_eq : ∀ place, fs'.at? place =
    if place = s.fileAt goal then some (.file content)
    else if place = s.besideAt goal then none else fs.at? place

/-- What a change comes to, by what is read and by what keeps the store from writing. -/
inductive Updated (s : FileStore) (goal : Files.Place) (change : Table → Table) (fs : Files) :
    Except Error Table → Option Files.Fault → Outcome Files Unit → Prop where
  /-- The file cannot be read, and nothing changes. -/
  | unread {e : Error} {obstacle? : Option Files.Fault} {events : List Log.Event} :
      Updated s goal change fs (.error e) obstacle? ⟨.error e, fs, events⟩
  /-- The directory is there, but the file beside cannot be written. -/
  | stuck {t : Table} {fault : Files.Fault} {made : Files} {events : List Log.Event}
      (opened : Files.Opened goal fs made) :
      Updated s goal change fs (.ok t) (some fault) ⟨.error (s.error fault), made, events⟩
  | edited {t : Table} {made fs' : Files} {events : List Log.Event}
      (opened : Files.Opened goal fs made) (edited : Edited s goal (change t).write made fs') :
      Updated s goal change fs (.ok t) none ⟨.ok (), fs', events⟩

theorem not_directory_of_free {e : Option Files.Entry} (free : s.obstacle? e = none) :
    s.temporary.fault? = none ∧
      (s.target.last ++ ".tmp").utf8ByteSize ≤ Files.longestName ∧ e ≠ some .directory := by
  rw [obstacle?] at free
  split at free
  · cases free
  · next sound =>
    split at free
    · cases free
    · next short =>
      split at free
      · cases free
      · next other => exact ⟨sound, Nat.not_lt.mp short, other⟩

/-- A file that can be read, or one that is missing, is no directory. -/
theorem not_directory_of_tableOf {e : Option Files.Entry} (read : s.tableOf e = .ok t) :
    e ≠ some .directory := by
  rintro rfl
  cases read

theorem fileAt_ne_besideAt (s : FileStore) (goal : Files.Place) :
    s.fileAt goal ≠ s.besideAt goal := by
  intro same
  have lengths := congrArg (·.toList.length) (List.cons.inj (List.append_cancel_left same)).1
  simp at lengths

/-- When the directory is there and nothing keeps the store from it, the file is replaced. -/
theorem Housed.replaced (housed : Housed s goal fs)
    (reached : fs.walk (fs.start s.target) s.way = .ok goal)
    (noTarget : fs.at? (s.fileAt goal) ≠ some .directory)
    (free : s.obstacle? (fs.at? (s.besideAt goal)) = none) (content : Bytes) :
    ∃ between fs', fs.write s.temporary content = .ok between ∧
      between.move s.temporary s.target = .ok fs' ∧ Edited s goal content fs fs' := by
  obtain ⟨names, names', absolute, file⟩ := names_temporary housed.named.2
  obtain ⟨sound, short, noDirectory⟩ := not_directory_of_free free
  have apart := fileAt_ne_besideAt s goal
  have write := housed.write reached content
  rw [free] at write
  -- the file beside is there now, and all directories are as they were
  let between := fs.put (s.besideAt goal) (.file content)
  have put (place : Files.Place) : between.at? place =
      if place = s.besideAt goal then some (.file content) else fs.at? place :=
    Files.at?_put fs _ (Files.ne_nil_of_at? noDirectory) place
  have same : Files.SameDirectories fs between := Files.sameDirectories_put noDirectory content
  have leads : Files.Leads between (between.start s.target) s.way between goal := by
    rw [Files.start_of_current same.current]
    exact .of_walk (same.walk reached)
  have source : between.locate s.temporary = .ok (s.besideAt goal, some (.file content)) := by
    have there : between.at? (s.besideAt goal) = some (.file content) := by
      rw [put, if_pos rfl]
    rw [← start_temporary absolute] at leads
    rw [leads.locate sound names' (plain_temporary _) short]
    exact congrArg (fun e => Except.ok (s.besideAt goal, e)) there
  have target : between.locate s.target = .ok (s.fileAt goal, fs.at? (s.fileAt goal)) := by
    have there : between.at? (s.fileAt goal) = fs.at? (s.fileAt goal) := by
      rw [put, if_neg apart]
    rw [leads.locate housed.sound names housed.plain housed.short]
    exact congrArg (fun e => Except.ok (s.fileAt goal, e)) there
  have move := Files.move_eq_ok_iff.mpr
    ⟨_, _, _, _, source, target, noTarget, housed.named.1, housed.named.2, rfl⟩
  refine ⟨between, _, write, move, rfl, fun place => ?_⟩
  have outside : s.fileAt goal ≠ [] := Files.ne_nil_of_at? noTarget
  have outside' : s.besideAt goal ≠ [] := Files.ne_nil_of_at? noDirectory
  rw [Files.at?_put _ _ outside, Files.at?_erase _ outside', put]
  by_cases atFile : place = s.fileAt goal
  · rw [if_pos atFile, if_pos atFile]
  · rw [if_neg atFile, if_neg atFile]
    by_cases atBeside : place = s.besideAt goal
    · rw [if_pos atBeside, if_pos atBeside]
    · rw [if_neg atBeside, if_neg atBeside, if_neg atBeside]

section Saving

variable {events : List Log.Event} {between : Files} {fault : Files.Fault}

/-- A change that cannot write the file beside ends there. -/
theorem update_of_write_error (load : s.load fs = ⟨.ok t, fs, events⟩)
    (makes : s.makeParent fs = ⟨.ok (), made, []⟩)
    (write : made.write s.temporary (change t).write = .error fault) :
    s.update change fs = ⟨.error (s.error fault), made, events ++ []⟩ := by
  have stuck : s.writeTemporary (change t).write made = ⟨.error (s.error fault), made, []⟩ := by
    rw [writeTemporary, write]
  have saves : s.save (change t) fs = ⟨.error (s.error fault), made, []⟩ := by
    show (s.makeParent >>= fun _ => s.writeTemporary (change t).write >>= fun _ => s.replace) fs = _
    rw [Task.bind_of_ok _ makes, Task.bind_of_error _ stuck]
    rfl
  show (s.load >>= fun t => s.save (change t)) fs = _
  rw [Task.bind_of_ok _ load, saves]

/-- One that can write it and move it succeeds. -/
theorem update_of_move (load : s.load fs = ⟨.ok t, fs, events⟩)
    (makes : s.makeParent fs = ⟨.ok (), made, []⟩)
    (write : made.write s.temporary (change t).write = .ok between)
    (move : between.move s.temporary s.target = .ok fs') :
    s.update change fs = ⟨.ok (), fs', events ++ []⟩ := by
  have writes : s.writeTemporary (change t).write made = ⟨.ok (), between, []⟩ := by
    rw [writeTemporary, write]
  have replaces : s.replace between = ⟨.ok (), fs', []⟩ := by
    rw [replace, move]
  have saves : s.save (change t) fs = ⟨.ok (), fs', []⟩ := by
    show (s.makeParent >>= fun _ => s.writeTemporary (change t).write >>= fun _ => s.replace) fs = _
    rw [Task.bind_of_ok _ makes, Task.bind_of_ok _ writes, replaces]
    rfl
  show (s.load >>= fun t => s.save (change t)) fs = _
  rw [Task.bind_of_ok _ load, saves]

end Saving

/-- **What a change comes to depends on what is at the two places.** -/
theorem Housed.updated (housed : Housed s goal fs) (tree : fs.IsTree) (change : Table → Table) :
    Updated s goal change fs (s.tableOf (fs.at? (s.fileAt goal)))
      (s.obstacle? (fs.at? (s.besideAt goal))) (s.update change fs) := by
  obtain ⟨events, load⟩ := housed.load tree
  cases read : s.tableOf (fs.at? (s.fileAt goal)) with
  | error e =>
    rw [read] at load
    have fails : s.update change fs = ⟨.error e, fs, events⟩ := Task.bind_of_error _ load
    rw [fails]
    exact .unread
  | ok t =>
    rw [read] at load
    obtain ⟨made, leads⟩ := housed.leads
    obtain ⟨names, -⟩ := names_temporary housed.named.2
    have makes := makeParent_of_leads housed.sound (by simp [names]) leads
    have grows := s.grows_makeParent fs
    rw [makes] at grows
    -- the directory is there now, and all is as it was at the two places in it
    have opened : Files.Opened goal fs made := housed.straight.opened tree grows leads.walk
    have housed' := housed.mono opened.tree opened.keeps opened.current opened.there
    have reached : made.walk (made.start s.target) s.way = .ok goal :=
      housed'.walk opened.tree (fun _ => id) rfl opened.there
    have beside : made.at? (s.besideAt goal) = fs.at? (s.besideAt goal) := opened.inside _
    cases obstacle : s.obstacle? (fs.at? (s.besideAt goal)) with
    | some fault =>
      have write := housed'.write reached (change t).write
      rw [beside, obstacle] at write
      rw [update_of_write_error load makes write]
      exact .stuck opened
    | none =>
      have file : made.at? (s.fileAt goal) = fs.at? (s.fileAt goal) := opened.inside _
      obtain ⟨between, fs', write, move, edited⟩ := housed'.replaced reached
        (file ▸ not_directory_of_tableOf read) (beside ▸ obstacle) (change t).write
      rw [update_of_move load makes write move]
      exact .edited opened edited

end FileStore

end Brokerage
