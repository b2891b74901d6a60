import Brokerage.Files.Basic
import Brokerage.Proofs.Lookup
import Mathlib.Data.List.Induction

/-!
# What operations on files do

Each operation by what it needs and what it comes to (`read_eq_ok_iff`, `write_eq_ok_iff`,
`move_eq_ok_iff`), so that proofs about stores never unfold it. All of them find their file by going
down through directories, and going down depends on the directories alone: as long as these are
kept, a way that could be gone can still be gone (`walk_of_keeps`). Writing a file and moving one
leave all directories as they are, so every path means the same place afterwards
(`SameDirectories.locate`).
-/

namespace Brokerage.Files

variable {fs fs' mid : Files} {place other goal between : Place} {entry : Entry} {name : String}
variable {names more : List String} {p source target : Path} {content : Bytes}

/-! ### Places -/

theorem at?_root (fs : Files) : fs.at? [] = some .directory := rfl

theorem ne_nil_of_at? (there : fs.at? place ≠ some .directory) : place ≠ [] := by
  rintro rfl
  exact there rfl

theorem ne_nil_of_missing (missing : fs.at? place = none) : place ≠ [] := by
  rintro rfl
  cases missing

theorem at?_erase (fs : Files) (inside : place ≠ []) (other : Place) :
    (fs.erase place).at? other = if other = place then none else fs.at? other := by
  rw [at?, at?]
  by_cases root : other = []
  · rw [if_pos root, if_pos root, if_neg (root ▸ inside.symm)]
  · rw [if_neg root, if_neg root]
    exact lookup_filter_ne place other fs.entries

theorem at?_put (fs : Files) (entry : Entry) (inside : place ≠ []) (other : Place) :
    (fs.put place entry).at? other = if other = place then some entry else fs.at? other := by
  have behind := at?_erase fs inside other
  rw [at?] at behind ⊢
  by_cases root : other = []
  · rw [if_pos root, if_neg (root ▸ inside.symm), root]
    rfl
  · rw [if_neg root] at behind ⊢
    show ((place, entry) :: (fs.erase place).entries).lookup other = _
    rw [lookup_cons]
    by_cases same : other = place
    · rw [if_pos same, if_pos same]
    · rw [if_neg same, if_neg same, behind, if_neg same]

theorem child_of_name (place : Place) (self : name ≠ ".") (up : name ≠ "..") :
    child place name = place ++ [name] := by
  rw [child, if_neg self, if_neg up]

/-! ### Going down -/

theorem step_eq_ok_iff :
    fs.step place name = .ok (goal, e) ↔
      name.utf8ByteSize ≤ longestName ∧ goal = child place name ∧ e = fs.at? goal := by
  rw [step]
  split
  · next long => simp [Nat.not_le.mpr long]
  · next short =>
    simp only [Except.ok.injEq, Prod.mk.injEq, Nat.not_lt.mp short, true_and]
    constructor
    · rintro ⟨rfl, rfl⟩
      exact ⟨rfl, rfl⟩
    · rintro ⟨rfl, rfl⟩
      exact ⟨rfl, rfl⟩

theorem walk_cons_eq_ok_iff :
    fs.walk place (name :: names) = .ok goal ↔
      name.utf8ByteSize ≤ longestName ∧ fs.at? (child place name) = some .directory ∧
        fs.walk (child place name) names = .ok goal := by
  rw [walk, step]
  by_cases long : longestName < name.utf8ByteSize
  · simp [long, Nat.not_le.mpr long]
  · have short := Nat.not_lt.mp long
    rw [if_neg long]
    generalize fs.at? (child place name) = entry
    match entry with
    | none => simp
    | some (.file content) => simp
    | some .directory => simp [short]

theorem walk_append_eq_ok_iff :
    fs.walk place (names ++ more) = .ok goal ↔
      ∃ between, fs.walk place names = .ok between ∧ fs.walk between more = .ok goal := by
  induction names generalizing place with
  | nil => simp [walk]
  | cons name names ih =>
    simp only [List.cons_append, walk_cons_eq_ok_iff, ih]
    grind

/-- Whoever goes down from a directory comes to a directory. -/
theorem isDirectory_of_walk (h : fs.walk place names = .ok goal)
    (from_ : fs.at? place = some .directory) : fs.at? goal = some .directory := by
  induction names generalizing place with
  | nil =>
    cases h
    exact from_
  | cons name names ih =>
    obtain ⟨-, there, rest⟩ := walk_cons_eq_ok_iff.mp h
    exact ih rest there

/-- All directories of one tree are directories of another one too. -/
def Keeps (fs fs' : Files) : Prop :=
  ∀ place, fs.at? place = some .directory → fs'.at? place = some .directory

/-- As long as directories are kept, the same way leads to the same place. -/
theorem walk_of_keeps (keeps : Keeps fs fs') (h : fs.walk place names = .ok goal) :
    fs'.walk place names = .ok goal := by
  induction names generalizing place with
  | nil => exact h
  | cons name names ih =>
    obtain ⟨short, there, rest⟩ := walk_cons_eq_ok_iff.mp h
    exact walk_cons_eq_ok_iff.mpr ⟨short, keeps _ there, ih rest⟩

/-- The last name of a path, or the directory itself if there is none. -/
def Path.last (p : Path) : String := p.names.getLast?.getD "."

theorem Path.last_of_names {last : String} (named : p.names = names ++ [last]) : p.last = last := by
  rw [Path.last, named, List.getLast?_concat]
  rfl

/-- The last name of a path means what all names together lead to. -/
theorem child_last_of_walk (reached : fs.walk place p.names = .ok goal)
    (before : fs.walk place p.names.dropLast = .ok between) : child between p.last = goal := by
  rw [Path.last]
  cases named : p.names using List.reverseRecOn with
  | nil =>
    rw [named] at reached before
    cases reached
    cases before
    rfl
  | append_singleton front name =>
    rw [named] at reached
    rw [named, List.dropLast_concat] at before
    obtain ⟨between', first, rest⟩ := walk_append_eq_ok_iff.mp reached
    rw [before] at first
    cases first
    obtain ⟨-, -, here⟩ := walk_cons_eq_ok_iff.mp rest
    cases here
    rw [List.getLast?_concat]
    rfl

/-- A path starts in the same place as long as the working directory is the same. -/
theorem start_of_current (same : fs'.current = fs.current) (p : Path) :
    fs'.start p = fs.start p := by
  rw [start, start, same]

theorem above_eq_ok_iff :
    fs.above p = .ok goal ↔
      p.fault? = none ∧ (p.names ≠ [] ∨ p.absolute = true) ∧
        fs.walk (fs.start p) p.names.dropLast = .ok goal := by
  rw [above]
  cases p.fault? with
  | some fault => simp
  | none =>
    cases names : p.names <;> cases p.absolute <;> simp

theorem locate_eq_ok_iff :
    fs.locate p = .ok (place, e) ↔
      ∃ between, fs.above p = .ok between ∧ p.last.utf8ByteSize ≤ longestName ∧
        place = child between p.last ∧ e = fs.at? place := by
  rw [locate]
  cases fs.above p with
  | error fault => simp
  | ok between => simp [step_eq_ok_iff, Path.last]

/-- What a path is found to mean is what is at its place. -/
theorem at?_of_locate {e : Option Entry} (found : fs.locate p = .ok (place, e)) :
    fs.at? place = e := by
  obtain ⟨between, -, -, -, there⟩ := locate_eq_ok_iff.mp found
  exact there.symm

/-! ### Operations -/

theorem read_eq_ok_iff :
    fs.read p = .ok content ↔
      (∃ place, fs.locate p = .ok (place, some (.file content))) ∧ p.ending = .nothing := by
  rw [read]
  split
  · next stuck => simp [stuck]
  · next found => simp [found]
  · next found => simp [found]
  · next found =>
    by_cases named : p.ending = .nothing <;> simp [found, Path.namesDirectory, named]

theorem write_eq_ok_iff :
    fs.write p content = .ok fs' ↔
      ∃ place e, fs.locate p = .ok (place, e) ∧ e ≠ some .directory ∧ p.ending = .nothing ∧
        fs' = fs.put place (.file content) := by
  rw [write]
  split
  · next stuck => simp [stuck]
  · next found => simp [found]
  · next place e other found =>
    have notDirectory : e ≠ some .directory := other
    simp only [found, Path.namesDirectory, Except.ok.injEq, Prod.mk.injEq]
    by_cases named : p.ending = .nothing
    · simp only [named, bne_self_eq_false, Bool.false_eq_true, if_false, Except.ok.injEq]
      constructor
      · rintro rfl
        exact ⟨place, e, ⟨rfl, rfl⟩, notDirectory, trivial, rfl⟩
      · rintro ⟨_, _, ⟨rfl, rfl⟩, -, -, rfl⟩
        rfl
    · simp [named]

theorem move_eq_ok_iff :
    fs.move source target = .ok fs' ↔
      ∃ place content goal e, fs.locate source = .ok (place, some (.file content)) ∧
        fs.locate target = .ok (goal, e) ∧ e ≠ some .directory ∧ target.endsInName = true ∧
        target.ending = .nothing ∧ fs' = (fs.erase place).put goal (.file content) := by
  have onward {goal : Place} {e : Option Entry} (found : fs.locate target = .ok (goal, e)) :
      ∃ between, fs.above target = .ok between := by
    obtain ⟨between, there, -⟩ := locate_eq_ok_iff.mp found
    exact ⟨between, there⟩
  rw [move]
  split
  · next stuck => simp [stuck]
  · next found stuck =>
    simp only [found, reduceCtorEq, false_iff]
    rintro ⟨_, _, goal, e, -, there, -⟩
    obtain ⟨between, above⟩ := onward there
    rw [stuck] at above
    cases above
  · next found above =>
    by_cases named : target.endsInName = true
    · rw [named]
      simp only [Bool.not_true, Bool.false_eq_true, if_false]
      split
      · next stuck => simp [found]
      · next stuck => simp [stuck]
      · next stuck => simp [found]
      · next goal there located =>
        by_cases plain : target.ending = .nothing
        · by_cases directory : there = some .directory
          · simp [found, located, Path.namesDirectory, plain, directory]
          · simp only [Path.namesDirectory, plain, bne_self_eq_false, Bool.false_eq_true, directory,
              if_false, Except.ok.injEq]
            constructor
            · rintro rfl
              exact ⟨_, _, goal, there, found, located, directory, trivial, trivial, rfl⟩
            · rintro ⟨_, _, _, _, found', located', -, -, -, rfl⟩
              rw [found] at found'
              rw [located] at located'
              cases found'
              cases located'
              rfl
        · simp [Path.namesDirectory, plain]
    · simp [named]

/-! ### Files that change -/

/-- The content of the file at a path, if there is one that can be read. -/
def content? (fs : Files) (p : Path) : Option Bytes := (fs.read p).toOption

theorem content?_eq_some_iff : fs.content? p = some content ↔ fs.read p = .ok content := by
  rw [content?]
  cases fs.read p <;> simp [Except.toOption]

/-- Two trees have the same directories, and the same one is the working directory. -/
structure SameDirectories (fs fs' : Files) : Prop where
  directory_iff : ∀ place, fs'.at? place = some .directory ↔ fs.at? place = some .directory
  current : fs'.current = fs.current

theorem SameDirectories.trans (h : SameDirectories fs mid) (h' : SameDirectories mid fs') :
    SameDirectories fs fs' :=
  ⟨fun place => (h'.directory_iff place).trans (h.directory_iff place), h'.current.trans h.current⟩

/-- A file takes the place of another one, or of nothing. -/
theorem sameDirectories_put (other : fs.at? place ≠ some .directory) (content : Bytes) :
    SameDirectories fs (fs.put place (.file content)) := by
  refine ⟨fun goal => ?_, rfl⟩
  rw [at?_put fs _ (ne_nil_of_at? other)]
  split
  · next here => simp [here, other]
  · exact Iff.rfl

theorem sameDirectories_erase (other : fs.at? place ≠ some .directory) :
    SameDirectories fs (fs.erase place) := by
  refine ⟨fun goal => ?_, rfl⟩
  rw [at?_erase fs (ne_nil_of_at? other)]
  split
  · next here => simp [here, other]
  · exact Iff.rfl

theorem SameDirectories.symm (h : SameDirectories fs fs') : SameDirectories fs' fs :=
  ⟨fun place => (h.directory_iff place).symm, h.current.symm⟩

theorem SameDirectories.walk (h : SameDirectories fs fs')
    (reached : fs.walk place names = .ok goal) : fs'.walk place names = .ok goal :=
  walk_of_keeps (fun place => (h.directory_iff place).mpr) reached

/-- Among the same directories, a path leads the same way. -/
theorem SameDirectories.above_iff (h : SameDirectories fs fs') :
    fs'.above p = .ok goal ↔ fs.above p = .ok goal := by
  have start := start_of_current h.current p
  rw [above_eq_ok_iff, above_eq_ok_iff, start]
  exact and_congr_right fun _ => and_congr_right fun _ => ⟨h.symm.walk, h.walk⟩

/-- It means the same place, with what is there now. -/
theorem SameDirectories.locate (h : SameDirectories fs fs') {e : Option Entry}
    (found : fs.locate p = .ok (place, e)) : fs'.locate p = .ok (place, fs'.at? place) := by
  obtain ⟨between, above, short, rfl, -⟩ := locate_eq_ok_iff.mp found
  exact locate_eq_ok_iff.mpr ⟨between, h.above_iff.mpr above, short, rfl, rfl⟩

/-- If what is at the place of a path is the same, so is its content. -/
theorem SameDirectories.content? (h : SameDirectories fs fs')
    (same : ∀ place e, fs.locate p = .ok (place, e) → fs'.at? place = fs.at? place) :
    fs'.content? p = fs.content? p := by
  refine Option.ext fun content => ?_
  rw [content?_eq_some_iff, content?_eq_some_iff, read_eq_ok_iff, read_eq_ok_iff]
  refine and_congr_left fun _ => exists_congr fun place => ?_
  constructor
  · intro found
    have back := h.symm.locate found
    rwa [← same place _ back, at?_of_locate found] at back
  · intro found
    have on := h.locate found
    rwa [same place _ found, at?_of_locate found] at on

/-- What comes of writing a file. -/
structure Written (p : Path) (content : Bytes) (fs fs' : Files) : Prop where
  same : SameDirectories fs fs'
  content : fs'.content? p = some content
  /-- Nothing has changed but what is at the place of the path. -/
  only : ∀ other, fs'.at? other ≠ fs.at? other → ∃ e, fs.locate p = .ok (other, e)

theorem written_of_write (h : fs.write p content = .ok fs') : Written p content fs fs' := by
  obtain ⟨place, e, found, other, plain, rfl⟩ := write_eq_ok_iff.mp h
  rw [← at?_of_locate found] at other
  have same := sameDirectories_put other content
  have there := at?_put fs (.file content) (ne_nil_of_at? other)
  refine ⟨same, ?_, fun goal changed => ?_⟩
  · rw [content?_eq_some_iff, read_eq_ok_iff]
    refine ⟨⟨place, ?_⟩, plain⟩
    rw [same.locate found, there, if_pos rfl]
  · by_cases here : goal = place
    · exact ⟨e, here ▸ found⟩
    · rw [there, if_neg here] at changed
      exact absurd rfl changed

/-- What comes of moving a file onto another one. -/
structure Moved (source target : Path) (fs fs' : Files) : Prop where
  same : SameDirectories fs fs'
  content : fs'.content? target = fs.content? source
  gone : ∃ place, fs'.locate source = .ok (place, none)
  /-- Nothing has changed but what is at the places of the two paths. -/
  only : ∀ other, fs'.at? other ≠ fs.at? other →
    (∃ e, fs.locate source = .ok (other, e)) ∨ ∃ e, fs.locate target = .ok (other, e)

theorem moved_of_move (h : fs.move source target = .ok fs') (plain : source.ending = .nothing)
    (apart : ∀ place goal e e', fs.locate source = .ok (place, e) →
      fs.locate target = .ok (goal, e') → place ≠ goal) : Moved source target fs fs' := by
  obtain ⟨place, content, goal, e, found, found', other, -, plain', rfl⟩ := move_eq_ok_iff.mp h
  have ne := apart _ _ _ _ found found'
  have file := at?_of_locate found
  rw [← at?_of_locate found'] at other
  have noDirectory : fs.at? place ≠ some .directory := by
    rw [file]
    nofun
  have erases := at?_erase fs (ne_nil_of_at? noDirectory)
  have other' : (fs.erase place).at? goal ≠ some .directory := by
    rwa [erases, if_neg ne.symm]
  have puts := at?_put (fs.erase place) (.file content) (ne_nil_of_at? other')
  have same := (sameDirectories_erase noDirectory).trans (sameDirectories_put other' content)
  refine ⟨same, ?_, ⟨place, ?_⟩, fun there changed => ?_⟩
  · have before := content?_eq_some_iff.mpr (read_eq_ok_iff.mpr ⟨⟨place, found⟩, plain⟩)
    rw [before, content?_eq_some_iff, read_eq_ok_iff]
    refine ⟨⟨goal, ?_⟩, plain'⟩
    rw [same.locate found', puts, if_pos rfl]
  · rw [same.locate found, puts, if_neg ne, erases, if_pos rfl]
  · by_cases atGoal : there = goal
    · exact .inr ⟨e, atGoal ▸ found'⟩
    by_cases atPlace : there = place
    · exact .inl ⟨_, atPlace ▸ found⟩
    rw [puts, if_neg atGoal, erases, if_neg atPlace] at changed
    exact absurd rfl changed

end Brokerage.Files
