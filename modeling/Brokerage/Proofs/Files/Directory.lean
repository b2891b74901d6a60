import Brokerage.Proofs.Files.Operation
import Mathlib.Logic.Relation

/-!
# Making directories

A directory is made together with those on the way to it. `Grows` says what comes of this, whether
it succeeds or not: only directories that were missing on the way appear, one after the other
(`grows_makeUp`). If going down from the top and making what is missing leads to a place
(`Leads`), it succeeds and leads there, although it starts from the bottom (`makeUp_of_leads`).

In a tree (`IsTree`), nothing can be found below a directory that is missing. So while directories
are made, a path goes on to mean the same file, unless it steps back over a directory that is
missing (`content?_of_grows`).
-/

namespace Brokerage.Files

variable {fs fs' mid : Files} {place other goal between : Place} {entry : Entry} {name : String}
variable {names more : List String} {p : Path}

/-! ### Making directories -/

theorem makeOne_eq_ok_iff :
    fs.makeOne place names name = .ok fs' ↔
      ∃ between, fs.walk place names = .ok between ∧ name.utf8ByteSize ≤ longestName ∧
        fs.at? (child between name) = none ∧ fs' = fs.put (child between name) .directory := by
  rw [makeOne]
  split
  · next stuck => simp [stuck]
  · next between reached =>
    simp only [reached, Except.ok.injEq, exists_eq_left', step]
    by_cases long : longestName < name.utf8ByteSize
    · simp [long, Nat.not_le.mpr long]
    · rw [if_neg long]
      cases fs.at? (child between name) with
      | some entry => simp
      | none => simp [Nat.not_lt.mp long, eq_comm]

/-- A directory appears that was missing on the way along names. -/
def MakesOne (place : Place) (names : List String) (fs fs' : Files) : Prop :=
  ∃ front name back between, names = front ++ name :: back ∧ fs.walk place front = .ok between ∧
    name.utf8ByteSize ≤ longestName ∧ fs.at? (child between name) = none ∧
    fs' = fs.put (child between name) .directory

/-- Directories appear that were missing on the way along names, one after the other. -/
def Grows (place : Place) (names : List String) : Files → Files → Prop :=
  Relation.ReflTransGen (MakesOne place names)

/-- What is on the way along names is on every way that goes on. -/
theorem Grows.along (h : Grows place names fs fs') (more : List String) :
    Grows place (names ++ more) fs fs' := by
  refine Relation.ReflTransGen.mono ?_ _ _ h
  rintro fs fs' ⟨front, name, back, between, rfl, makes⟩
  exact ⟨front, name, back ++ more, between, by simp, makes⟩

theorem grows_of_makeUnlessThere (h : fs.makeUnlessThere place names name = .ok fs') :
    Grows place (names ++ [name]) fs fs' := by
  rw [makeUnlessThere] at h
  split at h
  · next made =>
    cases h
    exact .single ⟨names, name, [], by simpa using makeOne_eq_ok_iff.mp made⟩
  · split at h
    · cases h
      exact .refl
    · cases h
  · cases h

/-- Whether a directory can be made or not, directories appear on the way to it and nothing else
changes. -/
theorem grows_makeUp (fs : Files) (place : Place) (above : List String) :
    Grows place above.reverse fs (fs.makeUp place above).1 := by
  induction above generalizing fs with
  | nil => exact .refl
  | cons name above ih =>
    rw [makeUp, List.reverse_cons]
    split
    · next made => exact grows_of_makeUnlessThere made
    · have before := (ih fs).along [name]
      split
      · next grown =>
        rw [grown] at before
        exact before
      · next grown =>
        rw [grown] at before
        split
        · next made => exact before.trans (grows_of_makeUnlessThere made)
        · exact before
    · exact .refl

/-- What comes of making directories on the way along names. -/
structure Grown (place : Place) (names : List String) (fs fs' : Files) : Prop where
  /-- What was there is still there. -/
  kept : ∀ other e, fs.at? other = some e → fs'.at? other = some e
  /-- What was not there is still not there, or it is a directory on the way. -/
  made : ∀ other, fs'.at? other ≠ fs.at? other → fs.at? other = none ∧
    fs'.at? other = some .directory ∧ ∃ front, front <+: names ∧ fs'.walk place front = .ok other
  current : fs'.current = fs.current

theorem Grown.keeps (h : Grown place names fs fs') : Keeps fs fs' :=
  fun other there => h.kept other .directory there

theorem MakesOne.grown (h : MakesOne place names fs fs') : Grown place names fs fs' := by
  obtain ⟨front, name, back, between, rfl, reached, short, missing, rfl⟩ := h
  have inside : child between name ≠ [] := ne_nil_of_missing missing
  have same := at?_put fs .directory inside
  have kept (other : Place) (e : Entry) (there : fs.at? other = some e) :
      (fs.put (child between name) .directory).at? other = some e := by
    rw [same, if_neg (by rintro rfl; rw [missing] at there; cases there), there]
  refine ⟨kept, fun other changed => ?_, rfl⟩
  by_cases here : other = child between name
  · subst here
    have there : (fs.put (child between name) .directory).at? (child between name) =
        some .directory := by
      rw [same, if_pos rfl]
    refine ⟨missing, there, front ++ [name], by simp, walk_append_eq_ok_iff.mpr ⟨between, ?_, ?_⟩⟩
    · exact walk_of_keeps (fun place directory => kept place _ directory) reached
    · exact walk_cons_eq_ok_iff.mpr ⟨short, there, rfl⟩
  · rw [same, if_neg here] at changed
    exact absurd rfl changed

theorem Grows.grown (h : Grows place names fs fs') : Grown place names fs fs' := by
  induction h with
  | refl => exact ⟨fun _ _ => id, fun _ changed => absurd rfl changed, rfl⟩
  | @tail mid fs' _ next ih =>
    have step := next.grown
    refine ⟨fun other e there => step.kept other e (ih.kept other e there), fun other changed => ?_,
      step.current.trans ih.current⟩
    by_cases early : mid.at? other = fs.at? other
    · obtain ⟨missing, there, onTheWay⟩ := step.made other (early ▸ changed)
      exact ⟨early ▸ missing, there, onTheWay⟩
    · obtain ⟨missing, there, front, prefix_, reached⟩ := ih.made other early
      exact ⟨missing, step.kept other _ there, front, prefix_, walk_of_keeps step.keeps reached⟩

/-! ### Ways that can be made -/

/-- Going down from a place along names, and making the directories that are missing, leads to a
place in another tree. -/
inductive Leads : Files → Place → List String → Files → Place → Prop where
  | here {fs : Files} {place : Place} : Leads fs place [] fs place
  | there {fs fs' : Files} {place goal : Place} {name : String} {names : List String}
      (short : name.utf8ByteSize ≤ longestName)
      (directory : fs.at? (child place name) = some .directory)
      (rest : Leads fs (child place name) names fs' goal) : Leads fs place (name :: names) fs' goal
  | made {fs fs' : Files} {place goal : Place} {name : String} {names : List String}
      (short : name.utf8ByteSize ≤ longestName) (missing : fs.at? (child place name) = none)
      (rest : Leads (fs.put (child place name) .directory) (child place name) names fs' goal) :
      Leads fs place (name :: names) fs' goal

/-- What can be gone as it is leads there, and nothing has to be made. -/
theorem Leads.of_walk (h : fs.walk place names = .ok goal) : Leads fs place names fs goal := by
  induction names generalizing place with
  | nil =>
    cases h
    exact .here
  | cons name names ih =>
    obtain ⟨short, directory, rest⟩ := walk_cons_eq_ok_iff.mp h
    exact .there short directory (ih rest)

/-- What is there stays there. -/
theorem Leads.kept (h : Leads fs place names fs' goal) (there : fs.at? other = some entry) :
    fs'.at? other = some entry := by
  induction h with
  | here => exact there
  | there _ _ _ ih => exact ih there
  | @made fs fs' place goal name names _ missing _ ih =>
    have inside : child place name ≠ [] := ne_nil_of_missing missing
    refine ih ?_
    rw [at?_put fs .directory inside, if_neg (by rintro rfl; rw [missing] at there; cases there),
      there]

/-- When everything is made, the way can be gone. -/
theorem Leads.walk (h : Leads fs place names fs' goal) : fs'.walk place names = .ok goal := by
  induction h with
  | here => rfl
  | there short directory rest ih =>
    exact walk_cons_eq_ok_iff.mpr ⟨short, rest.kept directory, ih⟩
  | @made fs fs' place goal name names short missing rest ih =>
    have inside : child place name ≠ [] := ne_nil_of_missing missing
    refine walk_cons_eq_ok_iff.mpr ⟨short, rest.kept ?_, ih⟩
    rw [at?_put fs .directory inside, if_pos rfl]

/-- Until then, it can be gone already, or something on it is missing. -/
theorem Leads.cases (h : Leads fs place names fs' goal) :
    fs.walk place names = .ok goal ∧ fs' = fs ∨ fs.walk place names = .error .missing := by
  induction h with
  | here => exact .inl ⟨rfl, rfl⟩
  | there short directory _ ih =>
    rw [Files.walk, step, if_neg (Nat.not_lt.mpr short), directory]
    exact ih
  | made short missing _ ih =>
    rw [Files.walk, step, if_neg (Nat.not_lt.mpr short), missing]
    exact .inr rfl

theorem Leads.current (h : Leads fs place names fs' goal) : fs'.current = fs.current := by
  induction h with
  | here => rfl
  | there _ _ _ ih => exact ih
  | made _ _ _ ih => exact ih

/-- A path of these names and one more leads to the directory that is made. -/
theorem Leads.above {last : String} (h : Leads fs (fs.start p) names fs' goal)
    (sound : p.fault? = none) (named : p.names = names ++ [last]) : fs'.above p = .ok goal := by
  have start := start_of_current h.current p
  refine above_eq_ok_iff.mpr ⟨sound, .inl (by simp [named]), ?_⟩
  rw [start, named, List.dropLast_concat]
  exact h.walk

/-- It means what has its last name there. -/
theorem Leads.locate {last : String} (h : Leads fs (fs.start p) names fs' goal)
    (sound : p.fault? = none) (named : p.names = names ++ [last])
    (plain : last ≠ "." ∧ last ≠ "..") (short : last.utf8ByteSize ≤ longestName) :
    fs'.locate p = .ok (goal ++ [last], fs'.at? (goal ++ [last])) := by
  have last' := Path.last_of_names named
  have place := child_of_name goal plain.1 plain.2
  exact locate_eq_ok_iff.mpr
    ⟨goal, h.above sound named, last' ▸ short, by rw [last', place], rfl⟩

theorem Leads.of_append (h : Leads fs place (names ++ more) fs' goal) :
    ∃ mid between, Leads fs place names mid between ∧ Leads mid between more fs' goal := by
  induction names generalizing fs place with
  | nil => exact ⟨fs, place, .here, h⟩
  | cons name names ih =>
    cases h with
    | there short directory rest =>
      obtain ⟨mid, between, first, second⟩ := ih rest
      exact ⟨mid, between, .there short directory first, second⟩
    | made short missing rest =>
      obtain ⟨mid, between, first, second⟩ := ih rest
      exact ⟨mid, between, .made short missing first, second⟩

/-- The last directory on a way is made unless it is there. -/
theorem makeUnlessThere_of_leads (reached : fs.walk place names = .ok between)
    (h : Leads fs between [name] fs' goal) : fs.makeUnlessThere place names name = .ok fs' := by
  rw [makeUnlessThere, makeOne, reached]
  cases h with
  | there short directory rest =>
    cases rest
    have again : fs.walk place (names ++ [name]) = .ok (child between name) :=
      walk_append_eq_ok_iff.mpr ⟨between, reached, walk_cons_eq_ok_iff.mpr ⟨short, directory, rfl⟩⟩
    simp only [step, if_neg (Nat.not_lt.mpr short), directory, again]
  | made short missing rest =>
    cases rest
    simp only [step, if_neg (Nat.not_lt.mpr short), missing]

/-- **Making directories from the bottom up leads where going down leads.** -/
theorem makeUp_of_leads (h : Leads fs place names fs' goal) :
    fs.makeUp place names.reverse = (fs', .ok ()) := by
  induction names using List.reverseRecOn generalizing fs' goal with
  | nil =>
    cases h
    rfl
  | append_singleton names name ih =>
    obtain ⟨mid, between, first, last⟩ := h.of_append
    rw [List.reverse_append, List.reverse_singleton, List.singleton_append, makeUp,
      List.reverse_reverse]
    rcases first.cases with ⟨reached, rfl⟩ | missing
    · rw [makeUnlessThere_of_leads reached last]
    · -- the directories above are made first, and then the last one
      have stuck : fs.makeUnlessThere place names name = .error .missing := by
        rw [makeUnlessThere, makeOne, missing]
      rw [stuck]
      simp only [ih first, makeUnlessThere_of_leads first.walk last]

/-! ### Trees -/

/-- What is somewhere is in a directory, and there is a working directory. -/
structure IsTree (fs : Files) : Prop where
  parent : ∀ place e, fs.at? place = some e → fs.at? place.dropLast = some .directory
  current : fs.at? fs.current = some .directory

/-- It is enough to look at the entries. -/
theorem IsTree.of_entries
    (parents : ∀ entry ∈ fs.entries, fs.at? entry.1.dropLast = some .directory)
    (current : fs.at? fs.current = some .directory) : IsTree fs := by
  refine ⟨fun place e there => ?_, current⟩
  rw [at?] at there
  split at there
  · next root => rw [root, List.dropLast_nil, at?_root]
  · obtain ⟨front, back, entries, -⟩ := List.lookup_eq_some_iff.mp there
    exact parents (place, e) (by simp [entries])

theorem IsTree.start (h : IsTree fs) (p : Path) : fs.at? (fs.start p) = some .directory := by
  rw [Files.start]
  split
  · rfl
  · exact h.current

/-- All that leads to a directory is a directory. -/
theorem IsTree.isDirectory_of_prefix (h : IsTree fs) (there : fs.at? goal = some .directory)
    (before : place <+: goal) : fs.at? place = some .directory := by
  induction goal using List.reverseRecOn with
  | nil => rw [List.prefix_nil.mp before, at?_root]
  | append_singleton goal name ih =>
    rcases List.prefix_concat_iff.mp before with rfl | shorter
    · exact there
    · have parent := h.parent _ _ there
      rw [List.dropLast_concat] at parent
      exact ih parent shorter

/-- What is in a directory and is not one itself is below it. -/
theorem IsTree.child_eq_append (h : IsTree fs) (directory : fs.at? place = some .directory)
    (other : fs.at? (child place name) ≠ some .directory) : child place name = place ++ [name] := by
  refine child_of_name place ?_ ?_
  · rintro rfl
    exact other directory
  · rintro rfl
    exact other (h.parent _ _ directory)

/-- A tree in which directories are made is a tree. -/
theorem IsTree.of_grows (h : IsTree fs) (from_ : fs.at? place = some .directory)
    (grows : Grows place names fs fs') : IsTree fs' := by
  induction grows with
  | refl => exact h
  | @tail mid fs' before made ih =>
    have grown := made.grown
    obtain ⟨front, name, back, between, -, reached, -, missing, rfl⟩ := made
    have directory := isDirectory_of_walk reached ((Grows.grown before).keeps _ from_)
    have below := ih.child_eq_append directory (by rw [missing]; nofun)
    refine ⟨fun other e there => ?_, grown.kept _ _ ih.current⟩
    by_cases new : other = between ++ [name]
    · rw [new, List.dropLast_concat]
      exact grown.kept _ _ directory
    · rw [below, at?_put mid _ (by simp), if_neg new] at there
      exact grown.kept _ _ (ih.parent other e there)

/-- Without going back, whoever goes down comes to a place below. -/
theorem prefix_of_walk (down : ".." ∉ names) (h : fs.walk place names = .ok goal) :
    place <+: goal := by
  induction names generalizing place with
  | nil =>
    cases h
    exact List.prefix_rfl
  | cons name names ih =>
    obtain ⟨-, -, rest⟩ := walk_cons_eq_ok_iff.mp h
    have below : place <+: child place name := by
      rw [child]
      split
      · exact List.prefix_rfl
      · rw [if_neg fun up : name = ".." => down (up ▸ List.mem_cons_self)]
        exact List.prefix_append ..
    exact below.trans (ih (fun there => down (List.mem_cons_of_mem _ there)) rest)

/-- Whoever cannot go all the way down stops at a name that is too long or means no directory. -/
theorem walk_cases (fs : Files) (place : Place) (names : List String) :
    (∃ goal, fs.walk place names = .ok goal) ∨
      ∃ front name back between, names = front ++ name :: back ∧
        fs.walk place front = .ok between ∧
        (longestName < name.utf8ByteSize ∨ fs.at? (child between name) ≠ some .directory) := by
  induction names generalizing place with
  | nil => exact .inl ⟨place, rfl⟩
  | cons name names ih =>
    by_cases stuck : longestName < name.utf8ByteSize ∨
        fs.at? (child place name) ≠ some .directory
    · exact .inr ⟨[], name, names, place, rfl, rfl, stuck⟩
    · obtain ⟨short, directory⟩ := not_or.mp stuck
      have onward {more : List String} {goal : Place}
          (rest : fs.walk (child place name) more = .ok goal) :
          fs.walk place (name :: more) = .ok goal :=
        walk_cons_eq_ok_iff.mpr ⟨Nat.not_lt.mp short, not_not.mp directory, rest⟩
      rcases ih (child place name) with
        ⟨goal, reached⟩ | ⟨front, last, back, between, rfl, reached, stop⟩
      · exact .inl ⟨goal, onward reached⟩
      · exact .inr ⟨name :: front, last, back, between, rfl, onward reached, stop⟩

/-- A path that does not step back over a directory that is missing. -/
def IsStraight (fs : Files) (p : Path) : Prop :=
  ∀ front name back between, p.names.dropLast = front ++ name :: back →
    fs.walk (fs.start p) front = .ok between → name.utf8ByteSize ≤ longestName →
    fs.at? (child between name) = none → ".." ∉ back

/-- A path to a directory that is there is straight. -/
theorem IsStraight.of_walk (reached : fs.walk (fs.start p) p.names.dropLast = .ok goal) :
    IsStraight fs p := by
  intro front name back between names first _ missing
  rw [names] at reached
  obtain ⟨between', again, rest⟩ := walk_append_eq_ok_iff.mp reached
  rw [first] at again
  cases again
  obtain ⟨-, there, -⟩ := walk_cons_eq_ok_iff.mp rest
  rw [missing] at there
  cases there

/-- A path that does not step back at all is straight. -/
theorem IsStraight.of_down (down : ".." ∉ p.names.dropLast) : IsStraight fs p := by
  intro front name back between names _ _ _ inside
  exact down (by simp [names, inside])

/-- If directories on the way are made and a straight path then leads to one that was there before,
it has always led there. -/
theorem IsStraight.walk_of_grown (straight : IsStraight fs p) (tree : IsTree fs)
    (grown : Grown (fs.start p) p.names.dropLast fs fs') (before : fs.at? goal = some .directory)
    (reached : fs'.walk (fs.start p) p.names.dropLast = .ok goal) :
    fs.walk (fs.start p) p.names.dropLast = .ok goal := by
  rcases fs.walk_cases (fs.start p) p.names.dropLast with
    ⟨other, first⟩ | ⟨front, name, back, between, names, first, stuck⟩
  · have again := walk_of_keeps grown.keeps first
    rw [reached] at again
    cases again
    exact first
  · -- otherwise the first directory that was missing would be above the goal
    rw [names] at reached
    obtain ⟨between', again, rest⟩ := walk_append_eq_ok_iff.mp reached
    rw [walk_of_keeps grown.keeps first] at again
    cases again
    obtain ⟨short, there, onward⟩ := walk_cons_eq_ok_iff.mp rest
    have other := stuck.resolve_left (Nat.not_lt.mpr short)
    have missing := (grown.made (child between name) (there ▸ Ne.symm other)).1
    have down := straight front name back between names first short missing
    exact absurd (tree.isDirectory_of_prefix before (prefix_of_walk down onward)) other

/-- **While directories on the way to a file are made, the path goes on to mean the same file**, or
none, unless it steps back over a directory that is missing. -/
theorem content?_of_grows (tree : IsTree fs) (straight : IsStraight fs p)
    (grows : Grows (fs.start p) p.names.dropLast fs fs') : fs'.content? p = fs.content? p := by
  have grown := grows.grown
  have start := start_of_current grown.current p
  refine Option.ext fun content => ?_
  simp only [content?_eq_some_iff, read_eq_ok_iff]
  refine and_congr_left fun _ => exists_congr fun place => ?_
  constructor
  · intro found
    obtain ⟨goal, above, short, rfl, there⟩ := locate_eq_ok_iff.mp found
    obtain ⟨sound, named, reached⟩ := above_eq_ok_iff.mp above
    rw [start] at reached
    -- the file was there before, and so was its directory
    have file : fs.at? (child goal p.last) = some (.file content) := by
      by_contra other
      have made := (grown.made (child goal p.last) (there ▸ Ne.symm other)).2.1
      rw [← there] at made
      cases made
    have directory : fs'.at? goal = some .directory :=
      isDirectory_of_walk reached (grown.kept _ _ (tree.start p))
    have below : child goal p.last = goal ++ [p.last] :=
      (tree.of_grows (tree.start p) grows).child_eq_append directory (by rw [← there]; rintro ⟨⟩)
    have before : fs.at? goal = some .directory := by
      have parent := tree.parent _ _ file
      rwa [below, List.dropLast_concat] at parent
    have way := straight.walk_of_grown tree grown before reached
    exact locate_eq_ok_iff.mpr
      ⟨goal, above_eq_ok_iff.mpr ⟨sound, named, way⟩, short, rfl, file.symm⟩
  · intro found
    obtain ⟨goal, above, short, rfl, there⟩ := locate_eq_ok_iff.mp found
    obtain ⟨sound, named, reached⟩ := above_eq_ok_iff.mp above
    refine locate_eq_ok_iff.mpr ⟨goal, above_eq_ok_iff.mpr ⟨sound, named, ?_⟩, short, rfl, ?_⟩
    · rw [start]
      exact walk_of_keeps grown.keeps reached
    · exact (grown.kept _ _ there.symm).symm

end Brokerage.Files
