import Brokerage.Proofs.Store.Housing
import Brokerage.Proofs.Store.Refinement

/-!
# Stores beside each other

Stores in one directory use the same files. What a store sees of them is what is at the place of its
file, and whether a directory is at the place of the file beside (`SameView`). An operation of a
store comes to the same on any two trees that look the same to it, and they go on to do so
(`Housed.perform_congr`). An operation of another store is not seen, unless its file or the one
beside has the place of the file (`Touched.sameView`). So a store that others work beside gets what
it would get alone (`Housed.undisturbed`).

That the file beside of another store has the place of the file is the one exception, and it does
disturb: with files named `b.json` and `b.json.tmp`, a change of the first one takes the second one
away (`neighbours_disturbed`). It is no exception that the file of another store has the place of
the file beside, because all that counts there is whether it is a directory. Nor can anything be
said of paths that step back over a directory that is missing, because these lead somewhere only
once another store has made it.
-/

namespace Brokerage.FileStore

variable {s r : FileStore} {goal : Files.Place} {fs fs' made : Files}
variable {change : Table → Table} {operations : List (FileStore × Operation)}

/-! ### What an operation leaves alone -/

/-- What an operation of a store leaves as it was in the directory of its file. -/
structure Touched (s : FileStore) (goal : Files.Place) (fs fs' : Files) : Prop where
  tree : fs'.IsTree
  current : fs'.current = fs.current
  keeps : Files.Keeps fs fs'
  /-- Either nothing has changed, or the directory is there. -/
  there : fs' = fs ∨ fs'.at? goal = some .directory
  /-- No file has become a directory, and no directory a file. -/
  directory_iff : ∀ name, fs'.at? (goal ++ [name]) = some .directory ↔
    fs.at? (goal ++ [name]) = some .directory
  /-- All other files are as they were. -/
  only : ∀ name, name ≠ s.target.last → name ≠ s.target.last ++ ".tmp" →
    fs'.at? (goal ++ [name]) = fs.at? (goal ++ [name])

theorem Touched.refl (tree : fs.IsTree) : Touched s goal fs fs :=
  ⟨tree, rfl, fun _ => id, .inl rfl, fun _ => Iff.rfl, fun _ _ _ => rfl⟩

theorem Touched.of_opened (opened : Files.Opened goal fs made) : Touched s goal fs made := by
  refine ⟨opened.tree, opened.current, opened.keeps, .inr opened.there, fun name => ?_,
    fun name _ _ => opened.inside name⟩
  rw [opened.inside]

/-- Where neither the file nor the one beside is a directory, replacing the file touches no
directory. -/
theorem Touched.of_edited {content : Bytes} (opened : Files.Opened goal fs made)
    (edited : Edited s goal content made fs') (noFile : fs.at? (s.fileAt goal) ≠ some .directory)
    (noBeside : fs.at? (s.besideAt goal) ≠ some .directory) : Touched s goal fs fs' := by
  have noFile' : made.at? (s.fileAt goal) ≠ some .directory := by
    rwa [fileAt, opened.inside]
  have noBeside' : made.at? (s.besideAt goal) ≠ some .directory := by
    rwa [besideAt, opened.inside]
  have directories (place : Files.Place) :
      fs'.at? place = some .directory ↔ made.at? place = some .directory := by
    rw [edited.at?_eq]
    split
    · next here =>
      rw [here]
      constructor
      · intro directory
        cases directory
      · intro directory
        exact absurd directory noFile'
    · split
      · next here =>
        rw [here]
        constructor
        · intro directory
          cases directory
        · intro directory
          exact absurd directory noBeside'
      · exact Iff.rfl
  refine ⟨⟨fun place e there => ?_, ?_⟩, edited.current.trans opened.current,
    fun place directory => (directories place).mpr (opened.keeps place directory),
    .inr ((directories goal).mpr opened.there), fun name => ?_, fun name notFile notBeside => ?_⟩
  · -- the directory of what is there is the goal, or it was there before
    rw [directories]
    rw [edited.at?_eq] at there
    split at there
    · next here =>
      rw [here, fileAt, List.dropLast_concat]
      exact opened.there
    · split at there
      · cases there
      · exact opened.tree.parent place e there
  · rw [edited.current, directories]
    exact opened.tree.current
  · rw [directories, opened.inside]
  · have notFile' : goal ++ [name] ≠ s.fileAt goal :=
      fun same => notFile (List.cons.inj (List.append_cancel_left same)).1
    have notBeside' : goal ++ [name] ≠ s.besideAt goal :=
      fun same => notBeside (List.cons.inj (List.append_cancel_left same)).1
    rw [edited.at?_eq, if_neg notFile', if_neg notBeside', opened.inside]

/-- A change touches no more than this. -/
theorem Housed.update_touched (housed : Housed s goal fs) (tree : fs.IsTree)
    (change : Table → Table) : Touched s goal fs (s.update change fs).store := by
  have updated := housed.updated tree change
  generalize read : s.tableOf (fs.at? (s.fileAt goal)) = table at updated
  generalize free : s.obstacle? (fs.at? (s.besideAt goal)) = obstacle at updated
  generalize s.update change fs = o at updated
  cases updated with
  | unread => exact .refl tree
  | stuck opened => exact .of_opened opened
  | edited opened edited =>
    exact .of_edited opened edited (not_directory_of_tableOf read) (not_directory_of_free free).2.2

/-- Another store that has its file in the directory goes on to have it there. -/
theorem Touched.housed (touched : Touched s goal fs fs') (housed : Housed r goal fs) :
    Housed r goal fs' := by
  rcases touched.there with rfl | there
  · exact housed
  · exact housed.mono touched.tree touched.keeps touched.current there

/-! ### What an operation comes to -/

theorem perform_get (s : FileStore) (name : String) (fs : Files) :
    (s.store.perform (.get name) fs).result =
        (s.load fs).result.map (fun t => .text (t.get? name)) ∧
      (s.store.perform (.get name) fs).store = fs := by
  have same := s.load_store fs
  show (Task.bind (Task.bind s.load fun t => Task.pure (t.get? name))
      (fun text? => Task.pure (Found.text text?)) fs).result = _ ∧
    (Task.bind (Task.bind s.load fun t => Task.pure (t.get? name))
      (fun text? => Task.pure (Found.text text?)) fs).store = fs
  simp only [Task.bind]
  cases (s.load fs).result with
  | error e => exact ⟨rfl, same⟩
  | ok t => exact ⟨rfl, same⟩

theorem perform_edit (s : FileStore) (edit : Edit) (fs : Files) :
    (s.store.perform (.edit edit) fs).result =
        (s.update edit.change fs).result.map (fun _ => .changed) ∧
      (s.store.perform (.edit edit) fs).store = (s.update edit.change fs).store := by
  rw [← edit_store]
  show (Task.bind (s.store.edit edit) (fun _ => Task.pure Found.changed) fs).result = _ ∧
    (Task.bind (s.store.edit edit) (fun _ => Task.pure Found.changed) fs).store = _
  simp only [Task.bind]
  cases (s.store.edit edit fs).result with
  | error e => exact ⟨rfl, rfl⟩
  | ok _ => exact ⟨rfl, rfl⟩

theorem Housed.touched (housed : Housed s goal fs) (tree : fs.IsTree) (operation : Operation) :
    Touched s goal fs (s.store.perform operation fs).store := by
  cases operation with
  | get name =>
    rw [(s.perform_get name fs).2]
    exact .refl tree
  | edit edit =>
    rw [(s.perform_edit edit fs).2]
    exact housed.update_touched tree edit.change

/-! ### What a store sees -/

/-- Two trees look the same to a store. -/
structure SameView (s : FileStore) (goal : Files.Place) (fs fs' : Files) : Prop where
  file : fs'.at? (s.fileAt goal) = fs.at? (s.fileAt goal)
  beside : fs'.at? (s.besideAt goal) = some .directory ↔ fs.at? (s.besideAt goal) = some .directory

theorem SameView.trans {mid : Files} (h : SameView s goal fs mid) (h' : SameView s goal mid fs') :
    SameView s goal fs fs' :=
  ⟨h'.file.trans h.file, h'.beside.trans h.beside⟩

theorem SameView.symm (h : SameView s goal fs fs') : SameView s goal fs' fs :=
  ⟨h.file.symm, h.beside.symm⟩

/-- What another store does is not seen, unless it touches the file. -/
theorem Touched.sameView (touched : Touched r goal fs fs')
    (notFile : s.target.last ≠ r.target.last)
    (notBeside : s.target.last ≠ r.target.last ++ ".tmp") : SameView s goal fs fs' :=
  ⟨touched.only _ notFile notBeside, touched.directory_iff _⟩

/-- Making the directory is not seen. -/
theorem SameView.of_opened (opened : Files.Opened goal fs made) : SameView s goal fs made := by
  refine ⟨opened.inside _, ?_⟩
  rw [besideAt, opened.inside]

/-- **A change comes to the same on trees that look the same.** -/
theorem Housed.update_congr (housed : Housed s goal fs) (tree : fs.IsTree)
    (housed' : Housed s goal fs') (tree' : fs'.IsTree) (same : SameView s goal fs fs')
    (change : Table → Table) :
    (s.update change fs').result = (s.update change fs).result ∧
      SameView s goal (s.update change fs).store (s.update change fs').store := by
  have updated := housed.updated tree change
  have updated' := housed'.updated tree' change
  rw [same.file, obstacle?_congr same.beside] at updated'
  generalize s.tableOf (fs.at? (s.fileAt goal)) = table at updated updated'
  generalize s.obstacle? (fs.at? (s.besideAt goal)) = obstacle at updated updated'
  generalize s.update change fs = o at updated
  generalize s.update change fs' = o' at updated'
  -- what was read and what keeps the store from writing are the same, so the cases are
  cases updated with
  | unread =>
    cases updated' with
    | unread => exact ⟨rfl, same⟩
  | stuck opened =>
    cases updated' with
    | stuck opened' =>
      exact ⟨rfl, ((SameView.of_opened opened).symm.trans same).trans (.of_opened opened')⟩
  | edited opened edited =>
    cases updated' with
    | edited opened' edited' =>
      refine ⟨rfl, ?_, ?_⟩
      · rw [edited'.at?_eq, edited.at?_eq, if_pos rfl, if_pos rfl]
      · have apart : s.besideAt goal ≠ s.fileAt goal := (fileAt_ne_besideAt s goal).symm
        rw [edited'.at?_eq, edited.at?_eq, if_neg apart, if_neg apart, if_pos rfl, if_pos rfl]

/-- So does every operation. -/
theorem Housed.perform_congr (housed : Housed s goal fs) (tree : fs.IsTree)
    (housed' : Housed s goal fs') (tree' : fs'.IsTree) (same : SameView s goal fs fs')
    (operation : Operation) :
    (s.store.perform operation fs').result = (s.store.perform operation fs).result ∧
      SameView s goal (s.store.perform operation fs).store
        (s.store.perform operation fs').store := by
  cases operation with
  | get name =>
    obtain ⟨result, stays⟩ := s.perform_get name fs
    obtain ⟨result', stays'⟩ := s.perform_get name fs'
    obtain ⟨events, load⟩ := housed.load tree
    obtain ⟨events', load'⟩ := housed'.load tree'
    rw [result, result', stays, stays', load, load', same.file]
    exact ⟨rfl, same⟩
  | edit edit =>
    obtain ⟨result, after⟩ := s.perform_edit edit fs
    obtain ⟨result', after'⟩ := s.perform_edit edit fs'
    obtain ⟨results, view⟩ := housed.update_congr tree housed' tree' same edit.change
    rw [result, result', after, after', results]
    exact ⟨rfl, view⟩

/-! ### Operations of several stores -/

/-- Does one thing after the other, each with one of several stores that share their files, and goes
on if one fails. -/
def performEach :
    List (FileStore × Operation) → Files → List (FileStore × Except Error Found) × Files
  | [], fs => ([], fs)
  | (s, operation) :: rest, fs =>
    let o := s.store.perform operation fs
    let (results, fs) := performEach rest o.store
    ((s, o.result) :: results, fs)

/-- What is of one of the stores. -/
def ofStore {α : Type} (s : FileStore) (all : List (FileStore × α)) : List α :=
  (all.filter (·.1 = s)).map Prod.snd

theorem ofStore_cons_self {α : Type} (s : FileStore) (x : α) (all : List (FileStore × α)) :
    ofStore s ((s, x) :: all) = x :: ofStore s all := by
  simp [ofStore]

theorem ofStore_cons_of_ne {α : Type} (other : r ≠ s) (x : α) (all : List (FileStore × α)) :
    ofStore s ((r, x) :: all) = ofStore s all := by
  simp [ofStore, other]

/-- A store gets what it would get if nothing had been done but what was done with it. -/
def Undisturbed (s : FileStore) (operations : List (FileStore × Operation)) (fs : Files) : Prop :=
  ofStore s (performEach operations fs).1 = (s.store.performAll (ofStore s operations) fs).1

/-- Another store has its file in the same directory. Neither this file nor the one beside it has
the name of the file of the store. -/
structure Beside (s r : FileStore) (goal : Files.Place) (fs : Files) : Prop where
  housed : Housed r goal fs
  notFile : s.target.last ≠ r.target.last
  notBeside : s.target.last ≠ r.target.last ++ ".tmp"

/-- Alone, on files that look the same to it, a store gets the same as among others. -/
theorem Housed.performEach_congr (housed : Housed s goal fs) (tree : fs.IsTree)
    (housed' : Housed s goal fs') (tree' : fs'.IsTree) (same : SameView s goal fs fs')
    (others : ∀ x ∈ operations, x.1 ≠ s → Beside s x.1 goal fs) :
    ofStore s (performEach operations fs).1 =
      (s.store.performAll (ofStore s operations) fs').1 := by
  induction operations generalizing fs fs' with
  | nil => rfl
  | cons x rest ih =>
    obtain ⟨r, operation⟩ := x
    show ofStore s ((r, (r.store.perform operation fs).result) ::
      (performEach rest (r.store.perform operation fs).store).1) = _
    by_cases own : r = s
    · subst own
      -- its own operation comes to the same on both sides
      obtain ⟨result, view⟩ := housed.perform_congr tree housed' tree' same operation
      have touched := housed.touched tree operation
      have touched' := housed'.touched tree' operation
      rw [ofStore_cons_self, ofStore_cons_self]
      show _ = (r.store.perform operation fs').result :: (r.store.performAll _ _).1
      rw [result, ih (touched.housed housed) touched.tree (touched'.housed housed') touched'.tree
        view]
      intro x there other
      have beside := others x (List.mem_cons_of_mem _ there) other
      exact ⟨touched.housed beside.housed, beside.notFile, beside.notBeside⟩
    · -- the operation of another store is not seen
      have beside : Beside s r goal fs := others (r, operation) List.mem_cons_self own
      have touched := beside.housed.touched tree operation
      have view := touched.sameView beside.notFile beside.notBeside
      rw [ofStore_cons_of_ne own, ofStore_cons_of_ne own]
      refine ih (touched.housed housed) touched.tree housed' tree' (view.symm.trans same) ?_
      intro x there other
      have beside := others x (List.mem_cons_of_mem _ there) other
      exact ⟨touched.housed beside.housed, beside.notFile, beside.notBeside⟩

/-- However many stores work beside it, a store is not disturbed. -/
theorem Housed.undisturbed (housed : Housed s goal fs) (tree : fs.IsTree)
    (others : ∀ x ∈ operations, x.1 ≠ s → Beside s x.1 goal fs) : Undisturbed s operations fs :=
  housed.performEach_congr tree housed tree ⟨rfl, Iff.rfl⟩ others

/-! ### Two stores -/

/-- Two names differ only in what stands behind their last dots. -/
def DifferInExtension (x y : String) : Prop :=
  ∃ stem e e', x = stem ++ "." ++ e ∧ y = stem ++ "." ++ e' ∧ '.' ∉ e.toList ∧ '.' ∉ e'.toList ∧
    e ≠ e'

theorem DifferInExtension.symm {x y : String} (h : DifferInExtension x y) :
    DifferInExtension y x := by
  obtain ⟨stem, e, e', hx, hy, plain, plain', other⟩ := h
  exact ⟨stem, e', e, hy, hx, plain', plain, other.symm⟩

/-- Then neither is the name of the file beside the other one. -/
theorem DifferInExtension.ne_beside {x y : String} (h : DifferInExtension x y) :
    x ≠ y ++ ".tmp" := by
  obtain ⟨stem, e, e', rfl, rfl, plain, -, -⟩ := h
  intro same
  have letters : e.toList = e'.toList ++ ".tmp".toList := by
    have all := congrArg String.toList same
    simp only [String.toList_append, List.append_assoc] at all
    exact List.append_cancel_left (List.append_cancel_left all)
  rw [letters] at plain
  exact plain (List.mem_append_right _ (by decide))

/-- **Stores beside each other.** Two stores have their files in one directory, under different
names, and operations on them alternate in any way. Each of the two gets what it would get alone,
whatever its file holds and whether or not there is room for the file beside, unless its file has
the name of the file beside the other one. In particular, both do if their names differ in the
extension only. -/
theorem neighbours_undisturbed {a b : FileStore} (tree : fs.IsTree) (housed : Housed a goal fs)
    (housed' : Housed b goal fs) (different : a.target.last ≠ b.target.last)
    (operations : List (FileStore × Operation)) (own : ∀ x ∈ operations, x.1 = a ∨ x.1 = b) :
    (a.target.last ≠ b.target.last ++ ".tmp" → Undisturbed a operations fs) ∧
      (b.target.last ≠ a.target.last ++ ".tmp" → Undisturbed b operations fs) ∧
      (DifferInExtension a.target.last b.target.last →
        Undisturbed a operations fs ∧ Undisturbed b operations fs) := by
  have first (apart : a.target.last ≠ b.target.last ++ ".tmp") : Undisturbed a operations fs := by
    refine housed.undisturbed tree fun x there other => ?_
    rw [(own x there).resolve_left other]
    exact ⟨housed', different, apart⟩
  have second (apart : b.target.last ≠ a.target.last ++ ".tmp") : Undisturbed b operations fs := by
    refine housed'.undisturbed tree fun x there other => ?_
    rw [(own x there).resolve_right other]
    exact ⟨housed, different.symm, apart⟩
  refine ⟨first, second, fun extension => ⟨first extension.ne_beside, second ?_⟩⟩
  exact extension.symm.ne_beside

namespace Sample

/-- Two stores whose files differ in the extension. -/
def prefs : FileStore := ⟨"data/app.json"⟩

def cache : FileStore := ⟨"data/app.cache"⟩

/-- They take turns. -/
def alternating : List (FileStore × Operation) :=
  [(prefs, .get "k"), (cache, .edit (.set "k" "c")), (prefs, .get "k"),
   (prefs, .edit (.set "k" "p")), (cache, .get "k"), (cache, .edit (.remove "k")),
   (prefs, .get "k")]

theorem isTree_empty : empty.IsTree := .of_entries (by decide) rfl

/-- A store whose path goes straight down has its file where the way leads. -/
theorem housed_of_leads {names : List String}
    (path : s.target.endsInName = true ∧ s.target.ending = .nothing ∧ s.target.fault? = none ∧
      s.target.last.utf8ByteSize ≤ Files.longestName ∧ ".." ∉ s.target.names.dropLast ∧
      s.way = names)
    (leads : Files.Leads fs (fs.start s.target) names made goal) : Housed s goal fs := by
  obtain ⟨ends, plain, sound, short, down, rfl⟩ := path
  exact ⟨⟨ends, plain⟩, sound, short, .of_down down, made, leads⟩

/-- Their directory is missing. -/
theorem leads_data :
    empty.Leads ["home"] ["data"] (empty.put ["home", "data"] .directory) ["home", "data"] :=
  .made (by decide) rfl .here

theorem housed_prefs : Housed prefs ["home", "data"] empty :=
  housed_of_leads (by decide) leads_data

theorem housed_cache : Housed cache ["home", "data"] empty :=
  housed_of_leads (by decide) leads_data

theorem differInExtension : DifferInExtension prefs.target.last cache.target.last :=
  ⟨"app", "json", "cache", by decide⟩

end Sample

/-- The directory is made for one of them and then used by the other one. -/
theorem neighbours_undisturbed_alternating :
    ofStore Sample.prefs (performEach Sample.alternating Sample.empty).1 =
        [.ok (.text none), .ok (.text none), .ok .changed, .ok (.text (some "p"))] ∧
      ofStore Sample.cache (performEach Sample.alternating Sample.empty).1 =
        [.ok .changed, .ok (.text (some "c")), .ok .changed] := by
  obtain ⟨-, -, both⟩ := neighbours_undisturbed Sample.isTree_empty Sample.housed_prefs
    Sample.housed_cache (by decide) Sample.alternating (by decide)
  obtain ⟨prefs, cache⟩ := both Sample.differInExtension
  rw [prefs, cache]
  constructor
  · with_unfolding_all rfl
  · with_unfolding_all rfl

namespace Sample

/-- A store whose file has the name of the file beside another one. -/
def beside : FileStore := ⟨"b.json.tmp"⟩

/-- The other one. -/
def plain : FileStore := ⟨"b.json"⟩

/-- The first store keeps something, and then the other one does. -/
def displacing : List (FileStore × Operation) :=
  [(beside, .edit (.set "k" "v")), (plain, .edit (.set "j" "w")), (beside, .get "k")]

theorem housed_beside : Housed beside ["home"] empty :=
  housed_of_leads (by decide) .here

theorem housed_plain : Housed plain ["home"] empty :=
  housed_of_leads (by decide) .here

/-- A directory with a file in it. -/
def shelf : Files where
  entries := [(["home"], .directory),
    (["home", "a.json"], .file (Text.encode r#"{"k":"1"}"#))]
  current := ["home"]

/-- Two stores whose paths step back over a directory that is missing. -/
def stepping : FileStore := ⟨"d/../a.json"⟩

def steppingToo : FileStore := ⟨"d/../b.json"⟩

/-- The second store makes the directory, and then the first one looks. -/
def uncovering : List (FileStore × Operation) :=
  [(steppingToo, .edit (.set "j" "v")), (stepping, .get "k")]

/-- What the first store has kept is gone. -/
theorem disturbed_beside : ¬Undisturbed beside displacing empty := by
  intro same
  have among : ofStore beside (performEach displacing empty).1 =
      [.ok .changed, .ok (.text none)] := by
    with_unfolding_all rfl
  have alone : (beside.store.performAll (ofStore beside displacing) empty).1 =
      [.ok .changed, .ok (.text (some "v"))] := by
    with_unfolding_all rfl
  rw [Undisturbed, among, alone] at same
  cases same

/-- The first store finds what it would not find alone. -/
theorem disturbed_stepping : ¬Undisturbed stepping uncovering shelf := by
  intro same
  have among : ofStore stepping (performEach uncovering shelf).1 = [.ok (.text (some "1"))] := by
    with_unfolding_all rfl
  have alone : (stepping.store.performAll (ofStore stepping uncovering) shelf).1 =
      [.ok (.text none)] := by
    with_unfolding_all rfl
  rw [Undisturbed, among, alone] at same
  cases same

/-- The way of both paths leads to the working directory. -/
theorem leads_stepping (s : FileStore) (way : s.way = ["d", ".."])
    (start : shelf.start s.target = ["home"]) :
    shelf.Leads (shelf.start s.target) s.way (shelf.put ["home", "d"] .directory) ["home"] := by
  rw [way, start]
  exact .made (by decide) rfl (.there (by decide) rfl .here)

end Sample

/-- **Stores beside each other may be disturbed.** Two stores have their files under different names
in the working directory. A change of the second one takes away what the first one has kept, because
its own file beside has the place of the first one's file. And where paths step back over a
directory that is missing, a change of the second store makes this directory, and the first one
finds a file that was there all the time. -/
theorem neighbours_disturbed :
    (Sample.empty.IsTree ∧ Housed Sample.beside ["home"] Sample.empty ∧
      Housed Sample.plain ["home"] Sample.empty ∧
      Sample.beside.target.last ≠ Sample.plain.target.last ∧
      ¬Undisturbed Sample.beside Sample.displacing Sample.empty) ∧
    (Sample.shelf.IsTree ∧
      Sample.shelf.Leads (Sample.shelf.start Sample.stepping.target) Sample.stepping.way
        (Sample.shelf.put ["home", "d"] .directory) ["home"] ∧
      Sample.shelf.Leads (Sample.shelf.start Sample.steppingToo.target) Sample.steppingToo.way
        (Sample.shelf.put ["home", "d"] .directory) ["home"] ∧
      Sample.stepping.target.last ≠ Sample.steppingToo.target.last ∧
      ¬Undisturbed Sample.stepping Sample.uncovering Sample.shelf) := by
  constructor
  · exact ⟨Sample.isTree_empty, Sample.housed_beside, Sample.housed_plain, by decide,
      Sample.disturbed_beside⟩
  · have tree : Sample.shelf.IsTree := .of_entries (by decide) rfl
    have leads := Sample.leads_stepping Sample.stepping (by decide) (by decide)
    have leads' :=
      Sample.leads_stepping Sample.steppingToo (by decide) (by decide)
    exact ⟨tree, leads, leads', by decide, Sample.disturbed_stepping⟩

end Brokerage.FileStore
