import Brokerage.Proofs.Store.File

/-!
# Changes that are cut short

A change of a store in a file goes through several steps: it reads the file, makes directories on
the way to it, writes the file beside, in parts if need be, and moves that one into its place
(`Step`). It can fail at each of them, and the program can end between any two.

Before the last step, directories may have been made and the file beside may have been written, and
nothing else has changed (`Prepared`). None of this is seen at the path of the file
(`Prepared.content?`), and the last step changes all of it at once. So the content of the file is
that of one table or of the other, wherever the change is cut short (`atomic_edit`).

A path may step back over a directory that is missing. When it is made, the path means something
that was there before, and that is seen, also if the change fails (`set_over_missing`).
-/

namespace Brokerage.FileStore

variable {s : FileStore} {change : Table → Table} {fs fs' fs'' : Files} {t : Table}

/-! ### Steps -/

/-- How far a change has come. -/
inductive Progress where
  | begun
  /-- The file has been read, and it is to hold this table. -/
  | loaded (t : Table)
  /-- Some of the file beside has been written. -/
  | writing (t : Table)
  /-- All of the file beside has been written. -/
  | written (t : Table)
  | done
  | failed (e : Error)

/-- Where a change has come when it ends with a result. -/
def Progress.ended : Except Error Unit → Progress
  | .ok () => .done
  | .error e => .failed e

/-- There is something left to do. -/
def Progress.IsOpen : Progress → Prop
  | .done => False
  | .failed _ => False
  | _ => True

/-- One step of a change. -/
inductive Step (s : FileStore) (change : Table → Table) :
    Progress × Files → Progress × Files → Prop where
  | load {fs : Files} {t : Table} (loaded : (s.load fs).result = .ok t) :
      Step s change (.begun, fs) (.loaded (change t), fs)
  /-- A directory on the way to the file is made. -/
  | make {fs fs' : Files} {t : Table} (made : Files.MakesOne (fs.start s.target) s.way fs fs') :
      Step s change (.loaded t, fs) (.loaded t, fs')
  /-- The file beside gets the first bytes of its content. -/
  | write {fs fs' : Files} {t : Table} {p : Progress} (next : p = .loaded t ∨ p = .writing t)
      (n : Nat) (written : fs.write s.temporary (t.write.take n) = .ok fs') :
      Step s change (p, fs) (.writing t, fs')
  /-- It gets all of its content. -/
  | complete {fs fs' : Files} {t : Table} {p : Progress} (next : p = .loaded t ∨ p = .writing t)
      (written : fs.write s.temporary t.write = .ok fs') :
      Step s change (p, fs) (.written t, fs')
  | replace {fs fs' : Files} {t : Table} (moved : fs.move s.temporary s.target = .ok fs') :
      Step s change (.written t, fs) (.done, fs')
  /-- The next step fails. -/
  | fail {fs : Files} {p : Progress} (going : p.IsOpen) (e : Error) :
      Step s change (p, fs) (.failed e, fs)

/-- A change can have come so far, with these files. -/
def Reaches (s : FileStore) (change : Table → Table) (fs : Files) (p : Progress) (fs' : Files) :
    Prop :=
  Relation.ReflTransGen (Step s change) (.begun, fs) (p, fs')

/-! ### Before the last step -/

/-- Directories on the way may have been made, and the file beside may have been written. -/
def Prepared (s : FileStore) (fs fs' : Files) : Prop :=
  ∃ made, Files.Grows (fs.start s.target) s.way fs made ∧ Files.SameDirectories made fs' ∧
    ∀ place, fs'.at? place ≠ made.at? place → ∃ e, made.locate s.temporary = .ok (place, e)

theorem Prepared.of_grows (grows : Files.Grows (fs.start s.target) s.way fs fs') :
    Prepared s fs fs' :=
  ⟨fs', grows, ⟨fun _ => Iff.rfl, rfl⟩, fun _ changed => absurd rfl changed⟩

/-- The file beside can be written again. -/
theorem Prepared.write {content : Bytes} (prepared : Prepared s fs fs')
    (written : fs'.write s.temporary content = .ok fs'') : Prepared s fs fs'' := by
  obtain ⟨made, grows, same, only⟩ := prepared
  have written := Files.written_of_write written
  refine ⟨made, grows, same.trans written.same, fun place changed => ?_⟩
  by_cases before : fs'.at? place = made.at? place
  · obtain ⟨e, found⟩ := written.only place (before ▸ changed)
    exact ⟨_, same.symm.locate found⟩
  · exact only place before

/-- **Before the last step, the content of the file is the one that it had.** -/
theorem Prepared.content? (prepared : Prepared s fs fs') (tree : fs.IsTree)
    (straight : fs.IsStraight s.target) : fs'.content? s.target = fs.content? s.target := by
  obtain ⟨made, grows, same, only⟩ := prepared
  rw [← Files.content?_of_grows tree straight grows]
  refine same.content? fun place e target => ?_
  by_contra changed
  obtain ⟨e', temporary⟩ := only place changed
  exact ne_of_locate target temporary rfl

/-- What has changed is at the place of the file beside, or it is a directory that was missing. -/
theorem Prepared.only (prepared : Prepared s fs fs') {place : Files.Place}
    (changed : fs'.at? place ≠ fs.at? place) :
    (∃ e, fs'.locate s.temporary = .ok (place, e)) ∨
      fs.at? place = none ∧ fs'.at? place = some .directory ∧
        ∃ front, front <+: s.way ∧ fs'.walk (fs.start s.target) front = .ok place := by
  obtain ⟨made, grows, same, only⟩ := prepared
  by_cases before : fs'.at? place = made.at? place
  · obtain ⟨missing, there, front, onTheWay, reached⟩ := grows.grown.made place (before ▸ changed)
    refine .inr ⟨missing, before ▸ there, front, onTheWay, ?_⟩
    exact same.walk reached
  · obtain ⟨e, found⟩ := only place before
    exact .inl ⟨_, same.locate found⟩

theorem Prepared.start (prepared : Prepared s fs fs') :
    fs'.start s.target = fs.start s.target := by
  obtain ⟨made, grows, same, -⟩ := prepared
  exact Files.start_of_current (same.current.trans grows.grown.current) _

/-! ### How far a change has come -/

/-- What is true of the files when a change has come so far. -/
inductive Stands (s : FileStore) (change : Table → Table) (fs : Files) :
    Progress → Files → Prop where
  | begun : Stands s change fs .begun fs
  | loaded {fs' : Files} {t : Table} (loaded : (s.load fs).result = .ok t)
      (grows : Files.Grows (fs.start s.target) s.way fs fs') :
      Stands s change fs (.loaded (change t)) fs'
  | writing {fs' : Files} {t : Table} (loaded : (s.load fs).result = .ok t)
      (prepared : Prepared s fs fs') : Stands s change fs (.writing (change t)) fs'
  | written {fs' : Files} {t : Table} (loaded : (s.load fs).result = .ok t)
      (prepared : Prepared s fs fs') (content : fs'.content? s.temporary = some (change t).write) :
      Stands s change fs (.written (change t)) fs'
  | done {mid fs' : Files} {t : Table} (loaded : (s.load fs).result = .ok t)
      (prepared : Prepared s fs mid) (content : mid.content? s.temporary = some (change t).write)
      (moved : Files.Moved s.temporary s.target mid fs') : Stands s change fs .done fs'
  | failed {fs' : Files} {e : Error} (prepared : Prepared s fs fs') :
      Stands s change fs (.failed e) fs'

/-- As long as there is something left to do, the last step is. -/
theorem Stands.prepared {p : Progress} (stands : Stands s change fs p fs') (going : p.IsOpen) :
    Prepared s fs fs' := by
  cases stands with
  | begun => exact .of_grows .refl
  | loaded _ grows => exact .of_grows grows
  | writing _ prepared => exact prepared
  | written _ prepared => exact prepared
  | done => exact going.elim
  | failed prepared => exact prepared

/-- When the file beside can be written, it is known which table is to be kept. -/
theorem Stands.loaded_of_next {p : Progress} (stands : Stands s change fs p fs')
    (next : p = .loaded t ∨ p = .writing t) :
    ∃ old, (s.load fs).result = .ok old ∧ t = change old ∧ Prepared s fs fs' := by
  rcases next with rfl | rfl
  · cases stands with
    | loaded loaded grows => exact ⟨_, loaded, rfl, .of_grows grows⟩
  · cases stands with
    | writing loaded prepared => exact ⟨_, loaded, rfl, prepared⟩

/-- **What one step preserves.** -/
theorem Stands.step {p p' : Progress} (stands : Stands s change fs p fs')
    (step : Step s change (p, fs') (p', fs'')) : Stands s change fs p' fs'' := by
  cases step with
  | load loaded =>
    cases stands
    exact .loaded loaded .refl
  | make made =>
    have same := (stands.prepared trivial).start
    cases stands with
    | loaded loaded grows => exact .loaded loaded (grows.tail (same ▸ made))
  | write next n written =>
    obtain ⟨old, loaded, rfl, prepared⟩ := stands.loaded_of_next next
    exact .writing loaded (prepared.write written)
  | complete next written =>
    obtain ⟨old, loaded, rfl, prepared⟩ := stands.loaded_of_next next
    exact .written loaded (prepared.write written) (Files.written_of_write written).content
  | replace moved =>
    cases stands with
    | written loaded prepared content => exact .done loaded prepared content (moved_of_move moved)
  | fail going e => exact .failed (stands.prepared going)

/-- What all steps together preserve. -/
theorem Reaches.stands {p : Progress} (reaches : Reaches s change fs p fs') :
    Stands s change fs p fs' := by
  have all (state : Progress × Files)
      (run : Relation.ReflTransGen (Step s change) (.begun, fs) state) :
      Stands s change fs state.1 state.2 := by
    induction run with
    | refl => exact .begun
    | tail _ step ih => exact ih.step step
  exact all _ reaches

/-! ### What a change leaves behind -/

/-- What a change leaves behind that has come so far. -/
structure Atomic (s : FileStore) (change : Table → Table) (fs : Files) (p : Progress)
    (fs' : Files) : Prop where
  /-- The content of the file is the one before, or all that is written for the changed table. -/
  content : fs'.content? s.target = fs.content? s.target ∨
    ∃ t, (s.load fs).result = .ok t ∧ fs'.content? s.target = some (change t).write
  /-- If the change fails, it is the one before. -/
  failed : ∀ e, p = .failed e → fs'.content? s.target = fs.content? s.target
  /-- If it succeeds, it is the other one, and there is no file beside. -/
  done : p = .done → (∃ t, (s.load fs).result = .ok t ∧
    fs'.content? s.target = some (change t).write) ∧
      ∃ place, fs'.locate s.temporary = .ok (place, none)
  /-- Nothing has changed but the file, the one beside and directories that were missing. -/
  only : ∀ place, fs'.at? place ≠ fs.at? place →
    (∃ e, fs'.locate s.target = .ok (place, e)) ∨ (∃ e, fs'.locate s.temporary = .ok (place, e)) ∨
      fs.at? place = none ∧ fs'.at? place = some .directory ∧
        ∃ front, front <+: s.way ∧ fs'.walk (fs'.start s.target) front = .ok place

theorem Prepared.atomic {p : Progress} (prepared : Prepared s fs fs') (tree : fs.IsTree)
    (straight : fs.IsStraight s.target) (other : p ≠ .done) : Atomic s change fs p fs' := by
  have content := prepared.content? tree straight
  refine ⟨.inl content, fun _ _ => content, fun done => absurd done other, fun place changed => ?_⟩
  rw [prepared.start]
  exact .inr (prepared.only changed)

theorem Reaches.atomic {p : Progress} (reaches : Reaches s change fs p fs') (tree : fs.IsTree)
    (straight : fs.IsStraight s.target) : Atomic s change fs p fs' := by
  cases reaches.stands with
  | begun => exact (Prepared.of_grows .refl).atomic tree straight nofun
  | loaded _ grows => exact (Prepared.of_grows grows).atomic tree straight nofun
  | writing _ prepared => exact prepared.atomic tree straight nofun
  | written _ prepared => exact prepared.atomic tree straight nofun
  | failed prepared => exact prepared.atomic tree straight nofun
  | @done mid _ t loaded prepared content moved =>
    have new : fs'.content? s.target = some (change t).write := moved.content.trans content
    refine ⟨.inr ⟨t, loaded, new⟩, nofun, fun _ => ⟨⟨t, loaded, new⟩, moved.gone⟩,
      fun place changed => ?_⟩
    by_cases before : fs'.at? place = mid.at? place
    · rcases prepared.only (before ▸ changed) with
        ⟨e, found⟩ | ⟨missing, there, front, onTheWay, reached⟩
      · exact .inr (.inl ⟨_, moved.same.locate found⟩)
      · refine .inr (.inr ⟨missing, before ▸ there, front, onTheWay, ?_⟩)
        rw [Files.start_of_current moved.same.current, prepared.start]
        exact moved.same.walk reached
    · rcases moved.only place before with ⟨e, found⟩ | ⟨e, found⟩
      · exact .inr (.inl ⟨_, moved.same.locate found⟩)
      · exact .inl ⟨_, moved.same.locate found⟩

/-! ### What a change does when nothing cuts it short -/

/-- From here, steps lead to where a task ends. -/
def Ends (s : FileStore) (change : Table → Table) (start : Progress × Files)
    (o : Outcome Files Unit) : Prop :=
  Relation.ReflTransGen (Step s change) start (.ended o.result, o.store)

theorem Ends.bind {α : Type} {start : Progress × Files} {task : Task Files α}
    {next : α → Task Files Unit}
    (fails : ∀ e, (task fs).result = .error e →
      Relation.ReflTransGen (Step s change) start (.failed e, (task fs).store))
    (goes : ∀ a, (task fs).result = .ok a → Ends s change start (next a (task fs).store)) :
    Ends s change start ((task >>= next) fs) := by
  show Ends s change start (Task.bind task next fs)
  rw [Task.bind]
  split
  · next e failed => exact fails e failed
  · next a found => exact goes a found

/-- Directories on the way are made step by step. -/
theorem reaches_of_grows (grows : Files.Grows (fs.start s.target) s.way fs fs') (t : Table) :
    Relation.ReflTransGen (Step s change) (.loaded t, fs) (.loaded t, fs') := by
  induction grows with
  | refl => exact .refl
  | @tail mid _ before made ih =>
    have start := Files.start_of_current (Files.Grows.grown before).current s.target
    exact ih.tail (.make (start ▸ made))

theorem ends_replace (s : FileStore) (t : Table) (fs : Files) :
    Ends s change (.written t, fs) (s.replace fs) := by
  rw [replace]
  split
  · next moved => exact .single (.replace moved)
  · next fault _ => exact .single (.fail (p := .written t) trivial (s.error fault))

theorem ends_write (s : FileStore) (t : Table) (fs : Files) :
    Ends s change (.loaded t, fs) ((s.writeTemporary t.write >>= fun _ => s.replace) fs) := by
  match write : fs.write s.temporary t.write with
  | .ok mid =>
    have writes : s.writeTemporary t.write fs = ⟨.ok (), mid, []⟩ := by rw [writeTemporary, write]
    rw [Task.bind_of_ok _ writes]
    exact .head (.complete (.inl rfl) write) (s.ends_replace t mid)
  | .error fault =>
    have fails : s.writeTemporary t.write fs = ⟨.error (s.error fault), fs, []⟩ := by
      rw [writeTemporary, write]
    rw [Task.bind_of_error _ fails]
    exact .single (.fail (p := .loaded t) trivial (s.error fault))

theorem ends_save (s : FileStore) (t : Table) (fs : Files) :
    Ends s change (.loaded t, fs) (s.save t fs) := by
  have made : Relation.ReflTransGen (Step s change) (.loaded t, fs)
      (.loaded t, (s.makeParent fs).store) := reaches_of_grows (s.grows_makeParent fs) t
  refine Ends.bind (fun e _ => made.tail (.fail (p := .loaded t) trivial e)) fun _ _ => ?_
  exact made.trans (s.ends_write t _)

/-- **A change takes these steps.** -/
theorem reaches_edit (s : FileStore) (edit : Edit) (fs : Files) :
    Reaches s edit.change fs (.ended (s.store.edit edit fs).result)
      (s.store.edit edit fs).store := by
  have loads := s.load_store fs
  rw [edit_store]
  refine Ends.bind (fun e failed => ?_) fun t loaded => ?_
  · rw [loads]
    exact .single (.fail (p := .begun) trivial e)
  · rw [loads]
    exact .head (.load loaded) (s.ends_save (edit.change t) fs)

/-- **A change is seen as a whole or not at all.** The files are a tree, and the path does not step
back over a directory that is missing. Wherever the change of a text is cut short, the content of
the file is what it was or what is written for the changed table: the first if it fails, the
second if it succeeds. Looking up a text changes no file. -/
theorem atomic_edit (tree : fs.IsTree) (straight : fs.IsStraight s.target) (edit : Edit) :
    (∀ p fs', Reaches s edit.change fs p fs' → Atomic s edit.change fs p fs') ∧
      Reaches s edit.change fs (.ended (s.store.edit edit fs).result)
        (s.store.edit edit fs).store ∧
      ∀ name, (s.store.get name fs).store = fs :=
  ⟨fun _ _ reaches => reaches.atomic tree straight, s.reaches_edit edit fs,
    fun name => s.get_store name fs⟩

namespace Sample

/-- A file, and a directory where the one beside it would be. -/
def blocked : Files where
  entries := [(["home"], .directory),
    (["home", "b.json"], .file (Text.encode r#"{"x":"1"}"#)),
    (["home", "b.json.tmp"], .directory)]
  current := ["home"]

theorem isTree_blocked : blocked.IsTree := .of_entries (by decide) rfl

end Sample

/-- A file is made in a directory that was missing, and none is left beside it. -/
theorem atomic_edit_made :
    ((FileStore.mk "a/c.json").store.edit (.set "k" "v") Sample.blocked).result = .ok () ∧
      Atomic ⟨"a/c.json"⟩ (Edit.set "k" "v").change Sample.blocked .done
        ((FileStore.mk "a/c.json").store.edit (.set "k" "v") Sample.blocked).store := by
  have straight : Sample.blocked.IsStraight (FileStore.mk "a/c.json").target :=
    .of_down (by decide)
  obtain ⟨atomic, reaches, -⟩ := atomic_edit Sample.isTree_blocked straight (.set "k" "v")
  have succeeds : ((FileStore.mk "a/c.json").store.edit (.set "k" "v") Sample.blocked).result =
      .ok () := by
    with_unfolding_all rfl
  rw [succeeds] at reaches
  exact ⟨succeeds, atomic _ _ reaches⟩

/-- **A change that fails may still be seen, where the path steps back over a directory that is
missing.** Before, it leads nowhere. The directory is made, then nothing can be written, and now the
path means a file that was there all the time. -/
theorem set_over_missing :
    Sample.blocked.IsTree ∧
      Sample.blocked.content? (FileStore.mk "a/../b.json").target = none ∧
      ((FileStore.mk "a/../b.json").store.edit (.set "k" "v") Sample.blocked).result =
        .error (.storage (.file "a/../b.json" .isDirectory)) ∧
      ((FileStore.mk "a/../b.json").store.edit (.set "k" "v") Sample.blocked).store.content?
        (FileStore.mk "a/../b.json").target = some (Text.encode r#"{"x":"1"}"#) := by
  refine ⟨Sample.isTree_blocked, ?_, ?_, ?_⟩ <;> with_unfolding_all rfl

end Brokerage.FileStore
