import Brokerage.Proofs.Store.File

/-!
# A store in a file works like one in memory

Take a path that names a file, in a directory that is there or can be made (`Ready`), and a
file that is not there or holds an object of texts (`Holds`). Every operation then succeeds,
leaves the path as good as it was and makes the changed table the content of the file
(`Ready.update`). Since a table that was written is read as it was, the store in the file and
the one in memory stay in step (`Serves.perform`), and closing and opening the file in between
makes no difference (`sessions_refine`).

The name of the file beside is four bytes longer. It can be too long where that of the file is
not, and then nothing can be changed (`set_long`).
-/

namespace Brokerage

/-! ### Operations -/

/-- What is done with a store. -/
inductive Operation where
  | get (name : String)
  | edit (edit : Edit)

/-- What an operation comes to. -/
inductive Found where
  | text (text? : Option String)
  | changed
  deriving DecidableEq

/-- Does one thing with a store. -/
def KeyStore.perform {σ : Type} (store : KeyStore σ) : Operation → Task σ Found
  | .get name => do return .text (← store.get name)
  | .edit edit => do
    store.edit edit
    return .changed

/-- Does one thing after the other, and goes on if one fails. -/
def KeyStore.performAll {σ : Type} (store : KeyStore σ) :
    List Operation → σ → List (Except Error Found) × σ
  | [], s => ([], s)
  | operation :: rest, s =>
    let o := store.perform operation s
    let (results, s) := store.performAll rest o.store
    (o.result :: results, s)

theorem KeyStore.performAll_append {σ : Type} (store : KeyStore σ) (front back : List Operation)
    (s : σ) :
    store.performAll (front ++ back) s =
      ((store.performAll front s).1 ++ (store.performAll back (store.performAll front s).2).1,
        (store.performAll back (store.performAll front s).2).2) := by
  induction front generalizing s with
  | nil => rfl
  | cons operation front ih =>
    rw [List.cons_append, performAll, ih]
    rfl

/-- Opens the store in the file at a path for each of several sessions. -/
def FileStore.sessions (path : String) :
    List (List Operation) → Files → List (Except Error Found) × Files
  | [], fs => ([], fs)
  | operations :: rest, fs =>
    let (results, fs) := (FileStore.mk path).store.performAll operations fs
    let (later, fs) := sessions path rest fs
    (results ++ later, fs)

/-- What an operation comes to on a table. -/
def Table.answer (t : Table) : Operation → Found
  | .get name => .text (t.get? name)
  | .edit _ => .changed

/-- The table after an operation. -/
def Table.after (t : Table) : Operation → Table
  | .get _ => t
  | .edit edit => edit.change t

/-- Operations on the store in memory come to this. -/
theorem Table.perform_store (t : Table) (operation : Operation) :
    (Table.store.perform operation t).result = .ok (t.answer operation) ∧
      (Table.store.perform operation t).store = t.after operation := by
  cases operation with
  | get name => exact ⟨rfl, rfl⟩
  | edit edit => cases edit <;> exact ⟨rfl, rfl⟩

/-- In memory, everything succeeds. -/
theorem Table.exists_of_mem_performAll {t : Table} {operations : List Operation}
    {result : Except Error Found} (there : result ∈ (Table.store.performAll operations t).1) :
    ∃ found, result = .ok found := by
  induction operations generalizing t with
  | nil => cases there
  | cons operation rest ih =>
    rcases List.mem_cons.mp there with rfl | later
    · exact ⟨_, (t.perform_store operation).1⟩
    · exact ih later

namespace FileStore

variable {s : FileStore} {fs fs' : Files} {t : Table} {entries : List (String × String)}

/-! ### Where a store can keep its file -/

/-- A store can keep its file at its path. -/
structure Ready (s : FileStore) (fs : Files) : Prop where
  /-- The path names a file. -/
  named : s.target.endsInName = true ∧ s.target.ending = .nothing
  sound : s.target.fault? = none
  /-- There is room for the name of the file beside. -/
  short : s.target.last.utf8ByteSize + 4 ≤ Files.longestName
  size : s.target.size + 4 < Files.sizeLimit
  /-- The directory is there or can be made. Neither the file nor the one beside is a directory
  then. -/
  reachable : ∃ made goal, Files.Leads fs (fs.start s.target) s.way made goal ∧
    made.at? (goal ++ [s.target.last]) ≠ some .directory ∧
    made.at? (goal ++ [s.target.last ++ ".tmp"]) ≠ some .directory

theorem Ready.plain (ready : Ready s fs) : s.target.last ≠ "." ∧ s.target.last ≠ ".." := by
  obtain ⟨ends, plain⟩ := ready.named
  obtain ⟨names, -⟩ := names_temporary plain
  rw [Files.Path.endsInName, names, List.getLast?_concat] at ends
  simpa using ((Bool.and_eq_true _ _).mp ends).2

/-- When the directory is made, the paths of the file and of the one beside mean places in it. -/
theorem Ready.locate {made : Files} {goal : Files.Place} (ready : Ready s fs)
    (leads : Files.Leads fs (fs.start s.target) s.way made goal) :
    made.locate s.target = .ok (goal ++ [s.target.last], made.at? (goal ++ [s.target.last])) ∧
      made.locate s.temporary = .ok (goal ++ [s.target.last ++ ".tmp"],
        made.at? (goal ++ [s.target.last ++ ".tmp"])) := by
  obtain ⟨names, names', absolute, -⟩ := names_temporary ready.named.2
  have sound := fault?_temporary ready.named.2 ready.sound ready.size
  have short := ready.short
  have longer : (s.target.last ++ ".tmp").utf8ByteSize = s.target.last.utf8ByteSize + 4 :=
    String.utf8ByteSize_append
  constructor
  · exact leads.locate ready.sound names ready.plain (by omega)
  · rw [← start_temporary absolute] at leads
    exact leads.locate sound names' (plain_temporary _) (by omega)

/-- A store that is ready stays so while the directories stay the same. -/
theorem Ready.of_sameDirectories {made : Files} {goal : Files.Place} (ready : Ready s fs)
    (leads : Files.Leads fs (fs.start s.target) s.way made goal)
    (noTarget : made.at? (goal ++ [s.target.last]) ≠ some .directory)
    (noTemporary : made.at? (goal ++ [s.target.last ++ ".tmp"]) ≠ some .directory)
    (same : Files.SameDirectories made fs') : Ready s fs' := by
  have reached : fs'.walk (fs'.start s.target) s.way = .ok goal := by
    rw [Files.start_of_current (same.current.trans leads.current)]
    exact same.walk leads.walk
  refine ⟨ready.named, ready.sound, ready.short, ready.size, fs', goal, .of_walk reached, ?_, ?_⟩
  · rwa [Ne, same.directory_iff]
  · rwa [Ne, same.directory_iff]

/-! ### One change -/

/-- **A change makes the changed table the content of the file**, and the store is ready for the
next one. What there was to report about the file has been reported. -/
theorem Ready.update {events : List Log.Event} (ready : Ready s fs)
    (loaded : s.load fs = ⟨.ok t, fs, events⟩) (change : Table → Table) :
    ∃ fs', s.update change fs = ⟨.ok (), fs', events⟩ ∧ Ready s fs' ∧
      fs'.content? s.target = some (change t).write := by
  obtain ⟨made, goal, leads, noTarget, noTemporary⟩ := ready.reachable
  obtain ⟨target, temporary⟩ := ready.locate leads
  obtain ⟨ends, plain⟩ := ready.named
  obtain ⟨names, -, -, file⟩ := names_temporary plain
  have makes := makeParent_of_leads ready.sound (by simp [names]) leads
  -- the file beside is written
  obtain ⟨between, write⟩ : ∃ between, made.write s.temporary (change t).write = .ok between :=
    ⟨_, Files.write_eq_ok_iff.mpr ⟨_, _, temporary, noTemporary, file, rfl⟩⟩
  have written := Files.written_of_write write
  have writes : s.writeTemporary (change t).write made = ⟨.ok (), between, []⟩ := by
    rw [writeTemporary, write]
  -- and moved into the place of the file
  obtain ⟨⟨place, source⟩, -⟩ :=
    Files.read_eq_ok_iff.mp (Files.content?_eq_some_iff.mp written.content)
  obtain ⟨fs', move⟩ : ∃ fs', between.move s.temporary s.target = .ok fs' := by
    have goal := written.same.locate target
    exact ⟨_, Files.move_eq_ok_iff.mpr ⟨_, _, _, _, source, goal,
      by rwa [Ne, written.same.directory_iff], ends, plain, rfl⟩⟩
  have moved := moved_of_move move
  have replaces : s.replace between = ⟨.ok (), fs', []⟩ := by
    rw [replace, move]
  refine ⟨fs', ?_, ready.of_sameDirectories leads noTarget noTemporary
    (written.same.trans moved.same), moved.content.trans written.content⟩
  have saves : s.save (change t) fs = ⟨.ok (), fs', []⟩ := by
    show (s.makeParent >>= fun _ => s.writeTemporary (change t).write >>= fun _ => s.replace) fs = _
    rw [Task.bind_of_ok _ makes, Task.bind_of_ok _ writes, replaces]
    rfl
  show (s.load >>= fun t => s.save (change t)) fs = _
  rw [Task.bind_of_ok _ loaded, saves, List.append_nil]

/-- **Where there is no room for the name of the file beside, no change succeeds.** -/
theorem update_of_long {made : Files} {goal : Files.Place} (loaded : s.load fs = ⟨.ok t, fs, []⟩)
    (plain : s.target.ending = .nothing) (sound : s.target.fault? = none)
    (size : s.target.size + 4 < Files.sizeLimit)
    (leads : Files.Leads fs (fs.start s.target) s.way made goal)
    (long : Files.longestName < s.target.last.utf8ByteSize + 4) (change : Table → Table) :
    s.update change fs = ⟨.error (s.error .tooLong), made, []⟩ := by
  obtain ⟨names, names', absolute, -⟩ := names_temporary plain
  have makes := makeParent_of_leads sound (by simp [names]) leads
  have above : made.above s.temporary = .ok goal := by
    rw [← start_temporary absolute] at leads
    exact leads.above (fault?_temporary plain sound size) names'
  have longer : (s.target.last ++ ".tmp").utf8ByteSize = s.target.last.utf8ByteSize + 4 :=
    String.utf8ByteSize_append
  have stuck : made.locate s.temporary = .error .tooLong := by
    rw [Files.locate, above, names', List.getLast?_concat]
    show made.step goal (s.target.last ++ ".tmp") = _
    rw [Files.step, if_pos (longer ▸ long)]
  have write (bytes : Bytes) : s.writeTemporary bytes made =
      ⟨.error (s.error .tooLong), made, []⟩ := by
    rw [writeTemporary, Files.write, stuck]
  show (s.load >>= fun t => s.save (change t)) fs = _
  rw [Task.bind_of_ok _ loaded]
  have saves : s.save (change t) fs = ⟨.error (s.error .tooLong), made, []⟩ := by
    show (s.makeParent >>= fun _ => s.writeTemporary (change t).write >>= fun _ => s.replace) fs = _
    rw [Task.bind_of_ok _ makes, Task.bind_of_error _ (write _)]
    rfl
  rw [saves]
  rfl

/-! ### What the file holds -/

/-- There is no file, or it holds a JSON object of texts, with these entries. -/
inductive Holds (s : FileStore) (fs : Files) : List (String × String) → Prop where
  | nothing (absent : fs.content? s.target = none) : Holds s fs []
  | object {entries : List (String × String)} {text : String}
      (content : fs.content? s.target = some (Text.encode text))
      (object : Table.IsObject entries text.toList) : Holds s fs entries

/-- Where there can be a file and there is none, nothing is missing but this file or directories on
the way to it. -/
theorem Ready.missing (ready : Ready s fs) (absent : fs.content? s.target = none) :
    fs.read s.target = .error .missing := by
  obtain ⟨made, goal, leads, noTarget, -⟩ := ready.reachable
  obtain ⟨names, -⟩ := names_temporary ready.named.2
  rcases leads.cases with ⟨-, rfl⟩ | missing
  · obtain ⟨target, -⟩ := ready.locate leads
    rw [Files.read, target]
    cases there : made.at? (goal ++ [s.target.last]) with
    | none => rfl
    | some entry =>
      cases entry with
      | directory => exact absurd there noTarget
      | file content =>
        rw [there] at target
        have read := Files.read_eq_ok_iff.mpr ⟨⟨_, target⟩, ready.named.2⟩
        rw [Files.content?_eq_some_iff.mpr read] at absent
        cases absent
  · have above : fs.above s.target = .error .missing := by
      rw [Files.above, ready.sound]
      simpa [names] using missing
    rw [Files.read, Files.locate, above]

/-- The store reads the table of the entries. -/
theorem Ready.load (ready : Ready s fs) (holds : Holds s fs entries) :
    s.load fs = ⟨.ok (.ofEntries entries), fs, []⟩ := by
  cases holds with
  | nothing absent => exact load_of_missing (ready.missing absent)
  | object content object => exact load_of_isObject content object

/-! ### Operation after operation -/

/-- A store in a file that can go on, and the table that it keeps. -/
structure Serves (s : FileStore) (fs : Files) (t : Table) : Prop where
  ready : Ready s fs
  loaded : s.load fs = ⟨.ok t, fs, []⟩
  ordered : t.Ordered

/-- **One operation comes to the same on the file and on the table.** -/
theorem Serves.perform (serves : Serves s fs t) (operation : Operation) :
    (s.store.perform operation fs).result = .ok (t.answer operation) ∧
      Serves s (s.store.perform operation fs).store (t.after operation) := by
  cases operation with
  | get name =>
    have gets : s.store.get name fs = ⟨.ok (t.get? name), fs, []⟩ := Task.bind_of_ok _ serves.loaded
    have done : s.store.perform (.get name) fs = ⟨.ok (.text (t.get? name)), fs, []⟩ :=
      Task.bind_of_ok _ gets
    rw [done]
    exact ⟨rfl, serves⟩
  | edit edit =>
    obtain ⟨fs', updated, ready, content⟩ := serves.ready.update serves.loaded edit.change
    have edits : s.store.edit edit fs = ⟨.ok (), fs', []⟩ := by rw [edit_store, updated]
    have done : s.store.perform (.edit edit) fs = ⟨.ok .changed, fs', []⟩ :=
      Task.bind_of_ok _ edits
    have ordered := serves.ordered.change edit
    rw [done]
    exact ⟨rfl, ready, load_of_write ordered content, ordered⟩

/-- Operation after operation comes to the same, and in the end the file keeps the table. -/
theorem Serves.performAll (serves : Serves s fs t) (operations : List Operation) :
    (s.store.performAll operations fs).1 = (Table.store.performAll operations t).1 ∧
      Serves s (s.store.performAll operations fs).2 (Table.store.performAll operations t).2 := by
  induction operations generalizing fs t with
  | nil => exact ⟨rfl, serves⟩
  | cons operation rest ih =>
    obtain ⟨result, after⟩ := serves.perform operation
    obtain ⟨result', after'⟩ := t.perform_store operation
    rw [← after'] at after
    obtain ⟨results, last⟩ := ih after
    refine ⟨?_, last⟩
    show (s.store.perform operation fs).result :: _ = (Table.store.perform operation t).result :: _
    rw [result, result', results]

/-- Whether the file is closed and opened again on the way makes no difference. -/
theorem Serves.sessions (serves : Serves s fs t) (sessions : List (List Operation)) :
    (FileStore.sessions s.path sessions fs).1 =
      (Table.store.performAll sessions.flatten t).1 := by
  induction sessions generalizing fs t with
  | nil => rfl
  | cons operations rest ih =>
    obtain ⟨results, after⟩ := serves.performAll operations
    rw [List.flatten_cons, KeyStore.performAll_append]
    show (s.store.performAll operations fs).1 ++ _ = _
    rw [results, ih after]

/-- **A store in a file works like one in memory.** There is room for its file, and the file is not
there or holds an object of texts. Whatever is done in any number of sessions succeeds and comes to
what it comes to in memory, on the table of the object, in which the last text of a name counts. -/
theorem sessions_refine {path : String} (ready : Ready ⟨path⟩ fs) (holds : Holds ⟨path⟩ fs entries)
    (sessions : List (List Operation)) :
    (FileStore.sessions path sessions fs).1 =
        (Table.store.performAll sessions.flatten (.ofEntries entries)).1 ∧
      (∀ result ∈ (FileStore.sessions path sessions fs).1, ∃ found, result = .ok found) ∧
      ∀ name, (Table.ofEntries entries).get? name = entries.reverse.lookup name := by
  have serves : Serves ⟨path⟩ fs (.ofEntries entries) :=
    ⟨ready, ready.load holds, Table.ordered_ofEntries entries⟩
  have same := serves.sessions sessions
  refine ⟨same, fun result there => ?_, Table.get?_ofEntries entries⟩
  rw [same] at there
  exact Table.exists_of_mem_performAll there

namespace Sample

/-- A file in a directory. -/
def desk (content : String) : Files where
  entries := [(["home"], .directory), (["home", "data"], .directory),
    (["home", "data", "visits.json"], .file (Text.encode content))]
  current := ["home"]

theorem ready_desk (content : String) : Ready ⟨"data/visits.json"⟩ (desk content) := by
  have last : (FileStore.mk "data/visits.json").target.last = "visits.json" := by decide
  refine ⟨by decide, by decide, by decide, by decide,
    desk content, ["home", "data"], .of_walk (by with_unfolding_all rfl), ?_, ?_⟩
  · rw [last]
    nofun
  · rw [last]
    nofun

/-- A name twice, the second time with an escape in its text. -/
def twice : String := r#"{"k":"1","k":"\u00e9"}"#

theorem isObject_twice : Table.IsObject [("k", "1"), ("k", "é")] twice.toList := by
  have blank : Table.IsBlank [] := by simp [Table.IsBlank]
  have key : Json.Quoted ['k'] "k".toList := .plain (by decide) (by decide) (by decide) .nil
  have plain : Json.Quoted ['1'] "1".toList := .plain (by decide) (by decide) (by decide) .nil
  have digits : Json.IsHex4 ['0', '0', 'e', '9'] 0xE9 :=
    @Json.IsHex4.digits '0' '0' 'e' '9' 0 0 14 9 (.inl rfl) (.inl rfl) (.inl rfl) (.inl rfl)
  have code : Json.Quoted ['\\', 'u', '0', '0', 'e', '9'] "é".toList :=
    .code digits (.inl (by decide)) .nil
  have first :=
    @Table.IsMember.member "k" "1" [] [] [] [] _ _ ⟨blank, blank, blank, blank⟩ key plain
  have last :=
    @Table.IsMember.member "k" "é" [] [] [] [] _ _ ⟨blank, blank, blank, blank⟩ key code
  exact @Table.IsObject.members _ [] _ [] ⟨blank, blank⟩ (.more first (.last last))

/-- The file is closed and opened in between. -/
def reopened : List (List Operation) :=
  [[.get "k", .edit (.set "\"" "a\n🏡")], [.edit (.remove "k"), .get "k", .get "\""]]

/-- A directory with nothing in it. -/
def empty : Files := ⟨[(["home"], .directory)], ["home"]⟩

/-- A name of so many bytes. -/
def name (n : Nat) : String := String.ofList (List.replicate n 'k')

theorem size_name (n : Nat) : (name n).utf8ByteSize = n := by
  have wide : 'k'.utf8Size = 1 := rfl
  rw [name, Files.Path.utf8ByteSize_ofList, List.length_flatMap]
  simp [wide]

theorem target_name {n : Nat} (long : 2 ≤ n) :
    (FileStore.mk (name n)).target = ⟨false, [name n], .nothing, n⟩ := by
  have noSlash : '/' ∉ (name n).toList := by
    rw [name, String.toList_ofList, List.mem_replicate]
    exact fun there => absurd there.2 (by decide)
  have other {text : String} (short : text.utf8ByteSize < 2) : name n ≠ text := by
    rintro rfl
    rw [size_name] at short
    omega
  have target := Files.Path.ofText_of_noSlash noSlash (other (by decide)) (other (by decide))
  rwa [size_name] at target

theorem sound_name {n : Nat} (long : 2 ≤ n) (short : n < Files.sizeLimit) :
    (FileStore.mk (name n)).target.fault? = none := by
  rw [target_name long, Files.Path.fault?_eq_none_iff]
  refine ⟨fun part there => ?_, short⟩
  rw [List.mem_singleton.mp there, name, String.toList_ofList, List.mem_replicate]
  exact fun null => absurd null.2 (by decide)

end Sample

/-- The second one of two texts counts, and a text with a line break and a house is found again. -/
theorem sessions_refine_reopened :
    (FileStore.sessions "data/visits.json" Sample.reopened (Sample.desk Sample.twice)).1 =
      [.ok (.text (some "é")), .ok .changed, .ok .changed, .ok (.text none),
        .ok (.text (some "a\n🏡"))] := by
  have content : (Sample.desk Sample.twice).content? (FileStore.mk "data/visits.json").target =
      some (Text.encode Sample.twice) := by
    with_unfolding_all rfl
  obtain ⟨same, -⟩ := sessions_refine (Sample.ready_desk Sample.twice)
    (.object content Sample.isObject_twice) Sample.reopened
  rw [same]
  with_unfolding_all rfl

/-- **Where there is room for a file but not for the one beside, nothing can be kept.** The path
names a file that is not there, in a directory that is, and there is nothing at the place beside.
In memory, the same change succeeds. -/
theorem set_long :
    (FileStore.mk (Sample.name 252)).target.endsInName = true ∧
      Sample.empty.locate (FileStore.mk (Sample.name 252)).target =
        .ok (["home", Sample.name 252], none) ∧
      Sample.empty.at? ["home", Sample.name 252 ++ ".tmp"] = none ∧
      Holds ⟨Sample.name 252⟩ Sample.empty [] ∧
      (FileStore.sessions (Sample.name 252) [[.edit (.set "k" "v")]] Sample.empty).1 =
        [.error (.storage (.file (Sample.name 252) .tooLong))] ∧
      (Table.store.performAll [.edit (.set "k" "v")] (.ofEntries [])).1 = [.ok .changed] := by
  have target := Sample.target_name (n := 252) (by decide)
  have sound := Sample.sound_name (n := 252) (by decide) (by decide)
  have size := Sample.size_name 252
  generalize Sample.name 252 = name at *
  have plain : name ≠ "." ∧ name ≠ ".." := by
    constructor <;> rintro rfl <;> cases size
  have last : (FileStore.mk name).target.last = name := by rw [target]; rfl
  have width : (FileStore.mk name).target.size = 252 := by rw [target]
  have named : (FileStore.mk name).target.endsInName = true := by
    simp [target, Files.Path.endsInName, plain]
  -- the directory is there, and nothing in it
  have leads : Files.Leads Sample.empty (Sample.empty.start (FileStore.mk name).target)
      (FileStore.mk name).way Sample.empty ["home"] := by
    rw [way, target]
    exact .here
  have nothing (other : String) : Sample.empty.at? ["home", other] = none := rfl
  have located : Sample.empty.locate (FileStore.mk name).target = .ok (["home", name], none) :=
    leads.locate sound (by rw [way, target]; rfl) plain (size ▸ by decide)
  have missing : Sample.empty.read (FileStore.mk name).target = .error .missing := by
    rw [Files.read, located]
  have absent : Sample.empty.content? (FileStore.mk name).target = none := by
    rw [Files.content?, missing]
    rfl
  have fails (edit : Edit) : (FileStore.mk name).store.edit edit Sample.empty =
      ⟨.error (.storage (.file name .tooLong)), Sample.empty, []⟩ := by
    rw [edit_store]
    exact update_of_long (load_of_missing missing) (by rw [target]) sound
      (by rw [width]; decide) leads (by rw [last, size]; decide) edit.change
  have performs (edit : Edit) : (FileStore.mk name).store.perform (.edit edit) Sample.empty =
      ⟨.error (.storage (.file name .tooLong)), Sample.empty, []⟩ :=
    Task.bind_of_error _ (fails edit)
  refine ⟨named, located, nothing _, .nothing absent, ?_, rfl⟩
  rw [sessions, KeyStore.performAll, performs]
  rfl

end FileStore

end Brokerage
