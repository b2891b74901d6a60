import Brokerage.Proofs.Store.Exact
import Brokerage.Proofs.Store.Mirror

/-!
# Files that hold something else

A file may hold something that is not an object of texts (`Foreign`). If it is some other text, the
file counts as empty: what is done with the store comes to what it comes to on an empty table
(`Foreign.sessions`), and the first change makes the file an object with this one entry
(`Foreign.set`). If the bytes are not a text at all, the file does not count as empty: nothing that
is done with the store succeeds, and the file stays as it is (`sessions_of_notText`).
-/

namespace Brokerage

namespace FileStore

variable {s : FileStore} {fs : Files} {content : Bytes} {text : String}

/-- A content that is not the text of an object all of whose values are strings. -/
def Foreign (content : Bytes) : Prop :=
  ∀ text entries, content = Text.encode text → ¬ Table.IsObject entries text.toList

/-! ### Other texts -/

/-- They are the texts that are not read as tables. -/
theorem foreign_encode_iff :
    Foreign (Text.encode text) ↔ ∃ e, Table.ofBytes (Text.encode text) = .error e := by
  constructor
  · intro foreign
    cases read : Table.ofBytes (Text.encode text) with
    | error e => exact ⟨e, rfl⟩
    | ok t =>
      obtain ⟨entries, object, -⟩ := Table.ofBytes_eq_ok_iff.mp read
      exact absurd object (foreign text entries rfl)
  · rintro ⟨e, fault⟩ other entries same object
    rw [same, Table.ofBytes_eq_ok_iff.mpr ⟨entries, object, rfl⟩] at fault
    cases fault

/-- A file with some other text is read as the empty table, with a report. -/
theorem Foreign.load (foreign : Foreign (Text.encode text))
    (holds : fs.content? s.target = some (Text.encode text)) :
    s.load fs = ⟨.ok .empty, fs, [s.discarded]⟩ := by
  obtain ⟨e, fault⟩ := foreign_encode_iff.mp foreign
  rw [FileStore.load, Files.content?_eq_some_iff.mp holds]
  simp only [Text.decode?_encode, fault]

theorem Foreign.get (foreign : Foreign (Text.encode text))
    (holds : fs.content? s.target = some (Text.encode text)) (name : String) :
    s.store.get name fs = ⟨.ok none, fs, [s.discarded]⟩ :=
  Task.bind_of_ok _ (foreign.load holds)

/-- The first change makes the file an object with one entry, and the store is ready for the next
one. -/
theorem Foreign.set (foreign : Foreign (Text.encode text)) (ready : Ready s fs)
    (holds : fs.content? s.target = some (Text.encode text)) (name value : String) :
    ∃ fs', s.store.set name value fs = ⟨.ok (), fs', [s.discarded]⟩ ∧ Ready s fs' ∧
      Holds s fs' [(name, value)] := by
  obtain ⟨fs', updated, ready', content⟩ :=
    ready.update (foreign.load holds) (Edit.change (.set name value))
  obtain ⟨text', bytes, object⟩ := Table.exists_isObject (Table.empty.insert name value)
  exact ⟨fs', updated, ready', .object (content.trans (congrArg some bytes)) object⟩

/-- What is found when one entry is there. -/
theorem Ready.get_one {name value : String} (ready : Ready s fs)
    (holds : Holds s fs [(name, value)]) (other : String) :
    s.store.get other fs = ⟨.ok (if other = name then some value else none), fs, []⟩ := by
  have one : (Table.ofEntries [(name, value)]).get? other =
      if other = name then some value else none :=
    Table.get?_insert .empty name value other
  rw [← one]
  exact Task.bind_of_ok _ (ready.load holds)

/-- However often the store is opened, everything comes to what it comes to on an empty table. -/
theorem Foreign.sessions {path : String} (foreign : Foreign (Text.encode text))
    (ready : Ready ⟨path⟩ fs)
    (holds : fs.content? (FileStore.mk path).target = some (Text.encode text))
    (sessions : List (List Operation)) :
    (FileStore.sessions path sessions fs).1 =
      (Table.store.performAll sessions.flatten .empty).1 := by
  have carries : Carries ⟨path⟩ fs .empty :=
    ⟨ready, Table.ordered_empty, _, foreign.load holds⟩
  generalize Table.empty = t at carries
  clear ready holds
  induction sessions generalizing fs t with
  | nil => rfl
  | cons operations rest ih =>
    obtain ⟨results, after⟩ := (FileStore.mk path).mirrors.performAll carries operations
    rw [List.flatten_cons, KeyStore.performAll_append]
    show ((FileStore.mk path).store.performAll operations fs).1 ++ _ = _
    rw [results, ih _ after]

/-! ### Bytes that are no text -/

/-- The bytes of a text are those that are read as one. -/
theorem decode?_eq_none_iff :
    Text.decode? content = none ↔ ∀ text, content ≠ Text.encode text := by
  constructor
  · rintro unread text rfl
    rw [Text.decode?_encode] at unread
    cases unread
  · intro noText
    rw [Text.decode?, String.fromUTF8?]
    split
    · next valid => exact absurd rfl (noText (String.fromUTF8 ⟨content.toArray⟩ valid))
    · rfl

/-- A file whose bytes are no text cannot be read. -/
theorem load_of_notText (noText : ∀ text, content ≠ Text.encode text)
    (holds : fs.content? s.target = some content) :
    s.load fs = ⟨.error (s.error .notText), fs, []⟩ := by
  rw [load, Files.content?_eq_some_iff.mp holds]
  simp only [decode?_eq_none_iff.mpr noText]

/-- Nothing that is done with it succeeds or changes a file. -/
theorem perform_of_notText (noText : ∀ text, content ≠ Text.encode text)
    (holds : fs.content? s.target = some content) (operation : Operation) :
    s.store.perform operation fs = ⟨.error (s.error .notText), fs, []⟩ := by
  have loaded := load_of_notText noText holds
  cases operation with
  | get name =>
    have gets : s.store.get name fs = ⟨.error (s.error .notText), fs, []⟩ :=
      Task.bind_of_error _ loaded
    exact Task.bind_of_error _ gets
  | edit edit =>
    have edits : s.store.edit edit fs = ⟨.error (s.error .notText), fs, []⟩ := by
      rw [edit_store]
      exact Task.bind_of_error _ loaded
    exact Task.bind_of_error _ edits

/-- One operation after the other fails. -/
theorem performAll_of_notText (noText : ∀ text, content ≠ Text.encode text)
    (holds : fs.content? s.target = some content) (operations : List Operation) :
    s.store.performAll operations fs =
      (operations.map fun _ => .error (s.error .notText), fs) := by
  induction operations with
  | nil => rfl
  | cons operation rest ih =>
    rw [KeyStore.performAll, perform_of_notText noText holds]
    simp only [ih, List.map_cons]

/-- **However often the store is opened, nothing succeeds, and the files stay as they are.** -/
theorem sessions_of_notText {path : String} (noText : ∀ text, content ≠ Text.encode text)
    (holds : fs.content? (FileStore.mk path).target = some content)
    (sessions : List (List Operation)) :
    FileStore.sessions path sessions fs =
      (sessions.flatten.map fun _ => .error ((FileStore.mk path).error .notText), fs) := by
  induction sessions with
  | nil => rfl
  | cons operations rest ih =>
    rw [FileStore.sessions, performAll_of_notText noText holds]
    simp only [ih, List.flatten_cons, List.map_append]

/-! ### Whatever a file holds -/

/-- **A file that does not hold an object of texts.** There is room for the file of a store, and it
holds something else. If that is a text, the file counts as empty: nothing is found under any name,
each change succeeds and makes the file an object with this one entry, which is found then and
nothing else is, and however often the store is opened, everything comes to what it comes to on an
empty table. If it is no text, nothing at all succeeds or changes a file. -/
theorem open_of_foreign {path : String} (ready : Ready ⟨path⟩ fs)
    (holds : fs.content? (FileStore.mk path).target = some content) (foreign : Foreign content) :
    (∀ text, content = Text.encode text →
      (∀ name, (FileStore.mk path).store.get name fs =
        ⟨.ok none, fs, [(FileStore.mk path).discarded]⟩) ∧
      (∀ name value, ∃ fs', (FileStore.mk path).store.set name value fs =
          ⟨.ok (), fs', [(FileStore.mk path).discarded]⟩ ∧
        Holds ⟨path⟩ fs' [(name, value)] ∧
        ∀ other, (FileStore.mk path).store.get other fs' =
          ⟨.ok (if other = name then some value else none), fs', []⟩) ∧
      ∀ sessions, (FileStore.sessions path sessions fs).1 =
        (Table.store.performAll sessions.flatten .empty).1) ∧
    ((∀ text, content ≠ Text.encode text) →
      (∀ operation, (FileStore.mk path).store.perform operation fs =
        ⟨.error (.storage (.file path .notText)), fs, []⟩) ∧
      ∀ sessions, FileStore.sessions path sessions fs =
        (sessions.flatten.map fun _ => .error (.storage (.file path .notText)), fs)) := by
  refine ⟨fun text same => ?_, fun noText => ?_⟩
  · subst same
    refine ⟨foreign.get holds, fun name value => ?_, foreign.sessions ready holds⟩
    obtain ⟨fs', done, ready', holds'⟩ := foreign.set ready holds name value
    exact ⟨fs', done, holds', ready'.get_one holds'⟩
  · exact ⟨perform_of_notText noText holds, sessions_of_notText noText holds⟩

namespace Sample

/-- A file of one byte that is in no text. -/
def noise : Files where
  entries := [(["home"], .directory), (["home", "visits.json"], .file [0xFF])]
  current := ["home"]

theorem ready_noise : Ready ⟨"visits.json"⟩ noise := by
  have last : (FileStore.mk "visits.json").target.last = "visits.json" := by decide
  refine ⟨by decide, by decide, by decide, by decide,
    noise, ["home"], .of_walk (by with_unfolding_all rfl), ?_, ?_⟩
  · rw [last]
    nofun
  · rw [last]
    nofun

theorem noText_noise (text : String) : [0xFF] ≠ Text.encode text :=
  decode?_eq_none_iff.mp (by with_unfolding_all rfl) text

end Sample

/-- An object that breaks off counts as empty, and the byte that is in no text does not. -/
theorem open_of_foreign_torn :
    (FileStore.sessions "data/visits.json" [[.get "k"], [.edit (.set "k" "v"), .get "k"]]
        (Sample.desk r#"{"k":"1""#)).1 =
      [.ok (.text none), .ok .changed, .ok (.text (some "v"))] ∧
    (FileStore.sessions "visits.json" [[.get "k"], [.edit (.set "k" "v")]] Sample.noise).1 =
      [.error (.storage (.file "visits.json" .notText)),
        .error (.storage (.file "visits.json" .notText))] := by
  have content : (Sample.desk r#"{"k":"1""#).content? (FileStore.mk "data/visits.json").target =
      some (Text.encode r#"{"k":"1""#) := by
    with_unfolding_all rfl
  have torn : Foreign (Text.encode r#"{"k":"1""#) :=
    foreign_encode_iff.mpr ⟨.ended, by with_unfolding_all rfl⟩
  have content' : Sample.noise.content? (FileStore.mk "visits.json").target = some [0xFF] := by
    with_unfolding_all rfl
  obtain ⟨counts, -⟩ := open_of_foreign (Sample.ready_desk _) content torn
  obtain ⟨-, fails⟩ := open_of_foreign Sample.ready_noise content'
    fun text entries same => absurd same (Sample.noText_noise text)
  refine ⟨?_, ?_⟩
  · rw [(counts _ rfl).2.2]
    with_unfolding_all rfl
  · rw [(fails Sample.noText_noise).2]
    rfl

/-- **A byte that is in no text is not an object of texts, but it does not count as empty**: where
it is the file, nothing can be looked up, and no change succeeds. -/
theorem noise_kept :
    Ready ⟨"visits.json"⟩ Sample.noise ∧
      Sample.noise.content? (FileStore.mk "visits.json").target = some [0xFF] ∧ Foreign [0xFF] ∧
      ∀ name value, ((FileStore.mk "visits.json").store.get name Sample.noise).result =
          .error (.storage (.file "visits.json" .notText)) ∧
        ((FileStore.mk "visits.json").store.set name value Sample.noise).result =
          .error (.storage (.file "visits.json" .notText)) := by
  have content : Sample.noise.content? (FileStore.mk "visits.json").target = some [0xFF] := by
    with_unfolding_all rfl
  have loaded := load_of_notText Sample.noText_noise content
  refine ⟨Sample.ready_noise, content, fun text _ same => absurd same (Sample.noText_noise text),
    fun name value => ?_⟩
  have gets : (FileStore.mk "visits.json").store.get name Sample.noise = _ :=
    Task.bind_of_error _ loaded
  have sets : (FileStore.mk "visits.json").store.set name value Sample.noise = _ :=
    Task.bind_of_error _ loaded
  rw [gets, sets]
  exact ⟨rfl, rfl⟩

end FileStore

end Brokerage
