import Brokerage.Proofs.Store.Refinement

/-!
# Stores that mirror tables

What is built on a store does not care which one it is, as long as the store mirrors a table:
looking up and changing succeed and come to what they come to on the table (`KeyStore.Mirrors`).
The store in memory is a table. A store in a file mirrors the table in it, and if the file holds
any other text, the empty one, which it is from the first change on (`FileStore.mirrors`,
`FileStore.Ready.carries`).
-/

namespace Brokerage

variable {σ α β : Type} {mirror : σ → Table → Prop} {s : σ} {t t' t'' : Table} {a : α} {b : β}

/-- A task succeeds with this result and leaves the store with this table. -/
def Task.Yields (mirror : σ → Table → Prop) (task : Task σ α) (s : σ) (a : α) (t : Table) : Prop :=
  ∃ s' events, task s = ⟨.ok a, s', events⟩ ∧ mirror s' t

namespace Task.Yields

variable {task : Task σ α} {next : α → Task σ β}

theorem pure (a : α) (here : mirror s t) : Yields mirror (Task.pure a) s a t :=
  ⟨s, [], rfl, here⟩

/-- A report makes no difference. -/
theorem report {task : Task σ α} (event : Log.Event) (h : Yields mirror task s a t) :
    Yields mirror (Task.report event >>= fun _ => task) s a t := by
  obtain ⟨s', events, done, there⟩ := h
  have reported : Task.report event s = ⟨.ok (), s, [event]⟩ := rfl
  refine ⟨s', [event] ++ events, ?_, there⟩
  rw [Task.bind_of_ok _ reported, done]

/-- One task after the other. -/
theorem bind (first : Yields mirror task s a t')
    (second : ∀ s', mirror s' t' → Yields mirror (next a) s' b t'') :
    Yields mirror (task >>= next) s b t'' := by
  obtain ⟨s', events, done, there⟩ := first
  obtain ⟨s'', events', done', there'⟩ := second s' there
  refine ⟨s'', events ++ events', ?_, there'⟩
  rw [Task.bind_of_ok _ done, done']

end Task.Yields

/-- A store mirrors tables. -/
structure KeyStore.Mirrors (store : KeyStore σ) (mirror : σ → Table → Prop) : Prop where
  get : ∀ {s t}, mirror s t → ∀ name, Task.Yields mirror (store.get name) s (t.get? name) t
  edit : ∀ {s t}, mirror s t → ∀ edit : Edit,
    Task.Yields mirror (store.edit edit) s () (edit.change t)

namespace KeyStore.Mirrors

variable {store : KeyStore σ}

theorem get_result (mirrors : store.Mirrors mirror) (here : mirror s t) (name : String) :
    (store.get name s).result = .ok (t.get? name) := by
  obtain ⟨s', events, done, -⟩ := mirrors.get here name
  rw [done]

/-- One operation comes to the same on the store and on the table. -/
theorem perform (mirrors : store.Mirrors mirror) (here : mirror s t) (operation : Operation) :
    Task.Yields mirror (store.perform operation) s (t.answer operation) (t.after operation) := by
  cases operation with
  | get name => exact (mirrors.get here name).bind fun s' there => .pure _ there
  | edit edit => exact (mirrors.edit here edit).bind fun s' there => .pure _ there

/-- Operation after operation comes to the same, and in the end the store mirrors the table. -/
theorem performAll (mirrors : store.Mirrors mirror) (here : mirror s t)
    (operations : List Operation) :
    (store.performAll operations s).1 = (Table.store.performAll operations t).1 ∧
      mirror (store.performAll operations s).2 (Table.store.performAll operations t).2 := by
  induction operations generalizing s t with
  | nil => exact ⟨rfl, here⟩
  | cons operation rest ih =>
    obtain ⟨s', events, done, there⟩ := mirrors.perform here operation
    obtain ⟨answer, after⟩ := t.perform_store operation
    rw [← after] at there
    obtain ⟨results, last⟩ := ih there
    simp only [KeyStore.performAll, done, answer, results]
    exact ⟨trivial, last⟩

end KeyStore.Mirrors

/-- The store in memory is a table. -/
theorem Table.mirrors : Table.store.Mirrors Eq where
  get := by
    rintro t _ rfl name
    exact ⟨t, [], rfl, rfl⟩
  edit := by
    rintro t _ rfl edit
    cases edit with
    | set name text => exact ⟨_, [], rfl, rfl⟩
    | remove name => exact ⟨_, [], rfl, rfl⟩

/-! ### Whatever a file holds -/

/-- Entries are put in their places while they are read. -/
theorem Table.ordered_of_readEntries {n : Nat} {first : Bool} {bs rest : Bytes}
    (ordered : t.Ordered)
    (read : Table.readEntries n first t bs = .ok (t', rest)) : t'.Ordered := by
  induction n generalizing first t bs with
  | zero => cases read
  | succ n ih =>
    rw [readEntries] at read
    split at read
    · cases read
    · -- the closing bracket
      cases closed : Json.closeBracket .object bs with
      | error e =>
        rw [closed] at read
        cases read
      | ok rest' =>
        rw [closed] at read
        cases read
        exact ordered
    · -- an entry: its name, a colon and its text
      split at read
      · cases read
      split at read
      · cases read
      split at read
      · cases read
      · exact ih (ordered.insert _ _) read

/-- Every table that is read is in order. -/
theorem Table.ordered_of_ofBytes {bs : Bytes} (read : Table.ofBytes bs = .ok t) : t.Ordered := by
  rw [Table.ofBytes, Json.readAll] at read
  split at read
  · next found rest whole =>
    rw [Table.read] at whole
    split at read
    · cases read
      split at whole
      · cases whole
      · split at whole
        · exact ordered_of_readEntries ordered_empty whole
        · cases whole
    · cases read
  · cases read

/-- The table that a text counts as: the empty one, if it is not the text of a table. -/
def Table.ofText (text : String) : Table :=
  (Table.ofBytes (Text.encode text)).toOption.getD .empty

namespace FileStore

variable {s : FileStore} {fs : Files}

/-- A store in a file that can go on, and the table that it reads there, if with a report. -/
structure Carries (s : FileStore) (fs : Files) (t : Table) : Prop where
  ready : Ready s fs
  ordered : t.Ordered
  loaded : ∃ events, s.load fs = ⟨.ok t, fs, events⟩

/-- **A store in a file mirrors the table that it reads there.** -/
theorem mirrors (s : FileStore) : s.store.Mirrors s.Carries where
  get := by
    rintro fs t carries name
    obtain ⟨events, loaded⟩ := carries.loaded
    have gets : s.store.get name fs = ⟨.ok (t.get? name), fs, events ++ []⟩ :=
      Task.bind_of_ok _ loaded
    exact ⟨fs, _, gets, carries⟩
  edit := by
    rintro fs t carries edit
    obtain ⟨events, loaded⟩ := carries.loaded
    obtain ⟨fs', updated, ready, content⟩ := carries.ready.update loaded edit.change
    have ordered := carries.ordered.change edit
    refine ⟨fs', events, ?_, ready, ordered, [], load_of_write ordered content⟩
    rw [edit_store, updated]

/-- **Whatever text a file holds, and if there is none**, the store has the table that
the text counts as. -/
theorem Ready.carries (ready : Ready s fs) {content : Option String}
    (here : fs.content? s.target = content.map Text.encode) :
    Carries s fs (content.elim .empty Table.ofText) := by
  cases content with
  | none => exact ⟨ready, Table.ordered_empty, [], load_of_missing (ready.missing here)⟩
  | some text =>
    have read := Files.content?_eq_some_iff.mp here
    show Carries s fs (Table.ofText text)
    cases table : Table.ofBytes (Text.encode text) with
    | ok t =>
      have found : Table.ofText text = t := by
        rw [Table.ofText, table]
        rfl
      rw [found]
      refine ⟨ready, Table.ordered_of_ofBytes table, [], ?_⟩
      rw [FileStore.load, read]
      simp only [Text.decode?_encode, table]
    | error e =>
      have found : Table.ofText text = .empty := by
        rw [Table.ofText, table]
        rfl
      rw [found]
      refine ⟨ready, Table.ordered_empty, [s.discarded], ?_⟩
      rw [FileStore.load, read]
      simp only [Text.decode?_encode, table]

end FileStore

end Brokerage
