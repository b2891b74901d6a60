import Brokerage.Attribution.Tracker
import Brokerage.Proofs.Store.Refinement
import Brokerage.Proofs.Ulid

/-!
# Callers who ask for the visit's identifier at the same time

A store looks up one text, or keeps one, at a time. `Tracker.visitId` does the one and, if it has
found no identifier, the other, and between the two another caller who shares the store may take a
turn. So several callers may find nothing before any of them has kept anything, and then each of
them keeps and gets an identifier of its own (`visits_divided`).

How far callers can disagree is a matter of accounting: every identifier that was kept is put down
with the caller who kept it (`Visits.stored`). What callers get is the identifier that was there
from the start or one that was put down, and every one that was put down is what its caller gets
(`Accounted`). Once there is an identifier, nobody who has not looked yet will keep one (`Late`).
Hence callers agree exactly if no two of those who came too early for that kept different
identifiers (`visits_of_turns`).
-/

namespace Brokerage

/-! ### Stores that keep a text -/

/-- A store keeps the text under a name: what is looked up is the text that was kept last, and what
cannot be kept leaves it alone. Looking up and keeping may fail. All of this is said of the states
in which all is well with the store. -/
structure KeyStore.Keeps {σ : Type} (store : KeyStore σ) (name : String) (well : σ → Prop)
    (text? : σ → Option String) : Prop where
  well_get : ∀ {s}, well s → well (store.get name s).store
  get_store : ∀ {s}, well s → text? (store.get name s).store = text? s
  get_ok : ∀ {s found}, well s → (store.get name s).result = .ok found → found = text? s
  well_set : ∀ {s} text, well s → well (store.set name text s).store
  set_ok : ∀ {s text}, well s → (store.set name text s).result = .ok () →
    text? (store.set name text s).store = some text
  set_error : ∀ {s text e}, well s → (store.set name text s).result = .error e →
    text? (store.set name text s).store = text? s

/-- The store in memory does. -/
theorem Table.keeps (name : String) : Table.store.Keeps name (fun _ => True) (·.get? name) where
  well_get := id
  get_store _ := rfl
  get_ok _ found := (Except.ok.inj found).symm
  well_set _ := id
  set_ok {t text} _ _ := by
    show (t.insert name text).get? name = some text
    rw [get?_insert, if_pos rfl]
  set_error _ failed := by cases failed

namespace FileStore

variable {s : FileStore} {fs : Files} {t : Table}

/-- Looking up a text in a file comes to what it comes to on the table in it. -/
theorem Serves.get (serves : Serves s fs t) (name : String) :
    s.store.get name fs = ⟨.ok (t.get? name), fs, []⟩ :=
  Task.bind_of_ok _ serves.loaded

/-- Keeping a text in a file succeeds, and the file has the table with the text then. -/
theorem Serves.set (serves : Serves s fs t) (name text : String) :
    ∃ fs', s.store.set name text fs = ⟨.ok (), fs', []⟩ ∧ Serves s fs' (t.insert name text) := by
  obtain ⟨fs', updated, ready, content⟩ := serves.ready.update serves.loaded (·.insert name text)
  have ordered := serves.ordered.insert name text
  exact ⟨fs', updated, ready, load_of_write ordered content, ordered⟩

/-- So does one in a file, where it works like one in memory. -/
theorem keeps (s : FileStore) (name : String) :
    s.store.Keeps name (fun fs => ∃ t, Serves s fs t)
      (fun fs => (s.load fs).result.toOption.bind (·.get? name)) where
  well_get := by
    rintro fs ⟨t, serves⟩
    rw [get_store]
    exact ⟨t, serves⟩
  get_store _ := by rw [get_store]
  get_ok := by
    rintro fs found ⟨t, serves⟩ ok
    rw [serves.get] at ok
    rw [serves.loaded]
    exact (Except.ok.inj ok).symm
  well_set := by
    rintro fs text ⟨t, serves⟩
    obtain ⟨fs', set, serves'⟩ := serves.set name text
    rw [set]
    exact ⟨_, serves'⟩
  set_ok := by
    rintro fs text ⟨t, serves⟩ -
    obtain ⟨fs', set, serves'⟩ := serves.set name text
    rw [set]
    show (s.load fs').result.toOption.bind (·.get? name) = some text
    rw [serves'.loaded]
    show (t.insert name text).get? name = some text
    rw [Table.get?_insert, if_pos rfl]
  set_error := by
    rintro fs text e ⟨t, serves⟩ failed
    obtain ⟨fs', set, -⟩ := serves.set name text
    rw [set] at failed
    exact absurd failed nofun

end FileStore

namespace Tracker

variable {σ : Type} {store : KeyStore σ} {well : σ → Prop} {text? : σ → Option String}
variable {i j : Nat} {fresh id : VisitId}

/-! ### Looking and keeping -/

/-- An identifier that was kept is found again. -/
theorem idOf?_write (id : VisitId) : idOf? (some id.write) = some id := by
  rw [idOf?, Option.bind_some, VisitId.write, Ulid.parse_write]
  rfl

/-- Looking uses the store once. -/
theorem findId_eq (store : KeyStore σ) (s : σ) :
    (findId store s).result = (store.get visitKey s).result.map idOf? ∧
      (findId store s).store = (store.get visitKey s).store := by
  show (Task.bind (store.get visitKey) (fun found => Task.pure (idOf? found)) s).result = _ ∧
    (Task.bind (store.get visitKey) (fun found => Task.pure (idOf? found)) s).store = _
  rw [Task.bind]
  cases (store.get visitKey s).result with
  | error e => exact ⟨rfl, rfl⟩
  | ok found => exact ⟨rfl, rfl⟩

/-- So does keeping. -/
theorem keepId_eq (store : KeyStore σ) (id : VisitId) (s : σ) :
    (keepId store id s).result = (store.set visitKey id.write s).result.map (fun _ => id) ∧
      (keepId store id s).store = (store.set visitKey id.write s).store := by
  show (Task.bind (store.set visitKey id.write) (fun _ => Task.pure id) s).result = _ ∧
    (Task.bind (store.set visitKey id.write) (fun _ => Task.pure id) s).store = _
  rw [Task.bind]
  cases (store.set visitKey id.write s).result with
  | error e => exact ⟨rfl, rfl⟩
  | ok _ => exact ⟨rfl, rfl⟩

/-! ### Callers -/

/-- How far a caller has come. -/
inductive Progress where
  | coming
  /-- It has looked and found no identifier. -/
  | missed
  | done (result : Except Error VisitId)

/-- How far a caller has come that has looked with this result. -/
def Progress.ofLook : Except Error (Option VisitId) → Progress
  | .error e => .done (.error e)
  | .ok (some id) => .done (.ok id)
  | .ok none => .missed

/-- A caller, with the identifier that it keeps if it finds none. -/
structure Caller where
  fresh : VisitId
  progress : Progress

/-- Callers who share a store. -/
structure Visits (σ : Type) where
  store : σ
  callers : List Caller
  /-- The identifiers that were kept, in their order, each with the caller who kept it. -/
  stored : List (Nat × VisitId) := []

namespace Visits

/-- The callers with one of them further on. -/
def advance (v : Visits σ) (i : Nat) (progress : Progress) : Visits σ :=
  { v with callers := v.callers.modify i fun caller => { caller with progress := progress } }

/-- A caller takes its turn, in which it looks for an identifier or keeps its own. -/
def turn (store : KeyStore σ) (v : Visits σ) (i : Nat) : Visits σ :=
  match v.callers[i]? with
  | some ⟨_, .coming⟩ =>
    let o := findId store v.store
    { v with store := o.store }.advance i (.ofLook o.result)
  | some ⟨fresh, .missed⟩ =>
    let o := keepId store fresh v.store
    let kept := o.result.toOption.toList.map ((i, ·))
    { v with store := o.store, stored := v.stored ++ kept }.advance i (.done o.result)
  | _ => v

/-- Callers take their turns in some order. -/
def turns (store : KeyStore σ) (v : Visits σ) (order : List Nat) : Visits σ :=
  order.foldl (turn store) v

/-- Callers who have not looked yet, with the identifiers that they would keep. -/
def start (s : σ) (fresh : List VisitId) : Visits σ where
  store := s
  callers := fresh.map (⟨·, .coming⟩)

/-- A caller gets an identifier. -/
def Got (v : Visits σ) (id : VisitId) : Prop :=
  ∃ (i : Nat) (fresh : VisitId), v.callers[i]? = some ⟨fresh, .done (.ok id)⟩

variable {v v' : Visits σ}

theorem getElem?_advance {caller : Caller} (here : v.callers[i]? = some caller) (p : Progress) :
    (v.advance i p).callers[i]? = some ⟨caller.fresh, p⟩ := by
  rw [advance, List.getElem?_modify_eq, here]
  rfl

/-- That a caller gets on is not noticed by another one. -/
theorem getElem?_advance_ne (other : i ≠ j) (p : Progress) :
    (v.advance i p).callers[j]? = v.callers[j]? :=
  List.getElem?_modify_ne _ _ other

/-- A caller who is done takes no more turns. -/
theorem turn_of_done {result : Except Error VisitId}
    (done : v.callers[i]? = some ⟨fresh, .done result⟩) : v.turn store i = v := by
  rw [turn, done]

/-- **Two turns of a caller, one after the other, are all that it asks for.** -/
theorem turn_turn (here : v.callers[i]? = some ⟨fresh, .coming⟩) :
    ((v.turn store i).turn store i).store = (visitId store fresh v.store).store ∧
      ((v.turn store i).turn store i).callers[i]? =
        some ⟨fresh, .done (visitId store fresh v.store).result⟩ := by
  have look : v.turn store i = { v with store := (findId store v.store).store }.advance i
      (.ofLook (findId store v.store).result) := by
    rw [turn, here]
  have looked := getElem?_advance (v := { v with store := (findId store v.store).store }) here
    (.ofLook (findId store v.store).result)
  rw [← look] at looked
  show _ = (Task.bind (findId store) _ v.store).store ∧
    ((v.turn store i).turn store i).callers[i]? =
      some (Caller.mk fresh (.done (Task.bind (findId store) _ v.store).result))
  rw [Task.bind]
  cases found : (findId store v.store).result with
  | error e =>
    rw [found] at look looked
    rw [turn_of_done looked]
    exact ⟨congrArg Visits.store look, looked⟩
  | ok id? =>
    cases id? with
    | some id =>
      rw [found] at look looked
      rw [turn_of_done looked]
      exact ⟨congrArg Visits.store look, looked⟩
    | none =>
      rw [found] at look looked
      have after : (v.turn store i).store = (findId store v.store).store :=
        congrArg Visits.store look
      rw [turn, looked]
      show (keepId store fresh (v.turn store i).store).store = _ ∧ _
      rw [after]
      exact ⟨rfl, getElem?_advance looked _⟩

/-- Who is where when a caller has got on. -/
theorem of_getElem?_advance {caller : Caller} {q p : Progress}
    (here : v.callers[i]? = some ⟨fresh, q⟩)
    (there : (v.advance i p).callers[j]? = some caller) :
    j = i ∧ caller = ⟨fresh, p⟩ ∨ j ≠ i ∧ v.callers[j]? = some caller := by
  by_cases own : j = i
  · subst own
    rw [getElem?_advance here] at there
    exact .inl ⟨rfl, (Option.some.inj there).symm⟩
  · rw [getElem?_advance_ne (Ne.symm own)] at there
    exact .inr ⟨own, there⟩

/-! ### What a turn does -/

/-- What comes of the turn of a caller, by what the store does in it. -/
inductive Turned (text? : σ → Option String) (v : Visits σ) (i : Nat) : Visits σ → Prop where
  /-- There is no such caller, or it is done. -/
  | idle : Turned text? v i v
  /-- The store fails, and the text is what it was. -/
  | failed {fresh : VisitId} {progress : Progress} {e : Error} {s : σ}
      (here : v.callers[i]? = some ⟨fresh, progress⟩)
      (alive : ∀ result, progress ≠ .done result) (same : text? s = text? v.store) :
      Turned text? v i ({ v with store := s }.advance i (.done (.error e)))
  | found {fresh id : VisitId} {s : σ} (here : v.callers[i]? = some ⟨fresh, .coming⟩)
      (there : idOf? (text? v.store) = some id) (same : text? s = text? v.store) :
      Turned text? v i ({ v with store := s }.advance i (.done (.ok id)))
  | missed {fresh : VisitId} {s : σ} (here : v.callers[i]? = some ⟨fresh, .coming⟩)
      (missing : idOf? (text? v.store) = none) (same : text? s = text? v.store) :
      Turned text? v i ({ v with store := s }.advance i .missed)
  /-- The caller does not look again before it keeps its own. -/
  | kept {fresh : VisitId} {s : σ} (here : v.callers[i]? = some ⟨fresh, .missed⟩)
      (now : text? s = some fresh.write) :
      Turned text? v i
        ({ v with store := s, stored := v.stored ++ [(i, fresh)] }.advance i (.done (.ok fresh)))

/-- Every turn is one of these, and all goes on to be well with the store. -/
theorem turned (keeps : store.Keeps visitKey well text?) (fine : well v.store) (i : Nat) :
    Turned text? v i (v.turn store i) ∧ well (v.turn store i).store := by
  rw [turn]
  split
  · next fresh here =>
    -- it looks, and the text stays what it is
    obtain ⟨result, after⟩ := findId_eq store v.store
    have same := keeps.get_store fine
    have fine' := keeps.well_get fine
    show Turned text? v i ({ v with store := (findId store v.store).store }.advance i
      (.ofLook (findId store v.store).result)) ∧ well (findId store v.store).store
    rw [result, after]
    cases found : (store.get visitKey v.store).result with
    | error e => exact ⟨.failed here nofun same, fine'⟩
    | ok text =>
      obtain rfl := keeps.get_ok fine found
      show Turned text? v i (advance _ i (.ofLook (.ok (idOf? (text? v.store))))) ∧ _
      cases there : idOf? (text? v.store) with
      | some id => exact ⟨.found here there same, fine'⟩
      | none => exact ⟨.missed here there same, fine'⟩
  · next fresh here =>
    -- it has found nothing when it looked and keeps its own now
    obtain ⟨result, after⟩ := keepId_eq store fresh v.store
    have fine' := keeps.well_set fresh.write fine
    simp only [result, after]
    cases kept : (store.set visitKey fresh.write v.store).result with
    | error e =>
      have same := keeps.set_error fine kept
      refine ⟨?_, fine'⟩
      show Turned text? v i (advance { v with store := _, stored := v.stored ++ [] } i _)
      rw [List.append_nil]
      exact .failed here nofun same
    | ok _ => exact ⟨.kept here (keeps.set_ok fine kept), fine'⟩
  · exact ⟨.idle, fine⟩

/-! ### What has been kept and what callers get -/

/-- The account of the identifiers that were kept since the text was `first`, and of those that the
callers got. -/
structure Accounted (first : Option String) (text? : σ → Option String) (v : Visits σ) : Prop where
  /-- The text is the identifier that was kept last. -/
  last : text? v.store = (v.stored.getLast?.map fun x => x.2.write).or first
  /-- Who gets an identifier gets the first one or one that was kept. -/
  got : ∀ (i : Nat) (fresh id : VisitId), v.callers[i]? = some ⟨fresh, .done (.ok id)⟩ →
    idOf? first = some id ∨ ∃ j, (j, id) ∈ v.stored
  /-- Who keeps an identifier gets it, and there was none at first. -/
  stored : ∀ (i : Nat) (id : VisitId), (i, id) ∈ v.stored →
    idOf? first = none ∧ v.callers[i]? = some ⟨id, .done (.ok id)⟩
  missed : ∀ (i : Nat) (fresh : VisitId), v.callers[i]? = some ⟨fresh, .missed⟩ →
    idOf? first = none
  /-- Nobody keeps two. -/
  once : (v.stored.map Prod.fst).Nodup

variable {first : Option String}

/-- At the start, nothing was kept and nobody has got anything. -/
theorem accounted_start (s : σ) (fresh : List VisitId) :
    Accounted (text? s) text? (start s fresh) := by
  have coming {i : Nat} {caller : Caller} (there : (start s fresh).callers[i]? = some caller) :
      caller.progress = .coming := by
    obtain ⟨f, -, rfl⟩ := List.mem_map.mp (List.mem_of_getElem? there)
    rfl
  refine ⟨rfl, fun i fresh id there => ?_, nofun, fun i fresh there => ?_, List.nodup_nil⟩
  · cases coming there
  · cases coming there

/-- The identifier in the store is the first one, or one that was kept. -/
theorem Accounted.of_idOf?_eq_some (h : Accounted first text? v)
    (there : idOf? (text? v.store) = some id) :
    idOf? first = some id ∨ ∃ j, (j, id) ∈ v.stored := by
  rw [h.last] at there
  cases last : v.stored.getLast? with
  | none =>
    rw [last] at there
    exact .inl there
  | some x =>
    rw [last, Option.map_some, Option.some_or, idOf?_write] at there
    cases there
    exact .inr ⟨x.1, List.mem_of_getLast? last⟩

/-- Where there is no identifier, there was none at first either. -/
theorem Accounted.of_idOf?_eq_none (h : Accounted first text? v)
    (missing : idOf? (text? v.store) = none) : idOf? first = none := by
  rw [h.last] at missing
  cases last : v.stored.getLast? with
  | none =>
    rw [last] at missing
    exact missing
  | some x =>
    rw [last, Option.map_some, Option.some_or, idOf?_write] at missing
    cases missing

/-- A caller who keeps nothing gets on: the account is as it was. -/
theorem Accounted.advance {s : σ} {q : Progress} (h : Accounted first text? v)
    (here : v.callers[i]? = some ⟨fresh, q⟩) (alive : ∀ result, q ≠ .done result)
    (same : text? s = text? v.store) (p : Progress)
    (got : ∀ id, p = .done (.ok id) → idOf? first = some id ∨ ∃ j, (j, id) ∈ v.stored)
    (missed : p = .missed → idOf? first = none) :
    Accounted first text? ({ v with store := s }.advance i p) where
  last := same.trans h.last
  got j f id there := by
    rcases of_getElem?_advance here there with ⟨-, own⟩ | ⟨-, old⟩
    · cases own
      exact got id rfl
    · exact h.got j f id old
  stored j id there := by
    obtain ⟨missing, done⟩ := h.stored j id there
    have other : i ≠ j := by
      rintro rfl
      rw [here] at done
      cases done
      exact alive _ rfl
    exact ⟨missing, (getElem?_advance_ne other p).trans done⟩
  missed j f there := by
    rcases of_getElem?_advance here there with ⟨-, own⟩ | ⟨-, old⟩
    · cases own
      exact missed rfl
    · exact h.missed j f old
  once := h.once

/-- A caller who has found nothing has not kept anything, because then it would be done. -/
theorem Accounted.unkept (h : Accounted first text? v)
    (here : v.callers[i]? = some ⟨fresh, .missed⟩) (id : VisitId) : (i, id) ∉ v.stored := by
  intro there
  have done := (h.stored i id there).2
  rw [here] at done
  cases done

/-- A caller who keeps its own identifier is put down with it. -/
theorem Accounted.keep {s : σ} (h : Accounted first text? v)
    (here : v.callers[i]? = some ⟨fresh, .missed⟩) (now : text? s = some fresh.write) :
    Accounted first text?
      ({ v with store := s, stored := v.stored ++ [(i, fresh)] }.advance i (.done (.ok fresh)))
    where
  last := by
    show text? s = ((v.stored ++ [(i, fresh)]).getLast?.map fun x => x.2.write).or first
    rw [now, List.getLast?_concat]
    rfl
  got j f id there := by
    show _ ∨ ∃ j, (j, id) ∈ v.stored ++ [(i, fresh)]
    rcases of_getElem?_advance here there with ⟨-, own⟩ | ⟨-, old⟩
    · cases own
      exact .inr ⟨i, List.mem_append_right _ (List.mem_singleton_self _)⟩
    · refine (h.got j f id old).imp_right ?_
      rintro ⟨k, before⟩
      exact ⟨k, List.mem_append_left _ before⟩
  stored j id there := by
    rcases List.mem_append.mp there with before | new
    · obtain ⟨missing, done⟩ := h.stored j id before
      have other : i ≠ j := by
        rintro rfl
        exact h.unkept here id before
      exact ⟨missing, (getElem?_advance_ne other _).trans done⟩
    · cases List.mem_singleton.mp new
      exact ⟨h.missed i fresh here, getElem?_advance here _⟩
  missed j f there := by
    rcases of_getElem?_advance here there with ⟨-, own⟩ | ⟨-, old⟩
    · cases own
    · exact h.missed j f old
  once := by
    show ((v.stored ++ [(i, fresh)]).map Prod.fst).Nodup
    rw [List.map_append, List.nodup_append]
    refine ⟨h.once, List.pairwise_singleton .., ?_⟩
    rintro j before k new rfl
    obtain ⟨⟨k, id⟩, there, rfl⟩ := List.mem_map.mp before
    obtain rfl : k = i := List.mem_singleton.mp new
    exact h.unkept here id there

/-- **The account is kept in every turn.** -/
theorem Turned.accounted (turned : Turned text? v i v') (h : Accounted first text? v) :
    Accounted first text? v' := by
  cases turned with
  | idle => exact h
  | failed here alive same => exact h.advance here alive same _ nofun nofun
  | found here there same =>
    refine h.advance here nofun same _ ?_ nofun
    rintro id own
    cases own
    exact h.of_idOf?_eq_some there
  | missed here missing same =>
    exact h.advance here nofun same _ nofun fun _ => h.of_idOf?_eq_none missing
  | kept here now => exact h.keep here now

/-- The account is kept along all turns. -/
theorem accounted_turns (keeps : store.Keeps visitKey well text?) (fine : well v.store)
    (h : Accounted first text? v) (order : List Nat) :
    Accounted first text? (v.turns store order) ∧ well (v.turns store order).store := by
  induction order generalizing v with
  | nil => exact ⟨h, fine⟩
  | cons i rest ih =>
    obtain ⟨turned, fine'⟩ := turned keeps fine i
    exact ih fine' (turned.accounted h)

/-! ### Callers who come late -/

/-- A caller who has not looked before there was an identifier. -/
structure Late (text? : σ → Option String) (i : Nat) (v : Visits σ) : Prop where
  known : (idOf? (text? v.store)).isSome
  notMissed : ∀ fresh, v.callers[i]? ≠ some ⟨fresh, .missed⟩
  unkept : ∀ id, (i, id) ∉ v.stored

/-- It stays late when another caller, or itself, gets on without having kept anything. -/
theorem Late.advance {s : σ} {q p : Progress} (late : Late text? i v)
    (here : v.callers[j]? = some ⟨fresh, q⟩) (same : text? s = text? v.store)
    (onward : p ≠ .missed) : Late text? i ({ v with store := s }.advance j p) where
  known := by
    show (idOf? (text? s)).isSome
    rw [same]
    exact late.known
  notMissed f there := by
    rcases of_getElem?_advance here there with ⟨-, own⟩ | ⟨-, old⟩
    · cases own
      exact onward rfl
    · exact late.notMissed f old
  unkept := late.unkept

/-- It stays late when another caller keeps an identifier. -/
theorem Late.keep {s : σ} (late : Late text? i v) (here : v.callers[j]? = some ⟨fresh, .missed⟩)
    (now : text? s = some fresh.write) :
    Late text? i
      ({ v with store := s, stored := v.stored ++ [(j, fresh)] }.advance j (.done (.ok fresh)))
    where
  known := by
    show (idOf? (text? s)).isSome
    rw [now, idOf?_write]
    rfl
  notMissed f there := by
    rcases of_getElem?_advance here there with ⟨-, own⟩ | ⟨-, old⟩
    · cases own
    · exact late.notMissed f old
  unkept id there := by
    rcases List.mem_append.mp there with before | new
    · exact late.unkept id before
    · -- the late caller has not missed anything, so it is not the one who keeps
      cases List.mem_singleton.mp new
      exact late.notMissed fresh here

/-- It stays late, whoever takes a turn. -/
theorem Turned.late (turned : Turned text? v j v') (late : Late text? i v) : Late text? i v' := by
  cases turned with
  | idle => exact late
  | failed here alive same => exact late.advance here same nofun
  | found here there same => exact late.advance here same nofun
  | missed here missing same =>
    have known := late.known
    rw [missing] at known
    cases known
  | kept here now => exact late.keep here now

theorem Late.turns (keeps : store.Keeps visitKey well text?) (fine : well v.store)
    (late : Late text? i v) (order : List Nat) : Late text? i (v.turns store order) := by
  induction order generalizing v with
  | nil => exact late
  | cons j rest ih =>
    obtain ⟨turned, fine'⟩ := turned keeps fine j
    exact ih fine' (turned.late late)

/-! ### Agreement -/

/-- What is true of the callers after their turns. -/
structure Agreement (first : Option String) (text? : σ → Option String) (v : Visits σ) : Prop where
  /-- If there was an identifier at first, it stays and everyone gets it. -/
  known : ∀ id, idOf? first = some id →
    text? v.store = first ∧ v.stored = [] ∧ ∀ id', v.Got id' → id' = id
  /-- If there was none, callers get the identifiers that were kept and no others. -/
  unknown : idOf? first = none → ∀ id, v.Got id ↔ ∃ i, (i, id) ∈ v.stored
  /-- Everyone who kept one kept its own and gets it. -/
  own : ∀ i id, (i, id) ∈ v.stored → v.callers[i]? = some ⟨id, .done (.ok id)⟩
  /-- The one that was kept last is in the store. -/
  last : text? v.store = (v.stored.getLast?.map fun x => x.2.write).or first
  /-- So all get the same exactly if no two different ones were kept. -/
  agree_iff : (∀ id id', v.Got id → v.Got id' → id = id') ↔
    ∀ x ∈ v.stored, ∀ y ∈ v.stored, x.2 = y.2
  /-- And then it is in the store. -/
  agreed : (∀ id id', v.Got id → v.Got id' → id = id') → ∀ id, v.Got id →
    idOf? (text? v.store) = some id

/-- Who has kept an identifier gets it. -/
theorem Accounted.got_of_stored (h : Accounted first text? v) {x : Nat × VisitId}
    (kept : x ∈ v.stored) : v.Got x.2 :=
  ⟨x.1, x.2, (h.stored x.1 x.2 kept).2⟩

/-- If there was an identifier at first, nobody keeps one. -/
theorem Accounted.stored_eq_nil (h : Accounted first text? v) (there : idOf? first = some id) :
    v.stored = [] := by
  rw [List.eq_nil_iff_forall_not_mem]
  intro x kept
  have missing := (h.stored x.1 x.2 kept).1
  rw [there] at missing
  cases missing

/-- If there was an identifier at first, no other one is got. -/
theorem Accounted.eq_of_got {id' : VisitId} (h : Accounted first text? v)
    (there : idOf? first = some id) (got : v.Got id') : id' = id := by
  obtain ⟨i, fresh, here⟩ := got
  rcases h.got i fresh id' here with same | ⟨j, kept⟩
  · exact Option.some.inj (same.symm.trans there)
  · rw [h.stored_eq_nil there] at kept
    cases kept

/-- If there was none, what is got was kept by someone. -/
theorem Accounted.exists_stored (h : Accounted first text? v) (missing : idOf? first = none)
    (got : v.Got id) : ∃ i, (i, id) ∈ v.stored := by
  obtain ⟨i, fresh, here⟩ := got
  rcases h.got i fresh id here with there | kept
  · rw [missing] at there
    cases there
  · exact kept

theorem Accounted.agreement (h : Accounted first text? v) : Agreement first text? v where
  known id there := by
    refine ⟨?_, h.stored_eq_nil there, fun id' => h.eq_of_got there⟩
    rw [h.last, h.stored_eq_nil there]
    rfl
  unknown missing id := by
    constructor
    · exact h.exists_stored missing
    · rintro ⟨i, kept⟩
      exact h.got_of_stored kept
  own i id kept := (h.stored i id kept).2
  last := h.last
  agree_iff := by
    constructor
    · intro agree x kept y kept'
      exact agree x.2 y.2 (h.got_of_stored kept) (h.got_of_stored kept')
    · intro agree id id' got got'
      cases there : idOf? first with
      | some first_id => rw [h.eq_of_got there got, h.eq_of_got there got']
      | none =>
        obtain ⟨i, kept⟩ := h.exists_stored there got
        obtain ⟨j, kept'⟩ := h.exists_stored there got'
        exact agree _ kept _ kept'
  agreed agree id got := by
    rw [h.last]
    cases last : v.stored.getLast? with
    | some x =>
      rw [Option.map_some, Option.some_or, idOf?_write]
      have kept : x ∈ v.stored := List.mem_of_getLast? last
      rw [agree x.2 id (h.got_of_stored kept) got]
    | none =>
      -- nobody kept anything, so what was got was there at first
      obtain ⟨i, fresh, here⟩ := got
      rcases h.got i fresh id here with there | ⟨j, kept⟩
      · exact there
      · rw [List.getLast?_eq_none_iff.mp last] at kept
        cases kept

/-- **Visits of several callers.** Callers share a store, with any text in it at first, and take
their turns in any order. If the text is an identifier, all of them get it. Otherwise they get the
identifiers that some of them have kept, so that they agree exactly if no two different ones were
kept, and then that one is in the store. From the moment on at which there is an identifier in the
store, nobody who has not looked yet keeps one. -/
theorem visits_of_turns (keeps : store.Keeps visitKey well text?) {s : σ} (fine : well s)
    (fresh : List VisitId) (order : List Nat) :
    Agreement (text? s) text? ((start s fresh).turns store order) ∧
      ∀ before after, order = before ++ after →
        (idOf? (text? ((start s fresh).turns store before).store)).isSome →
        ∀ i own, ((start s fresh).turns store before).callers[i]? = some ⟨own, .coming⟩ →
        ∀ id, (i, id) ∉ ((start s fresh).turns store order).stored := by
  have started : Accounted (text? s) text? (start s fresh) := accounted_start s fresh
  constructor
  · exact (accounted_turns keeps fine started order).1.agreement
  · rintro before after rfl known i own here id
    obtain ⟨account, fine'⟩ := accounted_turns keeps fine started before
    have late : Late text? i ((start s fresh).turns store before) := by
      refine ⟨known, fun f there => ?_, fun id kept => ?_⟩
      · rw [here] at there
        cases there
      · have done := (account.stored i id kept).2
        rw [here] at done
        cases done
    rw [turns, List.foldl_append]
    exact (late.turns keeps fine' after).unkept id

end Visits

namespace Sample

/-- An identifier. -/
def visit (n : Nat) : VisitId := ⟨.ofNat n⟩

end Sample

/-- Two callers have looked before the first one keeps its identifier, and a third one has not. The
third one gets the first identifier, but the one of the second caller is in the store in the end. -/
theorem visits_overlapping :
    let v := (Visits.start Table.empty [Sample.visit 1, Sample.visit 2, Sample.visit 3]).turns
      Table.store [0, 1, 0, 2, 1]
    v.stored = [(0, Sample.visit 1), (1, Sample.visit 2)] ∧
      Visits.Agreement none (·.get? visitKey) v := by
  intro v
  refine ⟨by with_unfolding_all rfl, ?_⟩
  exact (Visits.visits_of_turns (Table.keeps visitKey) (s := Table.empty) trivial
    [Sample.visit 1, Sample.visit 2, Sample.visit 3] [0, 1, 0, 2, 1]).1

/-- **Callers may disagree.** It is not so that all callers who get an identifier get the same one:
two that have both looked before the first one keeps its own get different ones. -/
theorem visits_divided :
    ¬∀ (t : Table) (fresh : List VisitId) (order : List Nat) (id id' : VisitId),
      ((Visits.start t fresh).turns Table.store order).Got id →
      ((Visits.start t fresh).turns Table.store order).Got id' → id = id' := by
  intro agree
  have same := agree .empty [Sample.visit 1, Sample.visit 2] [0, 1, 0, 1] (Sample.visit 1)
    (Sample.visit 2) ⟨0, Sample.visit 1, by with_unfolding_all rfl⟩
    ⟨1, Sample.visit 2, by with_unfolding_all rfl⟩
  exact absurd same (by decide)

end Tracker

end Brokerage
