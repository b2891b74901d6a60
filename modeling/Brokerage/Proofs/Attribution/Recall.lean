import Brokerage.Preferences
import Brokerage.Proofs.Attribution.Visits
import Brokerage.Proofs.RoundTrip
import Brokerage.Proofs.Store.Mirror

/-!
# One store for arrivals, the visit and preferences

The tracker and the preferences keep three texts in one store, among texts of others. On a table
it is plain what a use of the store comes to (`Table.reply`) and what it leaves (`Table.used`),
and every store that mirrors a table does the same (`KeyStore.Mirrors.use`,
`KeyStore.Mirrors.useAll`).

A use changes what is kept under one name at most (`Act.Changes`), so what was kept last under a
name is there until the next change (`get?_of_lastChange`). Hence what was captured is found
again, with everything in it, until it is captured anew or cleared; the visit's identifier is
found again from the first time on that it was asked for; and so is the last choice about the
sidebar (`recalls_of_uses`).
-/

namespace Brokerage

/-! ### Uses of a store -/

/-- What is done with a store by the tracker, by the preferences and by others. -/
inductive Use where
  | capture (url : Url) (referrer : Option String) (now : Timestamp)
  | current
  | clear
  | visitId (fresh : VisitId)
  | sidebarCollapsed
  | setSidebarCollapsed (collapsed : Bool)
  | other (operation : Operation)

/-- What a use comes to. -/
@[reducible] def Use.Reply : Use → Type
  | capture .. | current => Option Attribution
  | visitId _ => VisitId
  | sidebarCollapsed => Bool
  | clear | setSidebarCollapsed _ => Unit
  | other _ => Found

/-- The name under which an operation looks up or changes a text. -/
def Operation.name : Operation → String
  | get name | edit (.set name _) | edit (.remove name) => name

/-- Others leave the names of the tracker and of the preferences alone. -/
def Use.Apart : Use → Prop
  | other operation =>
    operation.name ∉ [Tracker.attributionKey, Tracker.visitKey, Preferences.sidebarKey]
  | _ => True

instance : DecidablePred Use.Apart
  | .other _ => inferInstanceAs (Decidable (_ ∉ _))
  | .capture .. | .current | .clear | .visitId _ | .sidebarCollapsed | .setSidebarCollapsed _ =>
    inferInstanceAs (Decidable True)

/-- A use of a store, with what it came to. -/
structure Act where
  use : Use
  reply : use.Reply

/-- The use succeeded. -/
def Act.succeeded (act : Act) : (use : Use) × Except Error use.Reply := ⟨act.use, .ok act.reply⟩

namespace KeyStore

variable {σ : Type}

/-- Uses a store. -/
def use (store : KeyStore σ) : (use : Use) → Task σ use.Reply
  | .capture url referrer now => Tracker.capture store url referrer now
  | .current => Tracker.current store
  | .clear => Tracker.clear store
  | .visitId fresh => Tracker.visitId store fresh
  | .sidebarCollapsed => Preferences.sidebarCollapsed store
  | .setSidebarCollapsed collapsed => Preferences.setSidebarCollapsed store collapsed
  | .other operation => store.perform operation

/-- One use after the other, whether they succeed or not. -/
def useAll (store : KeyStore σ) :
    List Use → σ → List ((use : Use) × Except Error use.Reply) × σ
  | [], s => ([], s)
  | use :: rest, s =>
    let o := store.use use s
    let (results, s) := store.useAll rest o.store
    (⟨use, o.result⟩ :: results, s)

end KeyStore

/-- The arrival that an entry is. An entry that is none counts as absent. -/
def Tracker.arrivalOf? (entry : Option String) : Option Attribution :=
  entry.bind fun text => (Json.readAll Attribution.read (Text.encode text)).toOption

/-- An arrival that was kept is found again, with everything in it. -/
theorem Tracker.arrivalOf?_writeText (a : Attribution) :
    arrivalOf? (some a.toValue.writeText) = some a := by
  rw [arrivalOf?, Option.bind_some, (a.reads _ a.respelled).readAll_eq]
  rfl

/-! ### Uses of a table -/

namespace Table

/-- What a use comes to on a table. -/
def reply (t : Table) : (use : Use) → use.Reply
  | .capture url referrer now => Attribution.ofVisit? url referrer now
  | .current => Tracker.arrivalOf? (t.get? Tracker.attributionKey)
  | .clear => ()
  | .visitId fresh => (Tracker.idOf? (t.get? Tracker.visitKey)).getD fresh
  | .sidebarCollapsed => t.get? Preferences.sidebarKey == some "true"
  | .setSidebarCollapsed _ => ()
  | .other operation => t.answer operation

/-- The table after a use. -/
def used (t : Table) : Use → Table
  | .capture url referrer now =>
    match Attribution.ofVisit? url referrer now with
    | some a => t.insert Tracker.attributionKey a.toValue.writeText
    | none => t
  | .clear => t.erase Tracker.attributionKey
  | .visitId fresh =>
    match Tracker.idOf? (t.get? Tracker.visitKey) with
    | some _ => t
    | none => t.insert Tracker.visitKey fresh.write
  | .setSidebarCollapsed collapsed =>
    t.insert Preferences.sidebarKey (if collapsed then "true" else "false")
  | .other operation => t.after operation
  | .current | .sidebarCollapsed => t

/-- A use of a table, with what it comes to. -/
def act (t : Table) (use : Use) : Act := ⟨use, t.reply use⟩

/-- Uses of a table, one after the other. -/
def acts (t : Table) : List Use → List Act
  | [] => []
  | use :: rest => t.act use :: (t.used use).acts rest

/-- The table after uses. -/
def usedAll (t : Table) (uses : List Use) : Table := uses.foldl used t

end Table

namespace KeyStore.Mirrors

variable {σ : Type} {store : KeyStore σ} {mirror : σ → Table → Prop} {s : σ} {t : Table}

/-- **A use of a store comes to what it comes to on the table.** -/
theorem use (mirrors : store.Mirrors mirror) (here : mirror s t) (use : Use) :
    Task.Yields mirror (store.use use) s (t.reply use) (t.used use) := by
  have set {s : σ} (here : mirror s t) (name text : String) :
      Task.Yields mirror (store.set name text) s () (t.insert name text) :=
    mirrors.edit here (.set name text)
  cases use with
  | capture url referrer now =>
    rw [KeyStore.use, Tracker.capture, Table.reply, Table.used]
    cases Attribution.ofVisit? url referrer now with
    | none => exact .pure none here
    | some a =>
      exact (set here _ _).bind fun s' there => .report (Tracker.captured a) (.pure (some a) there)
  | current =>
    refine (mirrors.get here Tracker.attributionKey).bind fun s' there => ?_
    rw [Table.reply, Table.used]
    cases t.get? Tracker.attributionKey with
    | none => exact .pure none there
    | some text =>
      rw [Tracker.arrivalOf?, Option.bind_some]
      dsimp only
      cases Json.readAll Attribution.read (Text.encode text) with
      | ok a => exact .pure (some a) there
      | error e => exact .report Tracker.ignored (.pure none there)
  | clear => exact mirrors.edit here (.remove Tracker.attributionKey)
  | visitId fresh =>
    have found : Task.Yields mirror (Tracker.findId store) s
        (Tracker.idOf? (t.get? Tracker.visitKey)) t :=
      (mirrors.get here Tracker.visitKey).bind fun s' there => .pure _ there
    refine found.bind fun s' there => ?_
    rw [Table.reply, Table.used]
    cases Tracker.idOf? (t.get? Tracker.visitKey) with
    | some id => exact .pure id there
    | none => exact (set there _ _).bind fun s'' there' => .pure fresh there'
  | sidebarCollapsed =>
    exact (mirrors.get here Preferences.sidebarKey).bind fun s' there => .pure _ there
  | setSidebarCollapsed collapsed => exact set here _ _
  | other operation => exact mirrors.perform here operation

/-- **So do uses one after the other**, and all of them succeed. -/
theorem useAll (mirrors : store.Mirrors mirror) (here : mirror s t) (uses : List Use) :
    ∃ s', store.useAll uses s = ((t.acts uses).map Act.succeeded, s') ∧
      mirror s' (t.usedAll uses) := by
  induction uses generalizing s t with
  | nil => exact ⟨s, rfl, here⟩
  | cons use rest ih =>
    obtain ⟨s', events, done, there⟩ := mirrors.use here use
    obtain ⟨s'', later, last⟩ := ih there
    refine ⟨s'', ?_, last⟩
    rw [KeyStore.useAll, done]
    simp only [later]
    rfl

end KeyStore.Mirrors

/-! ### What is kept under a name -/

/-- The act may change what is kept under this name. -/
def Act.Changes : Act → String → Prop
  | ⟨.capture .., some _⟩, name => name = Tracker.attributionKey
  | ⟨.clear, _⟩, name => name = Tracker.attributionKey
  | ⟨.visitId _, _⟩, name => name = Tracker.visitKey
  | ⟨.setSidebarCollapsed _, _⟩, name => name = Preferences.sidebarKey
  | ⟨.other (.edit edit), _⟩, name => name = (Operation.edit edit).name
  | _, _ => False

/-- Only who asks for the visit's identifier may change it. -/
theorem Act.visitId_of_changes {act : Act} (apart : act.use.Apart)
    (changes : act.Changes Tracker.visitKey) : ∃ fresh, act.use = .visitId fresh := by
  obtain ⟨use, reply⟩ := act
  cases use with
  | visitId fresh => exact ⟨fresh, rfl⟩
  | capture url referrer now =>
    cases reply with
    | none => cases changes
    | some a =>
      exact absurd (show Tracker.visitKey = Tracker.attributionKey from changes) (by decide)
  | clear => exact absurd (show Tracker.visitKey = Tracker.attributionKey from changes) (by decide)
  | setSidebarCollapsed collapsed =>
    exact absurd (show Tracker.visitKey = Preferences.sidebarKey from changes) (by decide)
  | other operation =>
    cases operation with
    | get name => cases changes
    | edit edit =>
      have same : Tracker.visitKey = (Operation.edit edit).name := changes
      exact absurd (same ▸ List.mem_cons_of_mem _ List.mem_cons_self) apart
  | current => cases changes
  | sidebarCollapsed => cases changes

/-- The act is the last one that may have changed what is kept under the name. -/
def LastChange (name : String) (acts : List Act) (act : Act) : Prop :=
  ∃ front back, acts = front ++ act :: back ∧ ∀ other ∈ back, ¬ other.Changes name

namespace Table

variable {t : Table} {name : String} {uses : List Use}

/-- A use leaves alone what it does not change. -/
theorem get?_used {use : Use} (apart : ¬ (t.act use).Changes name) :
    (t.used use).get? name = t.get? name := by
  cases use with
  | capture url referrer now =>
    rw [used]
    cases found : Attribution.ofVisit? url referrer now with
    | none => rfl
    | some a =>
      have different : name ≠ Tracker.attributionKey := by
        intro same
        rw [act, reply, found] at apart
        exact apart same
      rw [get?_insert, if_neg different]
  | clear => exact (get?_erase ..).trans (if_neg apart)
  | visitId fresh =>
    rw [used]
    cases Tracker.idOf? (t.get? Tracker.visitKey) with
    | some id => rfl
    | none => exact (get?_insert ..).trans (if_neg apart)
  | setSidebarCollapsed collapsed => exact (get?_insert ..).trans (if_neg apart)
  | other operation =>
    cases operation with
    | get other => rfl
    | edit edit =>
      cases edit with
      | set other text => exact (get?_insert ..).trans (if_neg apart)
      | remove other => exact (get?_erase ..).trans (if_neg apart)
  | current => rfl
  | sidebarCollapsed => rfl

/-- So do uses one after the other. -/
theorem get?_usedAll (apart : ∀ act ∈ t.acts uses, ¬ act.Changes name) :
    (t.usedAll uses).get? name = t.get? name := by
  induction uses generalizing t with
  | nil => rfl
  | cons use rest ih =>
    have later : ((t.used use).usedAll rest).get? name = (t.used use).get? name :=
      ih fun act there => apart act (List.mem_cons_of_mem _ there)
    exact later.trans (get?_used (apart _ List.mem_cons_self))

theorem map_use_acts (t : Table) (uses : List Use) : (t.acts uses).map Act.use = uses := by
  induction uses generalizing t with
  | nil => rfl
  | cons use rest ih => rw [acts, List.map_cons, ih, act]

theorem use_mem_of_mem_acts {act : Act} (there : act ∈ t.acts uses) : act.use ∈ uses := by
  rw [← t.map_use_acts uses]
  exact List.mem_map_of_mem there

/-- Some acts come of the first uses, and the others of the table that these leave. -/
theorem exists_of_acts_eq_append {front back : List Act} (h : t.acts uses = front ++ back) :
    ∃ before after, uses = before ++ after ∧ front = t.acts before ∧
      back = (t.usedAll before).acts after := by
  induction front generalizing t uses with
  | nil => exact ⟨[], uses, rfl, rfl, h.symm⟩
  | cons act front ih =>
    cases uses with
    | nil => cases h
    | cons use uses =>
      obtain ⟨rfl, rest⟩ := List.cons.inj h
      obtain ⟨before, after, rfl, rfl, rfl⟩ := ih rest
      exact ⟨use :: before, after, rfl, rfl, rfl⟩

/-- An act comes of a use of the table that the uses before it leave. -/
theorem exists_of_acts_eq_cons {front back : List Act} {act : Act}
    (h : t.acts uses = front ++ act :: back) :
    ∃ before after, uses = before ++ act.use :: after ∧ front = t.acts before ∧
      act.reply = (t.usedAll before).reply act.use ∧
      back = ((t.usedAll before).used act.use).acts after := by
  obtain ⟨before, after, rfl, rfl, rest⟩ := exists_of_acts_eq_append h
  cases after with
  | nil => cases rest
  | cons use after =>
    obtain ⟨rfl, rfl⟩ := List.cons.inj rest
    exact ⟨before, after, rfl, rfl, rfl, rfl⟩

/-- **What is kept under a name is what the last change has left there.** -/
theorem get?_of_lastChange {act : Act} (h : LastChange name (t.acts uses) act) :
    ∃ t' : Table, act.reply = t'.reply act.use ∧
      (t.usedAll uses).get? name = (t'.used act.use).get? name := by
  obtain ⟨front, back, whole, apart⟩ := h
  obtain ⟨before, after, rfl, -, here, rfl⟩ := exists_of_acts_eq_cons whole
  refine ⟨t.usedAll before, here, ?_⟩
  rw [usedAll, List.foldl_append]
  exact get?_usedAll apart

/-! ### The visit -/

/-- An identifier stays the visit's. -/
theorem idOf?_used {id : VisitId} {use : Use} (apart : use.Apart)
    (known : Tracker.idOf? (t.get? Tracker.visitKey) = some id) :
    Tracker.idOf? ((t.used use).get? Tracker.visitKey) = some id := by
  by_cases changes : (t.act use).Changes Tracker.visitKey
  · obtain ⟨fresh, rfl⟩ : ∃ fresh, use = .visitId fresh :=
      @Act.visitId_of_changes (t.act use) apart changes
    rw [used, known]
    exact known
  · rwa [get?_used changes]

theorem idOf?_usedAll {id : VisitId} (apart : ∀ use ∈ uses, use.Apart)
    (known : Tracker.idOf? (t.get? Tracker.visitKey) = some id) :
    Tracker.idOf? ((t.usedAll uses).get? Tracker.visitKey) = some id := by
  induction uses generalizing t with
  | nil => exact known
  | cons use rest ih =>
    exact ih (fun use there => apart use (List.mem_cons_of_mem _ there))
      (idOf?_used (apart use List.mem_cons_self) known)

/-- Once it has been asked for, there is an identifier. -/
theorem idOf?_used_visitId (t : Table) (fresh : VisitId) :
    Tracker.idOf? ((t.used (.visitId fresh)).get? Tracker.visitKey) =
      some (t.reply (.visitId fresh)) := by
  rw [used, reply]
  cases known : Tracker.idOf? (t.get? Tracker.visitKey) with
  | some id => exact known
  | none =>
    show Tracker.idOf? ((t.insert Tracker.visitKey fresh.write).get? Tracker.visitKey) = some fresh
    rw [get?_insert, if_pos rfl, Tracker.idOf?_write]

end Table

/-! ### What is recalled -/

/-- What acts recall, if these texts were kept under the names at first and those in the end. -/
structure Recalls (first last : String → Option String) (acts : List Act) : Prop where
  captured : ∀ url referrer now (found : Option Attribution),
    ⟨.capture url referrer now, found⟩ ∈ acts → found = Attribution.ofVisit? url referrer now
  /-- What was captured last, unless it was cleared; if neither has happened, what was kept at
  first. -/
  current : ∀ before (found : Option Attribution) after,
    acts = before ++ ⟨.current, found⟩ :: after →
    (∀ url referrer now a, LastChange Tracker.attributionKey before
      ⟨.capture url referrer now, some a⟩ → found = some a) ∧
    (LastChange Tracker.attributionKey before ⟨.clear, ()⟩ → found = none) ∧
    ((∀ act ∈ before, ¬ act.Changes Tracker.attributionKey) →
      found = Tracker.arrivalOf? (first Tracker.attributionKey))
  /-- The identifier that is kept in the end, which is the one that was kept
  at first, if any was. -/
  visit : ∀ fresh (id : VisitId), ⟨.visitId fresh, id⟩ ∈ acts →
    Tracker.idOf? (last Tracker.visitKey) = some id ∧
    ∀ known, Tracker.idOf? (first Tracker.visitKey) = some known → id = known
  visit_unique : ∀ fresh (id : VisitId) fresh' (id' : VisitId), ⟨.visitId fresh, id⟩ ∈ acts →
    ⟨.visitId fresh', id'⟩ ∈ acts → id = id'
  /-- If none was, who asks for it first gets a new one. -/
  visit_fresh : ∀ before fresh (id : VisitId) after,
    acts = before ++ ⟨.visitId fresh, id⟩ :: after →
    (∀ act ∈ before, ∀ other, act.use ≠ .visitId other) →
    Tracker.idOf? (first Tracker.visitKey) = none → id = fresh
  /-- The last choice; if there was none, whether the text that was kept at first says so. -/
  sidebar : ∀ before (collapsed : Bool) after,
    acts = before ++ ⟨.sidebarCollapsed, collapsed⟩ :: after →
    (∀ chosen, LastChange Preferences.sidebarKey before ⟨.setSidebarCollapsed chosen, ()⟩ →
      collapsed = chosen) ∧
    ((∀ act ∈ before, ¬ act.Changes Preferences.sidebarKey) →
      collapsed = (first Preferences.sidebarKey == some "true"))

namespace Table

variable {t : Table} {uses : List Use} {before after : List Act}

/-- What was captured last is found, or nothing if it was cleared. -/
theorem current_of_acts {found : Option Attribution}
    (here : t.acts uses = before ++ ⟨.current, found⟩ :: after) :
    (∀ url referrer now a, LastChange Tracker.attributionKey before
      ⟨.capture url referrer now, some a⟩ → found = some a) ∧
    (LastChange Tracker.attributionKey before ⟨.clear, ()⟩ → found = none) ∧
    ((∀ act ∈ before, ¬ act.Changes Tracker.attributionKey) →
      found = Tracker.arrivalOf? (t.get? Tracker.attributionKey)) := by
  obtain ⟨front, back, -, rfl, found_eq, -⟩ := exists_of_acts_eq_cons here
  obtain rfl : found = Tracker.arrivalOf? ((t.usedAll front).get? Tracker.attributionKey) :=
    found_eq
  refine ⟨fun url referrer now a last => ?_, fun last => ?_, fun apart => ?_⟩
  · obtain ⟨t', captured, kept⟩ := get?_of_lastChange last
    have captured : some a = Attribution.ofVisit? url referrer now := captured
    rw [kept, used, ← captured]
    show Tracker.arrivalOf? ((t'.insert _ a.toValue.writeText).get? Tracker.attributionKey) = some a
    rw [get?_insert, if_pos rfl, Tracker.arrivalOf?_writeText]
  · obtain ⟨t', -, kept⟩ := get?_of_lastChange last
    rw [kept, used, get?_erase, if_pos rfl]
    rfl
  · rw [get?_usedAll apart]

/-- The last choice about the sidebar is found. -/
theorem sidebar_of_acts {collapsed : Bool}
    (here : t.acts uses = before ++ ⟨.sidebarCollapsed, collapsed⟩ :: after) :
    (∀ chosen, LastChange Preferences.sidebarKey before ⟨.setSidebarCollapsed chosen, ()⟩ →
      collapsed = chosen) ∧
    ((∀ act ∈ before, ¬ act.Changes Preferences.sidebarKey) →
      collapsed = (t.get? Preferences.sidebarKey == some "true")) := by
  obtain ⟨front, back, -, rfl, found, -⟩ := exists_of_acts_eq_cons here
  obtain rfl : collapsed = ((t.usedAll front).get? Preferences.sidebarKey == some "true") := found
  refine ⟨fun chosen last => ?_, fun apart => ?_⟩
  · obtain ⟨t', -, kept⟩ := get?_of_lastChange last
    rw [kept, used, get?_insert, if_pos rfl]
    cases chosen <;> decide
  · rw [get?_usedAll apart]

/-- Who asks for the visit's identifier gets the one that is kept in the end. Nobody but who asks
for it changes it, so it is a new one only for the first who asks. -/
theorem visit_of_acts (apart : ∀ use ∈ uses, use.Apart) {fresh id : VisitId}
    (here : t.acts uses = before ++ ⟨.visitId fresh, id⟩ :: after) :
    Tracker.idOf? ((t.usedAll uses).get? Tracker.visitKey) = some id ∧
    (∀ known, Tracker.idOf? (t.get? Tracker.visitKey) = some known → id = known) ∧
    ((∀ act ∈ before, ∀ other, act.use ≠ .visitId other) →
      Tracker.idOf? (t.get? Tracker.visitKey) = none → id = fresh) := by
  obtain ⟨front, back, rfl, rfl, found, -⟩ := exists_of_acts_eq_cons here
  have apart_front : ∀ use ∈ front, use.Apart := fun use there =>
    apart use (List.mem_append_left _ there)
  obtain rfl : id = (t.usedAll front).reply (.visitId fresh) := found
  refine ⟨?_, fun known there => ?_, fun nobody missing => ?_⟩
  · have apart_back : ∀ use ∈ back, use.Apart := fun use there =>
      apart use (List.mem_append_right _ (List.mem_cons_of_mem _ there))
    have kept := idOf?_usedAll apart_back (idOf?_used_visitId (t.usedAll front) fresh)
    rw [usedAll, List.foldl_append]
    exact kept
  · rw [reply, idOf?_usedAll apart_front there]
    rfl
  · have same : (t.usedAll front).get? Tracker.visitKey = t.get? Tracker.visitKey := by
      refine get?_usedAll fun act there changes => ?_
      obtain ⟨other, visit⟩ :=
        Act.visitId_of_changes (apart_front _ (use_mem_of_mem_acts there)) changes
      exact nobody act there other visit
    rw [reply, same, missing]
    rfl

/-- **What was kept in a table is recalled.** -/
theorem recalls_acts (t : Table) (apart : ∀ use ∈ uses, use.Apart) :
    Recalls t.get? (t.usedAll uses).get? (t.acts uses) where
  captured url referrer now found there := by
    obtain ⟨before, after, here⟩ := List.append_of_mem there
    obtain ⟨front, back, -, -, reply, -⟩ := exists_of_acts_eq_cons here
    exact reply
  current _ _ _ here := current_of_acts here
  visit fresh id there := by
    obtain ⟨before, after, here⟩ := List.append_of_mem there
    obtain ⟨last, known, -⟩ := visit_of_acts apart here
    exact ⟨last, known⟩
  visit_unique fresh id fresh' id' there there' := by
    obtain ⟨before, after, here⟩ := List.append_of_mem there
    obtain ⟨before', after', here'⟩ := List.append_of_mem there'
    have last := (visit_of_acts apart here).1
    rw [(visit_of_acts apart here').1] at last
    exact (Option.some.inj last).symm
  visit_fresh _ _ _ _ here := (visit_of_acts apart here).2.2
  sidebar _ _ _ here := sidebar_of_acts here

end Table

/-- All uses of a store succeed, and they recall what was kept in it. -/
def Recalled {σ : Type} (store : KeyStore σ) (s : σ) (first : String → Option String)
    (uses : List Use) : Prop :=
  ∃ acts s' last, store.useAll uses s = (acts.map Act.succeeded, s') ∧ acts.map Act.use = uses ∧
    (∀ name, (store.get name s).result = .ok (first name)) ∧
    (∀ name, (store.get name s').result = .ok (last name)) ∧ Recalls first last acts

theorem KeyStore.Mirrors.recalled {σ : Type} {store : KeyStore σ} {mirror : σ → Table → Prop}
    {s : σ} {t : Table} (mirrors : store.Mirrors mirror) (here : mirror s t) {uses : List Use}
    (apart : ∀ use ∈ uses, use.Apart) : Recalled store s t.get? uses := by
  obtain ⟨s', done, there⟩ := mirrors.useAll here uses
  exact ⟨t.acts uses, s', (t.usedAll uses).get?, done, t.map_use_acts uses, mirrors.get_result here,
    mirrors.get_result there, t.recalls_acts apart⟩

/-- **Arrivals, the visit and the sidebar in one store.** The store is in memory, with any table in
it, or in a file for which there is room, and the file is not there or holds any text; others use
the store too, but not under these names. All uses succeed. What was captured last is found with
everything in it until it is cleared, all who ask for the visit's identifier get the one that is
kept in the end, and the last choice about the sidebar is found. -/
theorem recalls_of_uses (uses : List Use) (apart : ∀ use ∈ uses, use.Apart) :
    (∀ t : Table, Recalled Table.store t t.get? uses) ∧
    ∀ (s : FileStore) (fs : Files) (content : Option String), s.Ready fs →
      fs.content? s.target = content.map Text.encode →
      Recalled s.store fs (content.elim .empty Table.ofText).get? uses :=
  ⟨fun _ => Table.mirrors.recalled rfl apart,
    fun s _ _ ready here => s.mirrors.recalled (ready.carries here) apart⟩

namespace Sample

/-- A page with a query. -/
def page (query : String) : Url where
  scheme := "https"
  authority := none
  path := .rooted ["homes", "7"]
  query := some query
  fragment := none

/-- A moment ahead of UTC. -/
def morning : Timestamp := ⟨⟨2026, 3, 1, 9, 30, 0, 500_000_000, 60⟩, by decide⟩

/-- An arrival through a campaign, and then a page without one. -/
def errands : List Use :=
  [.visitId (Tracker.Sample.visit 1), .setSidebarCollapsed true,
    .capture (page "utm_source=news") (some " a ") morning, .other (.edit (.set "k" "v")),
    .capture (page "q=pool") none morning, .current, .visitId (Tracker.Sample.visit 2),
    .sidebarCollapsed, .clear, .current]

end Sample

/-- The file of the store holds another text at first, which counts as an empty table. -/
theorem recalls_of_uses_discarding :
    (∀ use ∈ Sample.errands, use.Apart) ∧
    Attribution.ofVisit? (Sample.page "utm_source=news") (some " a ") Sample.morning =
      some ⟨{ source := some "news" }, "/homes/7", some "a", Sample.morning⟩ ∧
    Attribution.ofVisit? (Sample.page "q=pool") none Sample.morning = none ∧
    FileStore.Ready ⟨"data/visits.json"⟩ (FileStore.Sample.desk "no table") ∧
    Table.ofText "no table" = .empty ∧
    Recalled (FileStore.mk "data/visits.json").store (FileStore.Sample.desk "no table")
      Table.empty.get? Sample.errands := by
  have apart : ∀ use ∈ Sample.errands, use.Apart := by decide
  have ready := FileStore.Sample.ready_desk "no table"
  have content :
      (FileStore.Sample.desk "no table").content? (FileStore.mk "data/visits.json").target =
        (some "no table").map Text.encode := by
    with_unfolding_all rfl
  have nothing : Table.ofText "no table" = .empty := by decide
  have recalled := (recalls_of_uses Sample.errands apart).2 _ _ _ ready content
  rw [Option.elim_some, nothing] at recalled
  exact ⟨apart, by decide +kernel, by decide +kernel, ready, nothing, recalled⟩

end Brokerage
