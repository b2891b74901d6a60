import Brokerage.Proofs.Session.Notification
import Brokerage.Proofs.Session.SingleFlight
import Mathlib.Data.List.TakeWhile

/-!
# Requests whose session expires once

A session expires, and every request that goes out before it is renewed is answered so. Then a
renewal is shared by those who come to the slot while it is there. Whoever comes later, because its
answer took longer than the renewal, finds an empty slot and starts another one, although the
session has been renewed since its request went out: the slot does not know which expiry an answer
belongs to (`expiry_straggling`).

What holds for every order of the answers is a count. `Tally` compares the renewals with the callers
that come to the slot after the first renewal has left it (`latecomers`): each of them starts one
renewal at most, and if there is one at all, there is a second renewal. So the session is renewed
once if and only if there are none (`refreshes_of_expiry`).
-/

namespace Brokerage.Session

variable {c : Client} {cookies : CookieSource} {s s' : State} {a : Action} {actions : List Action}
variable {i k : Nat}

/-! ### Who comes and who goes to the slot -/

/-- What somebody comes with, if an action says so. -/
def Action.wish? : Action → Option Wish
  | .come wish => some wish
  | _ => none

/-- The caller that goes to the slot, if an action says so. -/
def Action.join? : Action → Option Nat
  | .join i => some i
  | _ => none

/-- True of an answer to a renewal. -/
def Action.isSettle : Action → Bool
  | .settle _ _ => true
  | _ => false

/-- The callers that go to the slot after the first renewal has left it. -/
def latecomers (actions : List Action) : List Nat :=
  (actions.dropWhile (!·.isClear 0)).filterMap Action.join?

/-- What goes to the backend for renewals, counted. -/
def refreshes (history : List Event) : Nat :=
  history.countP fun
    | .sent (.renewal _) _ => true
    | _ => false

theorem map_wish_setPhase (s : State) (i : Nat) (p : Phase) :
    (s.setPhase i p).callers.map Caller.wish = s.callers.map Caller.wish := by
  refine List.ext_getElem? fun j => ?_
  simp only [State.setPhase, List.getElem?_map, List.getElem?_modify]
  split <;> cases s.callers[j]? <;> rfl

/-- The callers are those who have come, with the wishes that they came with. -/
theorem map_wish_callers (h : run c { cookies := cookies } actions = some s) :
    s.callers.map Caller.wish = actions.filterMap Action.wish? := by
  refine run_induction (motive := fun actions s =>
    s.callers.map Caller.wish = actions.filterMap Action.wish?) rfl ?_ h
  intro actions s a s' _ ih moved
  rw [List.filterMap_append, ← ih]
  cases moved <;> simp [Action.wish?, map_wish_setPhase]

/-- Whoever goes to the slot comes to wait for a renewal. -/
theorem join_mem_iff (h : run c { cookies := cookies } actions = some s) :
    .join i ∈ actions ↔ ∃ k started, .joined i k started ∈ s.history := by
  refine run_induction (motive := fun actions s =>
    .join i ∈ actions ↔ ∃ k started, .joined i k started ∈ s.history) (by simp) ?_ h
  intro actions s a s' _ ih moved
  rw [List.mem_append, List.mem_singleton, ih]
  cases moved with
  | concluded here final => split <;> simp
  | joined here held =>
    simp only [State.record_history, State.setPhase_history, List.mem_append]
    grind
  | started here empty =>
    simp only [State.record_history, State.setPhase_history, List.mem_append]
    grind
  | @reported k v here => cases v <;> simp [conclusion]
  | _ => simp

/-! ### Renewals and latecomers -/

/-- Every renewal was started by a caller. -/
theorem starters_ne_nil_iff_lt (h : run c { cookies := cookies } actions = some s) :
    (Course.of k actions s.history).starters ≠ [] ↔ k < s.renewals.length := by
  have fits := course_fits h k
  rw [← Nat.not_le, ← List.getElem?_eq_none_iff]
  generalize s.renewals[k]? = stage?, Course.of k actions s.history = course at fits ⊢
  cases fits <;> simp

/-- The slot holds a renewal from when it is started until it empties the slot. -/
theorem slot_eq_some_iff_uncleared (h : run c { cookies := cookies } actions = some s) :
    s.slot = some k ↔ k < s.renewals.length ∧ .clear k ∉ actions := by
  rw [slot_eq_some_iff h, (course_fits h k).isOpen_iff, Course.clears_eq_zero_iff,
    starters_ne_nil_iff_lt h]

/-- Only a renewal that was started empties the slot. -/
theorem lt_length_of_cleared (h : run c { cookies := cookies } actions = some s)
    (cleared : .clear k ∈ actions) : k < s.renewals.length := by
  have fits := course_fits h k
  have nonzero : (Course.of k actions s.history).clears ≠ 0 :=
    fun zero => Course.clears_eq_zero_iff.mp zero cleared
  rw [← Nat.not_le, ← List.getElem?_eq_none_iff]
  generalize s.renewals[k]? = stage?, Course.of k actions s.history = course at fits nonzero ⊢
  cases fits with
  | absent => exact absurd rfl nonzero
  | _ => exact nofun

/-- As long as the first renewal is in the slot, nobody is late. -/
theorem latecomers_eq_nil (uncleared : .clear 0 ∉ actions) : latecomers actions = [] := by
  have all : actions.dropWhile (!·.isClear 0) = [] := by
    refine List.dropWhile_eq_nil_iff.mpr fun a there => ?_
    rw [Bool.not_eq_true', ← Bool.not_eq_true, Action.isClear_iff]
    exact fun same => uncleared (same ▸ there)
  rw [latecomers, all, List.filterMap_nil]

/-- Afterwards, whoever goes to the slot is. -/
theorem latecomers_concat (cleared : .clear 0 ∈ actions) (a : Action) :
    latecomers (actions ++ [a]) = latecomers actions ++ a.join?.toList := by
  have filled : ¬ (actions.dropWhile (!·.isClear 0)).isEmpty := by
    rw [List.isEmpty_iff, List.dropWhile_eq_nil_iff]
    intro empty
    simpa [Action.isClear] using empty _ cleared
  rw [latecomers, List.dropWhile_append, if_neg filled, List.filterMap_append, latecomers]
  cases a <;> rfl

/-- The action that empties the slot is not one by which somebody goes there. -/
theorem latecomers_concat_of_join?_eq_none (elsewhere : a.join? = none) :
    latecomers (actions ++ [a]) = latecomers actions := by
  by_cases cleared : .clear 0 ∈ actions
  · rw [latecomers_concat cleared, elsewhere]
    exact List.append_nil _
  · rw [latecomers_eq_nil cleared, latecomers]
    have all : ∀ b ∈ actions, (!b.isClear 0) = true := fun b there => by
      rw [Bool.not_eq_true', ← Bool.not_eq_true, Action.isClear_iff]
      exact fun same => cleared (same ▸ there)
    rw [List.dropWhile_append_of_pos all]
    cases a <;> simp [Action.join?, List.dropWhile_cons] at elsewhere ⊢

/-- How many renewals there are, next to those who come to the slot after the first one. -/
structure Tally (actions : List Action) (s : State) : Prop where
  /-- Each of them starts one at most. -/
  le : s.renewals.length ≤ 1 + (latecomers actions).length
  /-- If there is one, there is a second renewal. -/
  two_le : latecomers actions ≠ [] → 2 ≤ s.renewals.length

/-- A move that neither starts a renewal nor goes to the slot keeps the count. -/
theorem Tally.keep (h : Tally actions s) (same : s'.renewals.length = s.renewals.length)
    (elsewhere : a.join? = none) : Tally (actions ++ [a]) s' := by
  constructor <;> rw [latecomers_concat_of_join?_eq_none elsewhere, same]
  · exact h.le
  · exact h.two_le

/-- Every move keeps the count. -/
theorem Tally.move (h : Tally actions s) (reached : run c { cookies := cookies } actions = some s)
    (moved : Move c s a s') : Tally (actions ++ [a]) s' := by
  have slot (k : Nat) := slot_eq_some_iff_uncleared reached (k := k)
  have le := h.le
  have early (uncleared : .clear 0 ∉ actions) (i : Nat) :
      latecomers (actions ++ [.join i]) = [] :=
    latecomers_eq_nil (by simpa using uncleared)
  have late (cleared : .clear 0 ∈ actions) (i : Nat) :
      (latecomers (actions ++ [.join i])).length = (latecomers actions).length + 1 := by
    rw [latecomers_concat cleared, List.length_append]
    rfl
  cases moved with
  | @joined i k w here held =>
    obtain ⟨started, uncleared⟩ := (slot k).mp held
    have same : (s.setPhase i (.waiting k)).renewals.length = s.renewals.length := rfl
    by_cases cleared : .clear 0 ∈ actions
    · -- the renewal in the slot is not the first one any more
      have later : k ≠ 0 := fun first => uncleared (first ▸ cleared)
      exact ⟨by rw [late cleared, State.record_renewals]; omega, fun _ => by
        rw [State.record_renewals]; omega⟩
    · rw [latecomers_eq_nil cleared] at le
      exact ⟨by rw [early cleared]; exact le, fun found => absurd (early cleared i) found⟩
  | @started i w here empty =>
    have grown : (({ s with slot := some s.renewals.length
                            renewals := s.renewals ++ [Stage.installed] } : State).setPhase i
        (.waiting s.renewals.length)).renewals.length = s.renewals.length + 1 := by
      simp
    by_cases cleared : .clear 0 ∈ actions
    · have first := lt_length_of_cleared reached cleared
      exact ⟨by rw [late cleared, State.record_renewals, grown]; omega, fun _ => by
        rw [State.record_renewals, grown]; omega⟩
    · -- the slot is empty and the first renewal has not left it, so there is none
      have zero : s.renewals.length = 0 := by
        by_contra nonzero
        have held := (slot 0).mpr ⟨Nat.pos_of_ne_zero nonzero, cleared⟩
        rw [empty] at held
        cases held
      exact ⟨by rw [early cleared, State.record_renewals, grown, zero]; exact Nat.le_refl 1,
        fun found => absurd (early cleared i) found⟩
  | _ => exact h.keep (by simp) rfl

/-- The count is kept in every state that a run leads to. -/
theorem tally (h : run c { cookies := cookies } actions = some s) : Tally actions s :=
  run_induction (motive := fun actions s => Tally actions s)
    ⟨Nat.zero_le _, fun nonzero => absurd rfl nonzero⟩
    (fun reached ih moved => ih.move reached moved) h

/-! ### Renewals that went to the backend -/

/-- True of a renewal that has taken its first step. -/
def Stage.hasLeft : Stage → Bool
  | .installed => false
  | _ => true

/-- Its first step is the one that counts. -/
theorem countP_hasLeft_set {renewals : List Stage} {old new : Stage}
    (here : renewals[k]? = some old) (left : new.hasLeft = true) :
    (renewals.set k new).countP Stage.hasLeft =
      renewals.countP Stage.hasLeft + if old.hasLeft then 0 else 1 := by
  obtain ⟨inside, rfl⟩ := List.getElem?_eq_some_iff.mp here
  rw [List.countP_set inside, if_pos left]
  split
  · next before =>
    have positive := List.countP_pos_iff.mpr ⟨_, List.getElem_mem inside, before⟩
    omega
  · rfl

/-- A renewal whose URL is known goes to the backend with its first step. -/
theorem refreshes_eq {url : Url} (resolved : c.config.endpoint c.config.refreshPath = .ok url)
    (h : run c { cookies := cookies } actions = some s) :
    refreshes s.history = s.renewals.countP Stage.hasLeft := by
  refine run_induction (motive := fun _ s =>
    refreshes s.history = s.renewals.countP Stage.hasLeft) rfl ?_ h
  intro actions s a s' _ ih moved
  cases moved with
  | attempted built => simpa [refreshes] using ih
  | concluded here final => split <;> simpa [refreshes] using ih
  | joined here held => simpa [refreshes] using ih
  | started here empty => cases c.detached <;> simpa [refreshes, Stage.hasLeft] using ih
  | unresolved here driven failed =>
    rw [resolved] at failed
    cases failed
  | @launched k url' here driven resolved' =>
    have left : Stage.hasLeft (.outstanding url') = true := rfl
    have next := countP_hasLeft_set here left
    simpa [refreshes, next, Stage.hasLeft] using ih
  | @answered k url' answer here driven =>
    rw [State.setStage_renewals, countP_hasLeft_set here rfl]
    exact ih
  | @cleared k v here =>
    show _ = (s.renewals.set _ _).countP Stage.hasLeft
    rw [countP_hasLeft_set here rfl]
    exact ih
  | @reported k v here =>
    rw [State.record_renewals, State.setStage_renewals, countP_hasLeft_set here rfl, ← ih]
    rw [State.record_history, refreshes, List.countP_append]
    cases v <;> rfl
  | retried here settled built => simpa [refreshes] using ih
  | _ => exact ih

/-! ### Runs that are over -/

/-- All who have come have got something. -/
def Complete (s : State) : Prop :=
  ∀ caller ∈ s.callers, ∃ ending, caller.phase = .done ending

/-- Then a renewal that somebody has come to wait for has settled. -/
theorem Complete.settled {started : Bool} (done : Complete s)
    (h : run c { cookies := cookies } actions = some s)
    (joined : .joined i k started ∈ s.history) : ∃ v, s.renewals[k]? = some (.settled v) := by
  obtain ⟨w, p, caller, came⟩ :=
    (track_fits h i).heard (Track.mem_joins_iff.mpr ⟨started, joined⟩)
  obtain ⟨ending, rfl⟩ := done _ (List.mem_of_getElem? caller)
  rcases came with dropped | waiting | ⟨v, settled, -⟩
  · cases dropped
  · cases waiting
  · exact ⟨v, settled⟩

/-- Then each renewal has gone to the backend. -/
theorem Complete.refreshes_eq {url : Url} (done : Complete s)
    (h : run c { cookies := cookies } actions = some s)
    (resolved : c.config.endpoint c.config.refreshPath = .ok url) :
    refreshes s.history = s.renewals.length := by
  rw [Session.refreshes_eq resolved h, List.countP_eq_length]
  intro stage there
  obtain ⟨k, here⟩ := List.getElem?_of_mem there
  have inside := (List.getElem?_eq_some_iff.mp here).1
  obtain ⟨i, joined⟩ := Course.starters_ne_nil_iff.mp ((starters_ne_nil_iff_lt h).mpr inside)
  obtain ⟨v, settled⟩ := done.settled h joined
  rw [here] at settled
  cases settled
  rfl

/-- A request that has come to its end has been to the slot exactly if its first answer sent it
there. -/
theorem Track.Fits.joins_ne_nil_iff {renewals : List Stage} {r : Request}
    {ending : Except Error Reply} {track : Track}
    (fits : Track.Fits c renewals (some ⟨.send r, .done ending⟩) track) :
    track.joins ≠ [] ↔ ∃ answer, track.answers.head? = some answer ∧ answer.expires r = true := by
  cases fits with
  | refused built => simp
  | ended answer built final => simp [final]
  | failed arrival settled =>
    cases arrival with
    | expired built lapsed => simp [lapsed]
  | endedAgain answer' built lapsed again settled => simp [lapsed]

/-! ### One expiry -/

/-- How many requests come before the first answer to a renewal. -/
def early (actions : List Action) : Nat :=
  ((actions.takeWhile (!·.isSettle)).filterMap Action.wish?).length

/-- The answers to a caller's attempts. -/
def answersTo (i : Nat) (actions : List Action) : List Answer :=
  actions.filterMap (Action.answer? i)

/-- True of an answer that reports success. -/
def Answer.succeeds : Answer → Bool
  | .response x => x.isSuccess
  | .failure _ => false

/-- True of an answer that says that there is no session. -/
def Answer.lapses : Answer → Bool
  | .response x => x.isUnauthorized
  | .failure _ => false

/-- A session expires once in a run. Whatever goes out before it is renewed is answered so, and
whatever goes out afterwards succeeds; second attempts all go out afterwards. Nobody asks for a
renewal or goes away, and renewals succeed. -/
structure ExpiresOnce (actions : List Action) : Prop where
  unasked : .come .renew ∉ actions
  stays : ∀ i, .drop i ∉ actions
  renewed : ∀ k answer, .settle k answer ∈ actions → answer.succeeds = true
  lapsed : ∀ i answer, i < early actions → (answersTo i actions).head? = some answer →
    answer.lapses = true
  valid : ∀ i answer, early actions ≤ i → (answersTo i actions).head? = some answer →
    answer.succeeds = true
  validAgain : ∀ i, ∀ answer ∈ (answersTo i actions).tail, answer.succeeds = true

/-- A request was answered that the session is over, and has not opted out of a renewal. -/
def Expired (actions : List Action) (s : State) (i : Nat) : Prop :=
  ∃ r p answer, s.callers[i]? = some ⟨.send r, p⟩ ∧ r.renews = true ∧
    (answersTo i actions).head? = some answer ∧ answer.lapses = true

/-- It is enough to look at the callers that are answered. -/
theorem ExpiresOnce.of_answered {n : Nat} (unasked : .come .renew ∉ actions)
    (stays : ∀ i, .drop i ∉ actions)
    (renewed : ∀ k answer, .settle k answer ∈ actions → answer.succeeds = true)
    (answered : ∀ i answer, .answer i answer ∈ actions → i < n)
    (first : ∀ i < n, ∀ answer ∈ (answersTo i actions).head?,
      if i < early actions then answer.lapses = true else answer.succeeds = true)
    (again : ∀ i < n, ∀ answer ∈ (answersTo i actions).tail, answer.succeeds = true) :
    ExpiresOnce actions := by
  have inside (i : Nat) (answer : Answer) (there : answer ∈ answersTo i actions) : i < n := by
    obtain ⟨a, mem, brings⟩ := List.mem_filterMap.mp there
    cases a <;> simp [Action.answer?] at brings
    exact answered i answer (brings.1 ▸ brings.2 ▸ mem)
  refine ⟨unasked, stays, renewed, fun i answer before there => ?_, fun i answer after there => ?_,
    fun i answer there => again i (inside i answer (List.mem_of_mem_tail there)) answer there⟩
  · have lapses := first i (inside i answer (List.mem_of_mem_head? there)) answer there
    rwa [if_pos before] at lapses
  · have succeeds := first i (inside i answer (List.mem_of_mem_head? there)) answer there
    rwa [if_neg (Nat.not_lt.mpr after)] at succeeds

theorem Answer.expires_eq (r : Request) (answer : Answer) :
    answer.expires r = (answer.lapses && r.renews) := by
  cases answer <;> rfl

/-- Whoever has been to the slot by the end of such a run is a request that was answered that the
session is over. -/
theorem Complete.join_mem_iff (done : Complete s) (once : ExpiresOnce actions)
    (h : run c { cookies := cookies } actions = some s) :
    .join i ∈ actions ↔ Expired actions s i := by
  have fits := track_fits h i
  rw [Session.join_mem_iff h]
  constructor
  · rintro ⟨k, started, joined⟩
    have joins : k ∈ (Track.of i actions s.history).joins :=
      Track.mem_joins_iff.mpr ⟨started, joined⟩
    obtain ⟨w, p, caller, -⟩ := fits.heard joins
    obtain ⟨ending, rfl⟩ := done _ (List.mem_of_getElem? caller)
    cases w with
    | renew =>
      have came : Wish.renew ∈ actions.filterMap Action.wish? := by
        rw [← map_wish_callers h]
        exact List.mem_map_of_mem (List.mem_of_getElem? caller)
      obtain ⟨a, there, wish⟩ := List.mem_filterMap.mp came
      cases a <;> cases wish
      exact absurd there once.unasked
    | send r =>
      rw [caller] at fits
      obtain ⟨answer, first, expires⟩ := fits.joins_ne_nil_iff.mp (List.ne_nil_of_mem joins)
      rw [Answer.expires_eq, Bool.and_eq_true] at expires
      exact ⟨r, _, answer, caller, expires.2, first, expires.1⟩
  · rintro ⟨r, p, answer, caller, renews, first, lapses⟩
    obtain ⟨ending, rfl⟩ := done _ (List.mem_of_getElem? caller)
    rw [caller] at fits
    have filled : (Track.of i actions s.history).joins ≠ [] := by
      refine fits.joins_ne_nil_iff.mpr ⟨answer, first, ?_⟩
      rw [Answer.expires_eq, lapses, renews]
      rfl
    obtain ⟨k, joined⟩ := List.exists_mem_of_ne_nil _ filled
    exact ⟨k, Track.mem_joins_iff.mp joined⟩

/-- Renewals of one expiry, next to the requests that were answered that the session is over. -/
structure Sharing (actions : List Action) (s : State) : Prop where
  /-- These are the requests that go to the slot. -/
  join_iff : ∀ i, .join i ∈ actions ↔ Expired actions s i
  /-- All of them went out before the session was renewed. -/
  early : ∀ i, Expired actions s i → i < early actions
  /-- Without any, the session is not renewed. -/
  unneeded : (∀ i, ¬ Expired actions s i) → refreshes s.history = 0
  /-- Otherwise it is. -/
  needed : (∃ i, Expired actions s i) → 1 ≤ refreshes s.history
  /-- It is renewed once if all of them come to the slot before the first renewal has left it, and
  only then. -/
  once_iff : (∃ i, Expired actions s i) → (refreshes s.history = 1 ↔ latecomers actions = [])
  /-- Whoever comes later has it renewed once more at most. -/
  le : refreshes s.history ≤ 1 + (latecomers actions).length

/-- **How often a session is renewed that expires once.** In every run at whose end all requests
have got something, whatever the order of their answers, the session is renewed if one of them was
answered that it is over, and it is renewed once exactly if none of these comes to the slot after
the first renewal has left it. -/
theorem refreshes_of_expiry {url : Url} (h : run c { cookies := cookies } actions = some s)
    (done : Complete s) (once : ExpiresOnce actions)
    (resolved : c.config.endpoint c.config.refreshPath = .ok url) : Sharing actions s := by
  have join (i : Nat) : .join i ∈ actions ↔ Expired actions s i := done.join_mem_iff once h
  have count : refreshes s.history = s.renewals.length := done.refreshes_eq h resolved
  have renewed (expired : ∃ i, Expired actions s i) : 1 ≤ s.renewals.length := by
    obtain ⟨i, expired⟩ := expired
    obtain ⟨k, started, joined⟩ := (join_mem_iff h).mp ((join i).mpr expired)
    obtain ⟨v, settled⟩ := done.settled h joined
    exact Nat.lt_of_le_of_lt (Nat.zero_le k) (List.getElem?_eq_some_iff.mp settled).1
  refine ⟨join, fun i expired => ?_, fun unexpired => ?_, fun expired => ?_, fun expired => ?_, ?_⟩
  · obtain ⟨r, p, answer, caller, renews, first, lapses⟩ := expired
    by_contra late
    have succeeds := once.valid i answer (Nat.not_lt.mp late) first
    cases answer with
    | failure timedOut => cases lapses
    | response x =>
      have success := Response.isSuccess_iff.mp succeeds
      have unauthorized : x.status = 401 := beq_iff_eq.mp lapses
      omega
  · rw [count]
    by_contra nonzero
    have started := (starters_ne_nil_iff_lt h).mpr (Nat.pos_of_ne_zero nonzero)
    obtain ⟨i, joined⟩ := Course.starters_ne_nil_iff.mp started
    exact unexpired i ((join i).mp ((join_mem_iff h).mpr ⟨0, true, joined⟩))
  · rw [count]
    exact renewed expired
  · have one := renewed expired
    have counted := tally h
    rw [count]
    constructor
    · intro single
      by_contra late
      have two := counted.two_le late
      omega
    · intro timely
      have le := counted.le
      rw [timely] at le
      exact Nat.le_antisymm le one
  · rw [count]
    exact (tally h).le

/-- What sharing a renewal would come to: the session is renewed once if a request was answered that
it is over, and otherwise not at all. -/
def RenewsOnce (actions : List Action) (s : State) : Prop :=
  ((∃ i, Expired actions s i) → refreshes s.history = 1) ∧
    ((∀ i, ¬ Expired actions s i) → refreshes s.history = 0)

namespace Sample

/-- Two requests go out, and a third one after the session was renewed. The second one comes to the
slot while the renewal that the first one has started is there. -/
def together : List Action :=
  [.come (.send listing), .come (.send listing), .answer 0 (.response ⟨401, none⟩), .join 0,
   .launch 0, .answer 1 (.response ⟨401, none⟩), .settle 0 (.response ⟨204, none⟩), .join 1,
   .clear 0, .come (.send listing), .report 0, .resume 0, .resume 1,
   .answer 2 (.response ⟨200, none⟩), .answer 1 (.response ⟨200, none⟩),
   .answer 0 (.response ⟨200, none⟩)]

/-- The second of two requests is answered that the session is over when the renewal that the first
one has started is gone. -/
def straggling : List Action :=
  [.come (.send listing), .come (.send listing), .answer 0 (.response ⟨401, none⟩), .join 0,
   .launch 0, .settle 0 (.response ⟨204, none⟩), .clear 0, .report 0, .resume 0,
   .answer 0 (.response ⟨200, none⟩), .answer 1 (.response ⟨401, none⟩), .join 1, .launch 1,
   .settle 1 (.response ⟨204, none⟩), .clear 1, .report 1, .resume 1,
   .answer 1 (.response ⟨200, none⟩)]

theorem expiresOnce_together : ExpiresOnce together :=
  .of_answered (n := 3) (by simp [together]) (by simp [together])
    (by simp [together, Answer.succeeds, Response.isSuccess]) (by simp [together]; omega)
    (by decide) (by decide)

theorem expiresOnce_straggling : ExpiresOnce straggling :=
  .of_answered (n := 2) (by simp [straggling]) (by simp [straggling])
    (by
      intro k answer there
      simp only [straggling, List.mem_cons, reduceCtorEq, Action.settle.injEq, List.not_mem_nil,
        or_false, false_or] at there
      rcases there with ⟨-, rfl⟩ | ⟨-, rfl⟩ <;> rfl)
    (by simp [straggling]; omega) (by decide) (by decide)

/-- Renewals of the client have a URL. -/
theorem exists_refreshUrl :
    ∃ url, (client true).config.endpoint (client true).config.refreshPath = .ok url := by
  have resolved : ((client true).config.endpoint (client true).config.refreshPath).isOk = true := by
    decide
  cases h : (client true).config.endpoint (client true).config.refreshPath with
  | ok url => exact ⟨url, rfl⟩
  | error fault =>
    rw [h] at resolved
    cases resolved

/-- A request that has succeeded. -/
def served : Caller := ⟨.send listing, .done (.ok (.response ⟨200, none⟩))⟩

/-- A run at whose end all requests have succeeded is complete. -/
theorem complete_of_served {s : State} {n : Nat} (callers : s.callers = List.replicate n served) :
    Complete s := by
  intro caller there
  rw [callers] at there
  rw [List.eq_of_mem_replicate there]
  exact ⟨_, rfl⟩

end Sample

/-- The two requests share a renewal, and the third one does not need any. -/
theorem refreshes_of_expiry_together :
    ∃ s, run (Sample.client true) { cookies := Sample.noCookies } Sample.together = some s ∧
      refreshes s.history = 1 ∧ Sharing Sample.together s := by
  have reached : (run (Sample.client true) { cookies := Sample.noCookies } Sample.together).map
      (fun s => (s.callers, refreshes s.history)) = some (List.replicate 3 Sample.served, 1) := by
    with_unfolding_all rfl
  obtain ⟨s, h, seen⟩ := Option.map_eq_some_iff.mp reached
  obtain ⟨callers, once⟩ := Prod.mk.inj seen
  obtain ⟨url, resolved⟩ := Sample.exists_refreshUrl
  exact ⟨s, h, once, refreshes_of_expiry h (Sample.complete_of_served callers)
    Sample.expiresOnce_together resolved⟩

/-- **A late answer has the session renewed again.** The session expires once, both requests are
answered so, all succeed in the end, and there are two renewals. -/
theorem expiry_straggling :
    ∃ s, run (Sample.client true) { cookies := Sample.noCookies } Sample.straggling = some s ∧
      Complete s ∧ ExpiresOnce Sample.straggling ∧ refreshes s.history = 2 ∧
      ¬ RenewsOnce Sample.straggling s := by
  have reached : (run (Sample.client true) { cookies := Sample.noCookies } Sample.straggling).map
      (fun s => (s.callers, refreshes s.history)) = some (List.replicate 2 Sample.served, 2) := by
    with_unfolding_all rfl
  obtain ⟨s, h, seen⟩ := Option.map_eq_some_iff.mp reached
  obtain ⟨callers, twice⟩ := Prod.mk.inj seen
  have complete := Sample.complete_of_served callers
  refine ⟨s, h, complete, Sample.expiresOnce_straggling, twice, fun once => ?_⟩
  have expired : Expired Sample.straggling s 1 :=
    (complete.join_mem_iff Sample.expiresOnce_straggling h).mp (by simp [Sample.straggling])
  rw [once.1 ⟨1, expired⟩] at twice
  cases twice

end Brokerage.Session
