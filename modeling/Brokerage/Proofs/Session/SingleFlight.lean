import Brokerage.Proofs.Session.Caller

/-!
# One renewal in flight

The slot is a lock that whoever learns first that the session is over takes for a renewal, and that
the renewal itself gives back. `slot_eq_some_iff` ties it to the stages: the renewal in the slot is
the one that is open, from the moment it is put there until it has emptied the slot. So at most one
renewal is open, at most one is with the backend, and a renewal that empties the slot finds itself
there.

`single_flight` says what follows for a run: over any number of callers, in any order of steps,
whether a renewal goes on by itself or only while somebody waits for it.
-/

namespace Brokerage.Session

variable {c : Client} {cookies : CookieSource} {s s' : State} {a : Action} {actions : List Action}
variable {k : Nat}

/-- True of a renewal that has not emptied the slot yet. -/
def Stage.isOpen : Stage → Bool
  | .installed => true
  | .outstanding _ => true
  | .answered _ => true
  | .cleared _ => false
  | .settled _ => false

/-! ### The slot and the open renewal -/

/-- The slot holds a renewal exactly if the renewal is open. -/
def SlotHoldsOpen (s : State) : Prop :=
  ∀ k, s.slot = some k ↔ ∃ stage, s.renewals[k]? = some stage ∧ stage.isOpen = true

/-- A renewal that goes on without emptying the slot stays in it. -/
theorem SlotHoldsOpen.setStage {j : Nat} {old new : Stage} (h : SlotHoldsOpen s)
    (here : s.renewals[j]? = some old) (slot : s'.slot = s.slot)
    (renewals : s'.renewals = s.renewals.set j new) (same : new.isOpen = old.isOpen) :
    SlotHoldsOpen s' := by
  intro k
  rw [slot, renewals, h k]
  by_cases hk : j = k
  · subst hk
    rw [List.getElem?_set_self (List.getElem?_eq_some_iff.mp here).1, here]
    simp [same]
  · rw [List.getElem?_set_ne hk]

/-- The open renewal that empties the slot was in it, and no other one is open then. -/
theorem SlotHoldsOpen.clear {j : Nat} {v : Verdict} (h : SlotHoldsOpen s)
    (here : s.renewals[j]? = some (.answered v)) :
    SlotHoldsOpen { s.setStage j (.cleared v) with slot := none } := by
  have held : s.slot = some j := (h j).mpr ⟨_, here, rfl⟩
  intro k
  show none = some k ↔ ∃ stage, (s.renewals.set j (.cleared v))[k]? = some stage ∧ _
  refine ⟨nofun, ?_⟩
  rintro ⟨stage, there, opened⟩
  by_cases hk : j = k
  · subst hk
    rw [List.getElem?_set_self (List.getElem?_eq_some_iff.mp here).1] at there
    cases there
    cases opened
  · rw [List.getElem?_set_ne hk] at there
    have held' : s.slot = some k := (h k).mpr ⟨stage, there, opened⟩
    rw [held] at held'
    exact absurd (Option.some.inj held') hk

/-- Whoever finds the slot empty finds no open renewal, so the one that comes into the slot is the
only one. -/
theorem SlotHoldsOpen.install (h : SlotHoldsOpen s) (empty : s.slot = none)
    (slot : s'.slot = some s.renewals.length)
    (renewals : s'.renewals = s.renewals ++ [Stage.installed]) : SlotHoldsOpen s' := by
  intro k
  rw [slot, renewals]
  by_cases hk : k = s.renewals.length
  · subst hk
    simp [Stage.isOpen]
  · rw [getElem?_concat_of_ne hk]
    have closed := h k
    rw [empty] at closed
    constructor
    · intro same
      exact absurd (Option.some.inj same).symm hk
    · intro opened
      cases closed.mpr opened

/-- Every move keeps the open renewal in the slot. -/
theorem SlotHoldsOpen.move (h : SlotHoldsOpen s) (hm : Move c s a s') : SlotHoldsOpen s' := by
  cases hm with
  | started here empty => exact h.install empty rfl rfl
  | unresolved here driven resolved => exact h.setStage here rfl rfl rfl
  | launched here driven resolved => exact h.setStage here rfl rfl rfl
  | answered here driven => exact h.setStage here rfl rfl rfl
  | cleared here => exact h.clear here
  | reported here => exact h.setStage here rfl rfl rfl
  | _ => exact h

/-- **The slot holds the open renewal**, in every state that a run leads to. -/
theorem slot_eq_some_iff (h : run c { cookies := cookies } actions = some s) (k : Nat) :
    s.slot = some k ↔ ∃ stage, s.renewals[k]? = some stage ∧ stage.isOpen = true := by
  refine run_induction (motive := fun _ s => SlotHoldsOpen s) ?_ (fun _ ih hm => ih.move hm) h k
  intro k
  simp

/-- At most one renewal is open. -/
theorem open_unique (h : run c { cookies := cookies } actions = some s) {j k : Nat}
    {stage stage' : Stage} (hj : s.renewals[j]? = some stage) (oj : stage.isOpen = true)
    (hk : s.renewals[k]? = some stage') (ok : stage'.isOpen = true) : j = k := by
  have slotj := (slot_eq_some_iff h j).mpr ⟨stage, hj, oj⟩
  have slotk := (slot_eq_some_iff h k).mpr ⟨stage', hk, ok⟩
  rw [slotj] at slotk
  exact Option.some.inj slotk

/-! ### Courses of open renewals -/

/-- A renewal is open once it was put into the slot and until it has emptied it. -/
theorem Course.Fits.isOpen_iff {stage? : Option Stage} {course : Course}
    (fits : Course.Fits c stage? course) :
    (∃ stage, stage? = some stage ∧ stage.isOpen = true) ↔
      course.starters ≠ [] ∧ course.clears = 0 := by
  cases fits <;> simp [Stage.isOpen]

/-- A renewal that was sent and not answered is open. -/
theorem Course.Fits.isOpen_of_unanswered {stage? : Option Stage} {course : Course}
    (fits : Course.Fits c stage? course) (sent : course.calls ≠ [])
    (unanswered : course.answers = []) :
    ∃ stage, stage? = some stage ∧ stage.isOpen = true := by
  cases fits with
  | absent => exact absurd rfl sent
  | installed => exact absurd rfl sent
  | outstanding resolved => exact ⟨_, rfl, rfl⟩
  | answered origin => exact ⟨_, rfl, rfl⟩
  | cleared origin => cases origin <;> simp at sent unanswered
  | settled origin => cases origin <;> simp at sent unanswered

/-- A renewal that has settled has emptied the slot. -/
theorem Course.Fits.clears_eq_one {v : Verdict} {course : Course}
    (fits : Course.Fits c (some (.settled v)) course) : course.clears = 1 := by
  cases fits
  rfl

/-- A renewal is sent once at most. -/
theorem Course.Fits.length_calls_le {stage? : Option Stage} {course : Course}
    (fits : Course.Fits c stage? course) : course.calls.length ≤ 1 := by
  cases fits with
  | absent => exact Nat.zero_le 1
  | installed => exact Nat.zero_le 1
  | outstanding resolved => exact Nat.le_refl 1
  | answered origin => cases origin <;> simp
  | cleared origin => cases origin <;> simp
  | settled origin => cases origin <;> simp

/-- A caller that has gone on after a renewal finds that it has settled. -/
theorem Track.Fits.settled_of_resumed {renewals : List Stage} {caller : Option Caller}
    {track : Track} (fits : Track.Fits c renewals caller track) (joined : k ∈ track.joins)
    (resumed : track.resumes ≠ 0) : ∃ v, renewals[k]? = some (.settled v) := by
  induction fits with
  | failed arrival settled =>
    rw [List.mem_singleton.mp joined]
    exact ⟨_, settled⟩
  | renewed settled =>
    rw [List.mem_singleton.mp joined]
    exact ⟨_, settled⟩
  | retried built lapsed again settled =>
    rw [List.mem_singleton.mp joined]
    exact ⟨_, settled⟩
  | endedAgain answer' built lapsed again settled =>
    rw [List.mem_singleton.mp joined]
    exact ⟨_, settled⟩
  | dropped alive fits ih => exact ih joined resumed
  | _ => exact absurd rfl resumed

/-! ### Single flight -/

/-- A renewal is with the backend: it was sent, and no answer has come. -/
def IsOutstanding (actions : List Action) (s : State) (k : Nat) : Prop :=
  (∃ o, .sent (.renewal k) o ∈ s.history) ∧ ∀ answer, .settle k answer ∉ actions

/-- What is true of the slot, the renewals and those who wait for them after a run. -/
structure SingleFlight (c : Client) (actions : List Action) (s : State) : Prop where
  /-- The slot holds the renewal that somebody has put there and that has not emptied it yet. -/
  slot_iff : ∀ k, s.slot = some k ↔
    (∃ i, .joined i k true ∈ s.history) ∧ .clear k ∉ actions
  /-- At most one renewal is with the backend. -/
  outstanding_unique : ∀ j k, IsOutstanding actions s j → IsOutstanding actions s k → j = k
  /-- No renewal is sent twice. -/
  sent_once : ∀ k, (s.history.filterMap (Event.refresh? k)).length ≤ 1
  /-- A renewal that empties the slot takes itself out of it. -/
  clear_own : ∀ k s', step c s (.clear k) = some s' → s.slot = some k ∧ s'.slot = none
  /-- Whoever comes to the slot and finds a renewal there waits for it and starts nothing. -/
  join_held : ∀ i w k, s.callers[i]? = some ⟨w, .expired⟩ → s.slot = some k →
    ∃ s', step c s (.join i) = some s' ∧ s'.callers[i]? = some ⟨w, .waiting k⟩ ∧
      s'.slot = some k ∧ s'.renewals = s.renewals
  /-- Whoever finds the slot empty puts one new renewal there and waits for it. -/
  join_empty : ∀ i w, s.callers[i]? = some ⟨w, .expired⟩ → s.slot = none →
    ∃ s', step c s (.join i) = some s' ∧
      s'.callers[i]? = some ⟨w, .waiting s.renewals.length⟩ ∧
      s'.slot = some s.renewals.length ∧ s'.renewals = s.renewals ++ [.installed]
  /-- Whoever has gone on after a renewal has done so after it had emptied the slot. -/
  resumed_cleared : ∀ i k started, .joined i k started ∈ s.history → .resume i ∈ actions →
    s.slot ≠ some k ∧ .clear k ∈ actions

/-- **Single flight.** In every state that a run leads to, over any number of callers and whatever
drives the renewals, the slot holds the one renewal that is in flight, whoever needs one joins it,
and nobody goes on while it is still there. -/
theorem single_flight (h : run c { cookies := cookies } actions = some s) :
    SingleFlight c actions s := by
  have course := course_fits h
  have slot := slot_eq_some_iff h
  have openAt (k : Nat) := (course k).isOpen_iff
  refine
    { slot_iff := fun k => ?_, outstanding_unique := fun j k hj hk => ?_,
      sent_once := fun k => (course k).length_calls_le, clear_own := fun k s' hs => ?_,
      join_held := fun i w k here held => ?_, join_empty := fun i w here empty => ?_,
      resumed_cleared := fun i k started joined resumed => ?_ }
  · rw [slot, openAt, Course.clears_eq_zero_iff, Course.starters_ne_nil_iff]
  · have isOpen {n : Nat} (out : IsOutstanding actions s n) :
        ∃ stage, s.renewals[n]? = some stage ∧ stage.isOpen = true := by
      obtain ⟨⟨o, sent⟩, unanswered⟩ := out
      refine (course n).isOpen_of_unanswered ?_ ?_
      · exact List.ne_nil_of_mem (Course.mem_calls_iff.mpr sent)
      · refine List.eq_nil_iff_forall_not_mem.mpr fun answer there => ?_
        exact unanswered answer (Course.mem_answers_iff.mp there)
    obtain ⟨stage, atj, oj⟩ := isOpen hj
    obtain ⟨stage', atk, ok⟩ := isOpen hk
    exact open_unique h atj oj atk ok
  · cases move_of_step hs with
    | cleared here => exact ⟨(slot k).mpr ⟨_, here, rfl⟩, rfl⟩
  · refine ⟨_, step_eq_some_iff.mpr (.joined here held), ?_⟩
    simp [here, held]
  · refine ⟨_, step_eq_some_iff.mpr (.started here empty), ?_⟩
    simp [here]
  · have settled := (track_fits h i).settled_of_resumed
      (Track.mem_joins_iff.mpr ⟨started, joined⟩)
      (fun never => Track.resumes_eq_zero_iff.mp never resumed)
    obtain ⟨v, settled⟩ := settled
    constructor
    · intro held
      obtain ⟨stage, there, opened⟩ := (slot k).mp held
      rw [settled] at there
      cases there
      cases opened
    · have once := course k
      rw [settled] at once
      by_contra uncleared
      rw [← Course.clears_eq_zero_iff, once.clears_eq_one] at uncleared
      cases uncleared

/-! ### A renewal that is abandoned -/

namespace Sample

/-- Two callers wait for a renewal that nobody but them drives. The one who started it goes away
before it is sent, and a third comes between the moments at which the renewal empties the slot and
at which it reports that it has failed. -/
def abandoned : List Action :=
  [.come .renew, .come .renew, .join 0, .join 1, .drop 0, .launch 0,
   .settle 0 (.response ⟨401, none⟩), .clear 0, .come .renew, .join 2, .report 0, .resume 1]

end Sample

/-- The slot holds the second renewal then. -/
theorem single_flight_abandoned :
    ∃ s, run (Sample.client false) { cookies := Sample.noCookies } Sample.abandoned = some s ∧
      s.slot = some 1 ∧ SingleFlight (Sample.client false) Sample.abandoned s := by
  have reached : (run (Sample.client false) { cookies := Sample.noCookies } Sample.abandoned).map
      State.slot = some (some 1) := by
    decide
  obtain ⟨s, h, slot⟩ := Option.map_eq_some_iff.mp reached
  exact ⟨s, h, slot, single_flight h⟩

end Brokerage.Session
