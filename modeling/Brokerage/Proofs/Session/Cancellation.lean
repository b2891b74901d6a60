import Brokerage.Proofs.Session.Notification
import Brokerage.Proofs.Session.SingleFlight
import Brokerage.Proofs.Session.Sparing

/-!
# Cancellation does not disturb a renewal

What comes of callers going away, with renewals that go on by themselves. For the callers, it is the
same as if nobody had gone away who had come to wait for a renewal (`Undisturbed`): this is the
simulation of `Agrees.foldl`, from the start. For the renewals, it does not even matter whether any
caller is there (`Unattended`): they are sent, answered, taken out of the slot and reported by steps
of their own, and whoever comes next finds the slot empty or another renewal in it.
-/

namespace Brokerage.Session

variable {c : Client} {cookies : CookieSource} {s : State}

/-! ### Cancellation -/

/-- The state that a plan leads to. -/
def followed (c : Client) (cookies : CookieSource) (plan : List Action) : State :=
  plan.foldl (advance c) { cookies := cookies }

/-- The state that a plan leads to if nobody goes away who has come to wait for a renewal. -/
def spared (c : Client) (cookies : CookieSource) (plan : List Action) : State :=
  plan.foldl (spare c) { cookies := cookies }

/-- A state in which callers have gone away, next to the one in which those are still there who have
come to wait for a renewal. -/
structure Undisturbed (c : Client) (cut full : State) : Prop where
  /-- The cookies, the slot and the renewals are the same. -/
  cookies : cut.cookies = full.cookies
  slot : cut.slot = full.slot
  renewals : cut.renewals = full.renewals
  /-- The same callers have come. -/
  length_callers : cut.callers.length = full.callers.length
  /-- Whoever has not gone away has come as far, and has got the same. -/
  remaining : ∀ (i : Nat) w p, cut.callers[i]? = some ⟨w, p⟩ → p ≠ .dropped →
    full.callers[i]? = some ⟨w, p⟩
  /-- What can be seen from outside is the same, in the same order, but for identifiers and the
  second attempts of those who have gone away. -/
  visible : cut.history.filterMap (Event.visible? cut.isGone) =
    full.history.filterMap (Event.visible? cut.isGone)
  /-- What they would do now does not happen. -/
  erased : ∀ (i : Nat) w (a : Action), cut.callers[i]? = some ⟨w, .dropped⟩ → a.caller? = some i →
    advance c cut a = cut

/-- What is true of the renewals of a run with renewals that go on by themselves, whoever has gone
away. -/
structure Unattended (c : Client) (actions : List Action) (s : State) : Prop where
  /-- No renewal is sent twice. -/
  sent_once : ∀ k, (s.history.filterMap (Event.refresh? k)).length ≤ 1
  /-- What a renewal comes to depends on its URL and on the answer to it. -/
  outcome : ∀ k v, s.renewals[k]? = some (.settled v) →
    (∃ fault, c.config.endpoint c.config.refreshPath = .error fault ∧
      v = .failed (.unreachable (Error.url fault).message)) ∨
    ∃ url answer, c.config.endpoint c.config.refreshPath = .ok url ∧
      .settle k answer ∈ actions ∧ v = verdict url answer
  /-- The application hears once of a failure. -/
  notified : ∀ k path f, s.history.count (.notified k path f) =
    if s.renewals[k]? = some (.settled (.failed f)) ∧ path = c.config.loginPath then 1 else 0
  /-- The slot does not hold a renewal that has settled. -/
  released : ∀ k v, s.renewals[k]? = some (.settled v) → s.slot ≠ some k
  /-- Whatever callers do next, a renewal that was started takes the course that it takes if none of
  them does anything. -/
  course : ∀ k (plan : List Action), k < s.renewals.length →
    (plan.foldl (advance c) s).about k =
      ((plan.filter (!·.isOfCaller)).foldl (advance c) s).about k
  /-- It settles as soon as it is answered and has taken its other steps. -/
  settles : ∀ k answer, k < s.renewals.length →
    ∃ v, ([.launch k, .settle k answer, .clear k, .report k].foldl (advance c) s).renewals[k]? =
      some (.settled v)
  /-- Whoever comes to the slot waits for a renewal that has not settled, and if all have, for a new
  one. -/
  fresh : ∀ i w, s.callers[i]? = some ⟨w, .expired⟩ →
    ∃ k, (advance c s (.join i)).callers[i]? = some ⟨w, .waiting k⟩ ∧
      (∀ v, s.renewals[k]? ≠ some (.settled v)) ∧
      ((∀ stage ∈ s.renewals, stage.isSettled = true) →
        k = s.renewals.length ∧ (advance c s (.join i)).renewals = s.renewals ++ [.installed])

/-- Renewals that go on by themselves do so in every state that a run leads to. -/
theorem unattended {actions : List Action} (detached : c.detached = true)
    (h : run c { cookies := cookies } actions = some s) : Unattended c actions s := by
  have released {k : Nat} {v : Verdict} (settled : s.renewals[k]? = some (.settled v)) :
      s.slot ≠ some k := by
    intro held
    obtain ⟨stage, here, isOpen⟩ := (slot_eq_some_iff h k).mp held
    rw [settled] at here
    cases here
    cases isOpen
  refine
    { sent_once := fun k => (course_fits h k).length_calls_le
      outcome := fun k v => settled_cases h
      notified := notice_count h
      released := fun k v => released
      course := fun k plan started => about_foldl detached started plan
      settles := fun k answer started => exists_settled detached started answer
      fresh := fun i w here => ?_ }
  cases held : s.slot with
  | some k =>
    rw [(Move.joined here held).advance_eq]
    refine ⟨k, by simp [here], fun v settled => released settled held, fun all => ?_⟩
    -- the renewal in the slot is open, so they have not all settled
    obtain ⟨stage, there, isOpen⟩ := (slot_eq_some_iff h k).mp held
    have settled := all stage (List.mem_of_getElem? there)
    cases stage <;> cases isOpen <;> cases settled
  | none =>
    rw [(Move.started here held).advance_eq]
    refine ⟨s.renewals.length, by simp [here], fun v settled => ?_, fun _ => ⟨rfl, by simp⟩⟩
    rw [List.getElem?_eq_none (Nat.le_refl _)] at settled
    cases settled

/-- Whoever goes away after having come to wait for a renewal is not missed. -/
theorem undisturbed (detached : c.detached = true) (cookies : CookieSource) (plan : List Action) :
    Undisturbed c (followed c cookies plan) (spared c cookies plan) := by
  have agrees : Agrees (followed c cookies plan).isGone (spared c cookies plan)
      (followed c cookies plan) :=
    (Agrees.refl _ _).foldl detached plan fun i w gone => State.isGone_iff.mpr ⟨w, gone⟩
  refine
    { cookies := agrees.cookies.symm, slot := agrees.slot.symm, renewals := agrees.renewals.symm,
      length_callers := agrees.length_callers.symm, remaining := fun i w p here there => ?_,
      visible := agrees.visible.symm, erased := fun i w a gone own => advance_of_dropped gone own }
  have like := agrees.callers i
  rw [here] at like
  generalize (spared c cookies plan).callers[i]? = caller at like
  cases like with
  | same => rfl
  | gone past gone => exact absurd rfl there

/-- **Cancellation does not disturb a renewal.** With renewals that go on by themselves, follow any
plan in which callers go away at any points; a run is such a plan. What comes of it is what comes of
the plan if nobody goes away who has come to wait for a renewal, but for those who have gone away;
and no renewal depends on who is there. Both are runs, and whom the second one spares has joined a
renewal in it. -/
theorem cancellation (detached : c.detached = true) (cookies : CookieSource) (plan : List Action) :
    Undisturbed c (followed c cookies plan) (spared c cookies plan) ∧
      (∀ s, run c { cookies := cookies } plan = some s → followed c cookies plan = s) ∧
      (∃ actions, actions.Sublist plan ∧
        run c { cookies := cookies } actions = some (followed c cookies plan) ∧
        Unattended c actions (followed c cookies plan)) ∧
      ∃ actions, actions.Sublist plan ∧
        run c { cookies := cookies } actions = some (spared c cookies plan) ∧
        ∀ i w p, (spared c cookies plan).callers[i]? = some ⟨w, p⟩ → p.isOver = false →
          ((spared c cookies plan).hasJoined i = true ↔
            ∃ k started, .joined i k started ∈ (spared c cookies plan).history) := by
  refine ⟨undisturbed detached cookies plan, fun s => foldl_advance_of_run, ?_, ?_⟩
  · obtain ⟨actions, part, reached⟩ :=
      exists_run_foldl (advance_eq_or_move c) { cookies := cookies } plan
    exact ⟨actions, part, reached, unattended detached reached⟩
  · obtain ⟨actions, part, reached⟩ :=
      exists_run_foldl (spare_eq_or_move c) { cookies := cookies } plan
    exact ⟨actions, part, reached, fun i w p here alive => hasJoined_iff reached here alive⟩

namespace Sample

/-- Whoever has started a renewal goes away while it is with the backend, and so does the only one
who has joined it. -/
def deserted : List Action :=
  [.come .renew, .come .renew, .join 0, .launch 0, .join 1, .drop 0, .drop 1,
   .settle 0 (.response ⟨204, none⟩), .clear 0, .report 0, .resume 0, .resume 1, .come .renew,
   .join 2]

end Sample

/-- The last caller waits for a second renewal then, with or without the others. -/
theorem cancellation_deserted :
    (followed (Sample.client true) Sample.noCookies Sample.deserted).isGone 0 = true ∧
      (spared (Sample.client true) Sample.noCookies Sample.deserted).isGone 0 = false ∧
      (followed (Sample.client true) Sample.noCookies Sample.deserted).slot = some 1 ∧
      Undisturbed (Sample.client true)
        (followed (Sample.client true) Sample.noCookies Sample.deserted)
        (spared (Sample.client true) Sample.noCookies Sample.deserted) :=
  ⟨by decide, by decide, by decide,
    (cancellation rfl Sample.noCookies Sample.deserted).1⟩

end Brokerage.Session
