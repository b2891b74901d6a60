import Brokerage.Session.Step
import Mathlib.Data.List.Induction

/-!
# Moves of a session

`Session.step` computes the state after something has happened. `Move` says the same as a relation
with one case for each way in which a step can go, the conditions and the state afterwards written
out, so that an invariant is a case analysis and never unfolds the step again (`step_eq_some_iff`).

A run starts in a state in which nobody has come yet. `run_induction` is the induction along it:
what holds at its start and is kept by every move holds wherever a run leads to. It speaks of the
actions of the run as well as of its state, because what the backend answered stands only there.
-/

namespace Brokerage.Session

variable {c : Client} {cookies : CookieSource} {s s' : State} {a : Action} {actions : List Action}

/-! ### Moves -/

/-- True of a caller that is done or has gone away. -/
def Phase.isOver : Phase → Bool
  | done _ => true
  | dropped => true
  | _ => false

/-- What may happen next in a session, and what comes of it. -/
inductive Move (c : Client) (s : State) : Action → State → Prop where
  /-- A request comes that cannot be put together. -/
  | refused {r : Request} {e : Error}
      (built : r.build c.config s.cookies (c.draw s.drawn) = .error e) :
      Move c s (.come (.send r))
        { s with callers := s.callers ++ [⟨.send r, .done (.error e)⟩], drawn := s.drawn + 1 }
  /-- A request comes and goes to the backend. -/
  | attempted {r : Request} {o : Outgoing}
      (built : r.build c.config s.cookies (c.draw s.drawn) = .ok o) :
      Move c s (.come (.send r))
        (({ s with callers := s.callers ++ [⟨.send r, .sent .initial o.url⟩]
                   drawn := s.drawn + 1 } : State).record
          [.logged (dispatched r (c.draw s.drawn) .initial),
           .sent (.caller s.callers.length .initial) o])
  /-- Somebody comes who wants the session renewed. -/
  | asked :
      Move c s (.come .renew) { s with callers := s.callers ++ [⟨.renew, .expired⟩] }
  /-- Nothing comes back for an attempt. -/
  | lost {i : Nat} {r : Request} {attempt : Attempt} {url : Url} {timedOut : Bool}
      (here : s.callers[i]? = some ⟨.send r, .sent attempt url⟩) :
      Move c s (.answer i (.failure timedOut))
        (s.setPhase i (.done (.error (.transfer (.send url.write timedOut)))))
  /-- The first attempt is answered that the session is over, and the request may renew it. -/
  | expired {i : Nat} {r : Request} {url : Url} {x : Response}
      (here : s.callers[i]? = some ⟨.send r, .sent .initial url⟩)
      (lapsed : x.isUnauthorized = true) (renews : r.renews = true) :
      Move c s (.answer i (.response x)) (s.setPhase i .expired)
  /-- An attempt is answered for good. -/
  | concluded {i : Nat} {r : Request} {attempt : Attempt} {url : Url} {x : Response}
      (here : s.callers[i]? = some ⟨.send r, .sent attempt url⟩)
      (final : (x.isUnauthorized && r.renews && attempt.mayRenew) = false) :
      Move c s (.answer i (.response x))
        ((s.setPhase i (.done (conclude r x))).record
          (if x.isUnauthorized && attempt == .retry then [.logged (rejectedAgain r)] else []))
  /-- A caller finds a renewal in the slot. -/
  | joined {i k : Nat} {w : Wish}
      (here : s.callers[i]? = some ⟨w, .expired⟩) (held : s.slot = some k) :
      Move c s (.join i)
        ((s.setPhase i (.waiting k)).record [.joined i k false, .logged joinedInFlight])
  /-- A caller finds the slot empty and puts a renewal there. -/
  | started {i : Nat} {w : Wish}
      (here : s.callers[i]? = some ⟨w, .expired⟩) (empty : s.slot = none) :
      Move c s (.join i)
        ((({ s with slot := some s.renewals.length
                    renewals := s.renewals ++ [Stage.installed] } : State).setPhase i
            (.waiting s.renewals.length)).record
          (.joined i s.renewals.length true ::
            if c.detached then [] else [.logged drivenByWaiters]))
  /-- There is no URL to send a renewal to. -/
  | unresolved {k : Nat} {fault : Url.Fault}
      (here : s.renewals[k]? = some .installed) (driven : isDriven c s k = true)
      (resolved : c.config.endpoint c.config.refreshPath = .error fault) :
      Move c s (.launch k)
        (s.setStage k (.answered (.failed (.unreachable (Error.url fault).message))))
  /-- A renewal goes to the backend. -/
  | launched {k : Nat} {url : Url}
      (here : s.renewals[k]? = some .installed) (driven : isDriven c s k = true)
      (resolved : c.config.endpoint c.config.refreshPath = .ok url) :
      Move c s (.launch k)
        ((({ s with drawn := s.drawn + 1 } : State).setStage k (.outstanding url)).record
          [.logged (renewing (c.draw s.drawn)),
           .sent (.renewal k) (Request.buildRenewal c.config s.cookies url (c.draw s.drawn))])
  /-- A renewal is answered. -/
  | answered {k : Nat} {url : Url} {answer : Answer}
      (here : s.renewals[k]? = some (.outstanding url)) (driven : isDriven c s k = true) :
      Move c s (.settle k answer) (s.setStage k (.answered (verdict url answer)))
  /-- A renewal empties the slot. -/
  | cleared {k : Nat} {v : Verdict} (here : s.renewals[k]? = some (.answered v)) :
      Move c s (.clear k) { s.setStage k (.cleared v) with slot := none }
  /-- A renewal reports what it came to. -/
  | reported {k : Nat} {v : Verdict} (here : s.renewals[k]? = some (.cleared v)) :
      Move c s (.report k) ((s.setStage k (.settled v)).record (conclusion c k v))
  /-- A caller goes on after a renewal that failed. -/
  | failed {i k : Nat} {w : Wish} {f : RenewalFailure}
      (here : s.callers[i]? = some ⟨w, .waiting k⟩)
      (settled : s.renewals[k]? = some (.settled (.failed f))) :
      Move c s (.resume i) (s.setPhase i (.done (.error (.sessionExpired f))))
  /-- Somebody who wanted the session renewed has got it. -/
  | renewed {i k : Nat}
      (here : s.callers[i]? = some ⟨.renew, .waiting k⟩)
      (settled : s.renewals[k]? = some (.settled .renewed)) :
      Move c s (.resume i) (s.setPhase i (.done (.ok .renewed)))
  /-- A request goes to the backend again. -/
  | retried {i k : Nat} {r : Request} {o : Outgoing}
      (here : s.callers[i]? = some ⟨.send r, .waiting k⟩)
      (settled : s.renewals[k]? = some (.settled .renewed))
      (built : r.build c.config s.cookies (c.draw s.drawn) = .ok o) :
      Move c s (.resume i)
        ((({ s with drawn := s.drawn + 1 } : State).setPhase i (.sent .retry o.url)).record
          [.logged (dispatched r (c.draw s.drawn) .retry), .sent (.caller i .retry) o])
  /-- A request cannot be put together again. -/
  | unretried {i k : Nat} {r : Request} {e : Error}
      (here : s.callers[i]? = some ⟨.send r, .waiting k⟩)
      (settled : s.renewals[k]? = some (.settled .renewed))
      (built : r.build c.config s.cookies (c.draw s.drawn) = .error e) :
      Move c s (.resume i)
        (({ s with drawn := s.drawn + 1 } : State).setPhase i (.done (.error e)))
  /-- A caller goes away before it is done. -/
  | left {i : Nat} {w : Wish} {p : Phase} (here : s.callers[i]? = some ⟨w, p⟩)
      (alive : p.isOver = false) :
      Move c s (.drop i) (s.setPhase i .dropped)
  /-- The cookies change. -/
  | changed {source : CookieSource} :
      Move c s (.setCookies source) { s with cookies := source }

/-- Another place of a list is not changed by adding to its end. -/
theorem getElem?_concat_of_ne {α : Type} {l : List α} {x : α} {n : Nat} (h : n ≠ l.length) :
    (l ++ [x])[n]? = l[n]? := by
  rw [List.getElem?_append]
  split
  · rfl
  · rw [List.getElem?_eq_none (by simp; omega), List.getElem?_eq_none (by omega)]

/-- A caller that comes is the last one, so its phase is the last one too. -/
theorem setPhase_length (s : State) (w : Wish) (p q : Phase) (n : Nat) :
    ({ s with callers := s.callers ++ [⟨w, p⟩], drawn := n } : State).setPhase s.callers.length q =
      { s with callers := s.callers ++ [⟨w, q⟩], drawn := n } := by
  simp [State.setPhase, List.modify_eq_take_cons_drop]

/-- Whatever `dispatch` does for a caller that has just come is a move. -/
theorem move_come_send (r : Request) :
    Move c s (.come (.send r))
      (dispatch c { s with callers := s.callers ++ [⟨.send r, .expired⟩] } s.callers.length r
        .initial) := by
  cases built : r.build c.config s.cookies (c.draw s.drawn) with
  | error e =>
    simpa only [dispatch, built, setPhase_length] using Move.refused built
  | ok o =>
    simpa only [dispatch, built, setPhase_length] using Move.attempted built

/-- Whatever `receive` does with an answer is a move of the caller that waited for it. -/
theorem move_answer {i : Nat} {r : Request} {attempt : Attempt} {url : Url}
    (here : s.callers[i]? = some ⟨.send r, .sent attempt url⟩) (answer : Answer) :
    Move c s (.answer i answer) (receive s i r attempt url answer) := by
  cases answer with
  | failure timedOut => exact .lost here
  | response x =>
    rw [receive]
    cases final : x.isUnauthorized && r.renews && attempt.mayRenew with
    | false => exact .concluded here final
    | true =>
      simp only [Bool.and_eq_true] at final
      obtain ⟨⟨lapsed, renews⟩, initial⟩ := final
      cases attempt with
      | initial => exact .expired here lapsed renews
      | retry => cases initial

/-- Whatever `proceed` does is a move of a caller whose renewal has settled. -/
theorem move_resume {i k : Nat} {w : Wish} {v : Verdict}
    (here : s.callers[i]? = some ⟨w, .waiting k⟩)
    (settled : s.renewals[k]? = some (.settled v)) :
    Move c s (.resume i) (proceed c s i w v) := by
  cases v with
  | failed f => exact .failed here settled
  | renewed =>
    cases w with
    | renew => exact .renewed here settled
    | send r =>
      cases built : r.build c.config s.cookies (c.draw s.drawn) with
      | error e => simpa only [proceed, dispatch, built] using Move.unretried here settled built
      | ok o => simpa only [proceed, dispatch, built] using Move.retried here settled built

/-- Every step is a move. -/
theorem move_of_step (h : step c s a = some s') : Move c s a s' := by
  cases a with
  | come w =>
    cases w with
    | send r =>
      obtain rfl := Option.some.inj h
      exact move_come_send r
    | renew =>
      obtain rfl := Option.some.inj h
      exact .asked
  | answer i answer =>
    simp only [step] at h
    split at h
    · next here =>
      obtain rfl := Option.some.inj h
      exact move_answer here answer
    · cases h
  | join i =>
    simp only [step] at h
    split at h
    · next here =>
      obtain rfl := Option.some.inj h
      rw [enter]
      split
      · next held => exact .joined here held
      · next empty => exact .started here empty
    · cases h
  | launch k =>
    simp only [step] at h
    split at h
    · next here =>
      split at h
      · next driven =>
        obtain rfl := Option.some.inj h
        rw [launch]
        split
        · next resolved => exact .unresolved here driven resolved
        · next resolved => exact .launched here driven resolved
      · cases h
    · cases h
  | settle k answer =>
    simp only [step] at h
    split at h
    · next here =>
      split at h
      · next driven =>
        obtain rfl := Option.some.inj h
        exact .answered here driven
      · cases h
    · cases h
  | clear k =>
    simp only [step] at h
    split at h
    · next here =>
      obtain rfl := Option.some.inj h
      exact .cleared here
    · cases h
  | report k =>
    simp only [step] at h
    split at h
    · next here =>
      obtain rfl := Option.some.inj h
      exact .reported here
    · cases h
  | resume i =>
    simp only [step] at h
    split at h
    · next here =>
      split at h
      · next settled =>
        obtain rfl := Option.some.inj h
        exact move_resume here settled
      · cases h
    · cases h
  | drop i =>
    simp only [step] at h
    split at h
    · cases h
    · cases h
    · next caller notDone notDropped here =>
      obtain rfl := Option.some.inj h
      obtain ⟨w, p⟩ := caller
      have alive : p.isOver = false := by
        cases p with
        | done result => exact (notDone _ _ rfl).elim
        | dropped => exact (notDropped _ rfl).elim
        | _ => rfl
      exact .left here alive
    · cases h
  | setCookies source =>
    obtain rfl := Option.some.inj h
    exact .changed

/-- Every move is a step: `Move` leaves nothing out and adds nothing. -/
theorem step_eq_some_iff : step c s a = some s' ↔ Move c s a s' := by
  refine ⟨move_of_step, fun h => ?_⟩
  cases h with
  | refused built => simp [step, dispatch, built, setPhase_length]
  | attempted built => simp [step, dispatch, built, setPhase_length]
  | asked => rfl
  | lost here => simp [step, here, receive]
  | expired here lapsed renews => simp [step, here, receive, lapsed, renews, Attempt.mayRenew]
  | concluded here final => simp [step, here, receive, final]
  | joined here held => simp [step, here, enter, held]
  | started here empty => simp [step, here, enter, empty]
  | unresolved here driven resolved => simp [step, here, driven, launch, resolved]
  | launched here driven resolved => simp [step, here, driven, launch, resolved]
  | answered here driven => simp [step, here, driven]
  | cleared here => simp [step, here]
  | reported here => simp [step, here]
  | failed here settled => simp [step, here, settled, proceed]
  | renewed here settled => simp [step, here, settled, proceed]
  | retried here settled built => simp [step, here, settled, proceed, dispatch, built]
  | unretried here settled built => simp [step, here, settled, proceed, dispatch, built]
  | @left i w p here alive => cases p <;> simp_all [step, Phase.isOver]
  | changed => rfl

/-- What could be seen once can still be seen. -/
theorem Move.history_extends (h : Move c s a s') : s.history <+: s'.history := by
  cases h with
  | attempted built => exact List.prefix_append ..
  | concluded here final => exact List.prefix_append ..
  | joined here held => exact List.prefix_append ..
  | started here empty => exact List.prefix_append ..
  | launched here driven resolved => exact List.prefix_append ..
  | reported here => exact List.prefix_append ..
  | retried here settled built => exact List.prefix_append ..
  | _ => exact List.prefix_rfl

/-! ### Runs -/

theorem run_append (c : Client) (s : State) (before after : List Action) :
    run c s (before ++ after) = (run c s before).bind (run c · after) := by
  induction before generalizing s with
  | nil => rfl
  | cons a rest ih =>
    simp only [List.cons_append, run, Option.bind_assoc]
    exact congrArg _ (funext fun s => ih s)

/-- Along a run, no event is lost. -/
theorem run_history_extends (h : run c s actions = some s') : s.history <+: s'.history := by
  induction actions generalizing s with
  | nil =>
    obtain rfl := Option.some.inj h
    exact List.prefix_rfl
  | cons a rest ih =>
    obtain ⟨t, first, others⟩ := Option.bind_eq_some_iff.mp h
    exact (move_of_step first).history_extends.trans (ih others)

/-- A run ends with a move from where it was before. -/
theorem run_concat : run c s (actions ++ [a]) = some s' ↔
    ∃ t, run c s actions = some t ∧ Move c t a s' := by
  simp [run_append, run, Option.bind_eq_some_iff, step_eq_some_iff]

/-- **Induction along a run.** What holds at the start and is kept by every move holds wherever
the run leads to. -/
theorem run_induction {motive : List Action → State → Prop}
    (start : motive [] { cookies := cookies })
    (move : ∀ {actions s a s'}, run c { cookies := cookies } actions = some s → motive actions s →
      Move c s a s' → motive (actions ++ [a]) s') :
    run c { cookies := cookies } actions = some s → motive actions s := by
  induction actions using List.reverseRecOn generalizing s with
  | nil =>
    intro h
    obtain rfl := Option.some.inj h
    exact start
  | append_singleton actions a ih =>
    intro h
    obtain ⟨t, ht, hm⟩ := run_concat.mp h
    exact move ht (ih ht) hm

/-! ### A client for examples -/

namespace Sample

/-- A client of a backend at `https://a/`. -/
def client (detached : Bool) : Client where
  config := .ofUrl
    { scheme := "https", authority := some ⟨"", none, .named "a", none⟩, path := .rooted [],
      query := none, fragment := none }
  draw n := ⟨.ofNat n⟩
  detached := detached

/-- No cookies at all. -/
def noCookies : CookieSource := .fixed ⟨[]⟩

end Sample

end Brokerage.Session
