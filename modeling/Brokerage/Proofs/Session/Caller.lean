import Brokerage.Proofs.Session.Exchange
import Brokerage.Proofs.Session.Renewal

/-!
# The track of a caller

What `Course` is for a renewal, `Track` is for a caller: what a run says about the caller alone. It
holds the attempts that went to the backend, their answers, the renewals that the caller came to
wait for, and how often it went on after one.

`Track.Fits` says which tracks belong to which wish and phase. A caller comes to the slot in one of
two ways (`Arrival`): it wanted nothing else, or its first attempt was answered that the session is
over. It waits for one renewal, goes on once, and only after this renewal has settled. Other callers
and the renewals do not touch its track, so `track_fits` holds for any number of callers
in any order of steps.
-/

namespace Brokerage.Session

variable {c : Client} {cookies : CookieSource} {s s' : State} {a : Action} {actions : List Action}
variable {i : Nat}

/-! ### What is about one caller -/

/-- An attempt of a caller, if an event says that one goes to the backend. -/
def Event.attempt? (i : Nat) : Event → Option (Attempt × Outgoing)
  | .sent (.caller j attempt) o => if j = i then some (attempt, o) else none
  | _ => none

/-- The renewal that a caller comes to wait for, if an event says so. -/
def Event.renewal? (i : Nat) : Event → Option Nat
  | .joined j k _ => if j = i then some k else none
  | _ => none

/-- The answer to an attempt of a caller, if an action brings it. -/
def Action.answer? (i : Nat) : Action → Option Answer
  | .answer j response => if j = i then some response else none
  | _ => none

/-- True of the action by which a caller goes on after a renewal. -/
def Action.isResume (i : Nat) : Action → Bool
  | .resume j => j == i
  | _ => false

/-- What one caller did in a run. -/
structure Track where
  /-- What went to the backend. -/
  calls : List (Attempt × Outgoing)
  /-- The renewals that it came to wait for. -/
  joins : List Nat
  /-- What came back. -/
  answers : List Answer
  /-- How often it went on after a renewal. -/
  resumes : Nat

/-- What the actions and the events of a run say about one caller. -/
def Track.of (i : Nat) (actions : List Action) (history : List Event) : Track where
  calls := history.filterMap (Event.attempt? i)
  joins := history.filterMap (Event.renewal? i)
  answers := actions.filterMap (Action.answer? i)
  resumes := actions.countP (Action.isResume i)

/-- A track to which some of an action and of events is added. -/
theorem Track.of_append (i : Nat) (actions : List Action) (history : List Event) (a : Action)
    (events : List Event) :
    Track.of i (actions ++ [a]) (history ++ events) =
      ⟨(Track.of i actions history).calls ++ events.filterMap (Event.attempt? i),
       (Track.of i actions history).joins ++ events.filterMap (Event.renewal? i),
       (Track.of i actions history).answers ++ [a].filterMap (Action.answer? i),
       (Track.of i actions history).resumes + [a].countP (Action.isResume i)⟩ := by
  simp only [Track.of, List.filterMap_append, List.countP_append]

section Reading

variable {e : Event} {history : List Event}

theorem Event.attempt?_eq_some_iff {attempt : Attempt} {o : Outgoing} :
    e.attempt? i = some (attempt, o) ↔ e = .sent (.caller i attempt) o := by
  unfold Event.attempt?
  split <;> grind

theorem Event.renewal?_eq_some_iff {k : Nat} :
    e.renewal? i = some k ↔ ∃ started, e = .joined i k started := by
  unfold Event.renewal?
  split <;> simp_all

theorem Action.isResume_iff : a.isResume i = true ↔ a = .resume i := by
  unfold Action.isResume
  split <;> grind

theorem Track.mem_calls_iff {attempt : Attempt} {o : Outgoing} :
    (attempt, o) ∈ (Track.of i actions history).calls ↔ .sent (.caller i attempt) o ∈ history := by
  simp [Track.of, List.mem_filterMap, Event.attempt?_eq_some_iff]

theorem Track.mem_joins_iff {k : Nat} :
    k ∈ (Track.of i actions history).joins ↔ ∃ started, .joined i k started ∈ history := by
  simp only [Track.of, List.mem_filterMap, Event.renewal?_eq_some_iff]
  grind

theorem Track.resumes_eq_zero_iff :
    (Track.of i actions history).resumes = 0 ↔ .resume i ∉ actions := by
  simp only [Track.of, List.countP_eq_zero, Action.isResume_iff]
  exact ⟨fun h there => h _ there rfl, fun h a there same => h (same ▸ there)⟩

end Reading

/-! ### Phases and what belongs to them -/

/-- The request can be put together to this, with some cookies and some identifier. -/
def Built (c : Client) (r : Request) (o : Outgoing) : Prop :=
  ∃ source id, r.build c.config source id = .ok o

/-- True of an answer that sends a request to the slot if it answers the first attempt. -/
def Answer.expires (r : Request) : Answer → Bool
  | .response x => x.isUnauthorized && r.renews
  | .failure _ => false

/-- The result of a request by its last answer. -/
def result (r : Request) (url : Url) : Answer → Except Error Reply
  | .response x => conclude r x
  | .failure timedOut => .error (.transfer (.send url.write timedOut))

/-- How a caller comes to the slot, with what it has sent and what came back. -/
inductive Arrival (c : Client) : Wish → List (Attempt × Outgoing) → List Answer → Prop where
  | asked : Arrival c .renew [] []
  | expired {r : Request} {o : Outgoing} {answer : Answer} (built : Built c r o)
      (lapsed : answer.expires r = true) :
      Arrival c (.send r) [(.initial, o)] [answer]

/-- The tracks that belong to a caller. Before it comes, it has none. -/
inductive Track.Fits (c : Client) (renewals : List Stage) : Option Caller → Track → Prop where
  | absent : Fits c renewals none ⟨[], [], [], 0⟩
  | refused {r : Request} {e : Error} {source : CookieSource} {id : RequestId}
      (built : r.build c.config source id = .error e) :
      Fits c renewals (some ⟨.send r, .done (.error e)⟩) ⟨[], [], [], 0⟩
  | sent {r : Request} {o : Outgoing} (built : Built c r o) :
      Fits c renewals (some ⟨.send r, .sent .initial o.url⟩) ⟨[(.initial, o)], [], [], 0⟩
  | ended {r : Request} {o : Outgoing} (answer : Answer) (built : Built c r o)
      (final : answer.expires r = false) :
      Fits c renewals (some ⟨.send r, .done (result r o.url answer)⟩)
        ⟨[(.initial, o)], [], [answer], 0⟩
  | expired {w : Wish} {calls : List (Attempt × Outgoing)} {answers : List Answer}
      (arrival : Arrival c w calls answers) :
      Fits c renewals (some ⟨w, .expired⟩) ⟨calls, [], answers, 0⟩
  | waiting {w : Wish} {calls : List (Attempt × Outgoing)} {answers : List Answer} {k : Nat}
      (arrival : Arrival c w calls answers) :
      Fits c renewals (some ⟨w, .waiting k⟩) ⟨calls, [k], answers, 0⟩
  | failed {w : Wish} {calls : List (Attempt × Outgoing)} {answers : List Answer} {k : Nat}
      {f : RenewalFailure} (arrival : Arrival c w calls answers)
      (settled : renewals[k]? = some (.settled (.failed f))) :
      Fits c renewals (some ⟨w, .done (.error (.sessionExpired f))⟩) ⟨calls, [k], answers, 1⟩
  | renewed {k : Nat} (settled : renewals[k]? = some (.settled .renewed)) :
      Fits c renewals (some ⟨.renew, .done (.ok .renewed)⟩) ⟨[], [k], [], 1⟩
  | retried {r : Request} {o o' : Outgoing} {answer : Answer} {k : Nat} (built : Built c r o)
      (lapsed : answer.expires r = true) (again : Built c r o')
      (settled : renewals[k]? = some (.settled .renewed)) :
      Fits c renewals (some ⟨.send r, .sent .retry o'.url⟩)
        ⟨[(.initial, o), (.retry, o')], [k], [answer], 1⟩
  | endedAgain {r : Request} {o o' : Outgoing} {answer : Answer} {k : Nat} (answer' : Answer)
      (built : Built c r o) (lapsed : answer.expires r = true) (again : Built c r o')
      (settled : renewals[k]? = some (.settled .renewed)) :
      Fits c renewals (some ⟨.send r, .done (result r o'.url answer')⟩)
        ⟨[(.initial, o), (.retry, o')], [k], [answer, answer'], 1⟩
  | dropped {w : Wish} {p : Phase} {track : Track} (alive : p.isOver = false)
      (fits : Fits c renewals (some ⟨w, p⟩) track) :
      Fits c renewals (some ⟨w, .dropped⟩) track

/-- A track that fits goes on to fit while renewals get on, because those that have settled stay
as they are. -/
theorem Track.Fits.mono {renewals renewals' : List Stage} {caller : Option Caller} {track : Track}
    (persists : ∀ (k : Nat) (v : Verdict), renewals[k]? = some (.settled v) →
      renewals'[k]? = some (.settled v))
    (fits : Track.Fits c renewals caller track) : Track.Fits c renewals' caller track := by
  induction fits with
  | absent => exact .absent
  | refused built => exact .refused built
  | sent built => exact .sent built
  | ended answer built final => exact .ended answer built final
  | expired arrival => exact .expired arrival
  | waiting arrival => exact .waiting arrival
  | failed arrival settled => exact .failed arrival (persists _ _ settled)
  | renewed settled => exact .renewed (persists _ _ settled)
  | retried built lapsed again settled => exact .retried built lapsed again (persists _ _ settled)
  | endedAgain answer' built lapsed again settled =>
    exact .endedAgain answer' built lapsed again (persists _ _ settled)
  | dropped alive _ ih => exact .dropped alive ih

/-- Whatever a caller has sent was put together from the request that it wants answered. -/
theorem Track.Fits.built_of_mem {renewals : List Stage} {caller : Option Caller} {track : Track}
    {attempt : Attempt} {o : Outgoing} (fits : Track.Fits c renewals caller track)
    (sent : (attempt, o) ∈ track.calls) :
    ∃ r phase, caller = some ⟨.send r, phase⟩ ∧ Built c r o := by
  have first {w : Wish} {calls : List (Attempt × Outgoing)} {answers : List Answer}
      (arrival : Arrival c w calls answers) (there : (attempt, o) ∈ calls) :
      ∃ r, w = .send r ∧ Built c r o := by
    cases arrival with
    | asked => cases there
    | expired built lapsed =>
      cases List.mem_singleton.mp there
      exact ⟨_, rfl, built⟩
  have both {r : Request} {o₁ o₂ : Outgoing} (built : Built c r o₁) (again : Built c r o₂)
      (there : (attempt, o) ∈ [(Attempt.initial, o₁), (Attempt.retry, o₂)]) : Built c r o := by
    rcases List.mem_cons.mp there with same | later
    · cases same
      exact built
    · cases List.mem_singleton.mp later
      exact again
  induction fits with
  | absent => cases sent
  | refused built => cases sent
  | sent built =>
    cases List.mem_singleton.mp sent
    exact ⟨_, _, rfl, built⟩
  | ended answer built final =>
    cases List.mem_singleton.mp sent
    exact ⟨_, _, rfl, built⟩
  | expired arrival =>
    obtain ⟨r, rfl, built⟩ := first arrival sent
    exact ⟨r, _, rfl, built⟩
  | waiting arrival =>
    obtain ⟨r, rfl, built⟩ := first arrival sent
    exact ⟨r, _, rfl, built⟩
  | failed arrival settled =>
    obtain ⟨r, rfl, built⟩ := first arrival sent
    exact ⟨r, _, rfl, built⟩
  | renewed settled => cases sent
  | retried built lapsed again settled => exact ⟨_, _, rfl, both built again sent⟩
  | endedAgain answer' built lapsed again settled => exact ⟨_, _, rfl, both built again sent⟩
  | dropped alive fits ih =>
    obtain ⟨r, phase, same, built⟩ := ih sent
    cases same
    exact ⟨r, _, rfl, built⟩

/-! ### Moves of a caller -/

/-- The caller that takes a step, if it is a step of a caller who is there. -/
def Action.caller? : Action → Option Nat
  | .answer i _ => some i
  | .join i => some i
  | .resume i => some i
  | .drop i => some i
  | _ => none

section Moves

attribute [local simp] Event.attempt? Event.renewal? Action.answer? Action.isResume
  List.filterMap_cons

/-- A move of renewals or of another caller is not noticed by a caller, unless it is the one by
which it comes. -/
theorem Move.track_elsewhere (h : Move c s a s') (actions : List Action)
    (other : a.caller? ≠ some i)
    (old : s'.callers.length = s.callers.length ∨ i ≠ s.callers.length) :
    s'.callers[i]? = s.callers[i]? ∧
      Track.of i (actions ++ [a]) s'.history = Track.of i actions s.history := by
  cases h with
  | refused built =>
    have hi : i ≠ s.callers.length := by simpa using old
    simp [Track.of, getElem?_concat_of_ne hi]
  | attempted built =>
    have hi : i ≠ s.callers.length := by simpa using old
    simp [Track.of, getElem?_concat_of_ne hi, Ne.symm hi]
  | asked =>
    have hi : i ≠ s.callers.length := by simpa using old
    simp [Track.of, getElem?_concat_of_ne hi]
  | @concluded j r attempt url x here final =>
    have hj : j ≠ i := by simpa [Action.caller?] using other
    split <;> simp [Track.of, State.getElem?_callers_setPhase_ne _ _ _ hj, hj]
  | @started j w here empty =>
    have hj : j ≠ i := by simpa [Action.caller?] using other
    cases c.detached <;> simp [Track.of, State.getElem?_callers_setPhase_ne _ _ _ hj, hj]
  | @reported k v here => cases v <;> simp [Track.of, conclusion]
  | _ =>
    simp_all [Track.of, Action.caller?, State.getElem?_callers_setPhase_ne]

/-- What a caller has done when it comes. -/
theorem Track.Fits.come
    (ih : Track.Fits c s.renewals none (Track.of s.callers.length actions s.history))
    (h : Move c s a s') (new : s'.callers.length ≠ s.callers.length) :
    Track.Fits c s'.renewals s'.callers[s.callers.length]?
      (Track.of s.callers.length (actions ++ [a]) s'.history) := by
  have quiet := Track.of_append s.callers.length actions s.history a []
  rw [List.append_nil] at quiet
  cases h with
  | refused built =>
    simp only [quiet]
    generalize Track.of s.callers.length actions s.history = track at ih ⊢
    cases ih
    simpa using Track.Fits.refused built
  | attempted built =>
    simp only [State.record_history, Track.of_append]
    generalize Track.of s.callers.length actions s.history = track at ih ⊢
    cases ih
    simpa using Track.Fits.sent ⟨_, _, built⟩
  | asked =>
    simp only [quiet]
    generalize Track.of s.callers.length actions s.history = track at ih ⊢
    cases ih
    simpa using Track.Fits.expired Arrival.asked
  | _ => simp at new

/-- A step of a caller takes it and its track to the next phase. -/
theorem Track.Fits.move (ih : Track.Fits c s.renewals s.callers[i]? (Track.of i actions s.history))
    (h : Move c s a s') (own : a.caller? = some i) :
    Track.Fits c s'.renewals s'.callers[i]? (Track.of i (actions ++ [a]) s'.history) := by
  have quiet := Track.of_append i actions s.history a []
  rw [List.append_nil] at quiet
  have loud := fun events => Track.of_append i actions s.history a events
  generalize Track.of i actions s.history = track at ih quiet loud
  cases h with
  | lost here =>
    cases own
    rw [here] at ih
    cases ih with
    | sent built =>
      simpa [quiet, here, result] using
        Track.Fits.ended (.failure _) built rfl
    | retried built lapsed again settled =>
      simpa [quiet, here, result] using
        Track.Fits.endedAgain (.failure _) built lapsed again settled
  | @expired j r url x here lapsed renews =>
    cases own
    rw [here] at ih
    cases ih with
    | sent built =>
      have expires : Answer.expires r (.response x) = true := by
        simp [Answer.expires, lapsed, renews]
      simpa [quiet, here] using
        Track.Fits.expired (.expired built expires)
  | @concluded j r attempt url x here final =>
    cases own
    rw [here] at ih
    cases ih with
    | sent built =>
      have stays : Answer.expires r (.response x) = false := by
        simpa [Answer.expires, Attempt.mayRenew] using final
      simpa [quiet, here, result] using Track.Fits.ended (.response x) built stays
    | retried built lapsed again settled =>
      cases x.isUnauthorized <;> simpa [quiet, loud, here, result] using
        Track.Fits.endedAgain (.response x) built lapsed again settled
  | joined here held =>
    cases own
    rw [here] at ih
    cases ih with
    | expired arrival =>
      simpa [loud, here] using Track.Fits.waiting arrival
  | started here empty =>
    cases own
    rw [here] at ih
    cases ih with
    | expired arrival =>
      cases c.detached <;> simpa [loud, here] using Track.Fits.waiting arrival
  | failed here settled =>
    cases own
    rw [here] at ih
    cases ih with
    | waiting arrival =>
      simpa [quiet, here] using
        Track.Fits.failed arrival settled
  | renewed here settled =>
    cases own
    rw [here] at ih
    cases ih with
    | waiting arrival =>
      cases arrival
      simpa [quiet, here] using
        Track.Fits.renewed (c := c) settled
  | retried here settled built =>
    cases own
    rw [here] at ih
    cases ih with
    | waiting arrival =>
      cases arrival with
      | expired first lapsed =>
        simpa [loud, here] using Track.Fits.retried first lapsed ⟨_, _, built⟩ settled
  | @unretried j k r e here settled built =>
    cases own
    rw [here] at ih
    cases ih with
    | waiting arrival =>
      cases arrival with
      | expired first lapsed =>
        -- what could be put together once can be put together again
        obtain ⟨source, id, first⟩ := first
        obtain ⟨o, again⟩ := Request.exists_build_eq_ok first s.cookies (c.draw s.drawn)
        rw [built] at again
        cases again
  | left here alive =>
    cases own
    rw [here] at ih
    simpa [quiet, here] using Track.Fits.dropped alive ih
  | _ => cases own

/-- **What a caller did belongs to its wish and phase**, in every state that a run leads to. -/
theorem track_fits (h : run c { cookies := cookies } actions = some s) (i : Nat) :
    Track.Fits c s.renewals s.callers[i]? (Track.of i actions s.history) := by
  refine run_induction (motive := fun actions s =>
    Track.Fits c s.renewals s.callers[i]? (Track.of i actions s.history)) .absent ?_ h
  intro actions s a s' hr ih hm
  -- a caller gets on by its own steps, and begins with the one by which it comes
  by_cases own : a.caller? = some i
  · exact ih.move hm own
  by_cases old : s'.callers.length = s.callers.length ∨ i ≠ s.callers.length
  · obtain ⟨caller, track⟩ := hm.track_elsewhere actions own old
    rw [caller, track]
    exact ih.mono fun k v => hm.settled_persists
  · push Not at old
    obtain ⟨new, rfl⟩ := old
    rw [List.getElem?_eq_none (Nat.le_refl _)] at ih
    exact ih.come hm new

end Moves

end Brokerage.Session
