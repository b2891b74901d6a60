import Brokerage.Proofs.Session.Outcome

/-!
# One notification for each renewal that failed

The application hears of a failure where the renewal reports what it came to, which is a step of the
renewal and not of those who wait for it. So `course_fits` says already what it hears of one
renewal: nothing before this step, and afterwards the failure, if it is one. `notice_count` reads
this as a count, and `countP_notices` adds up over all renewals: there are as many notifications
as renewals that have failed.

The other half is about those who wait (`Track.Fits.heard`): whoever has joined a renewal has gone
away, still waits, or has got what the renewal came to. `reports` puts both together.
-/

namespace Brokerage.Session

variable {c : Client} {cookies : CookieSource} {s s' : State} {a : Action} {actions : List Action}
variable {i k : Nat} {v : Verdict} {f : RenewalFailure}

/-! ### Why renewals fail -/

/-- A renewal succeeds if the answer to it does. -/
theorem verdict_eq_renewed_iff {url : Url} {answer : Answer} :
    verdict url answer = .renewed ↔
      ∃ x, answer = .response x ∧ 200 ≤ x.status ∧ x.status < 300 := by
  cases answer with
  | failure timedOut => simp [verdict]
  | response x =>
    rw [verdict]
    constructor
    · intro renewed
      refine ⟨x, rfl, ?_⟩
      split at renewed
      · next success => exact Response.isSuccess_iff.mp success
      · cases renewed
    · rintro ⟨x', same, success⟩
      cases same
      rw [if_pos (Response.isSuccess_iff.mpr success)]

/-- The three ways in which a renewal can fail, and what its failure says in each of them. -/
inductive Cause (c : Client) (actions : List Action) (k : Nat) : RenewalFailure → Prop where
  /-- There is no URL to send it to. -/
  | unresolved {fault : Url.Fault}
      (resolved : c.config.endpoint c.config.refreshPath = .error fault) :
      Cause c actions k (.unreachable (Error.url fault).message)
  /-- Nothing came back. -/
  | lost {url : Url} {timedOut : Bool}
      (resolved : c.config.endpoint c.config.refreshPath = .ok url)
      (answered : .settle k (.failure timedOut) ∈ actions) :
      Cause c actions k (.unreachable (TransferFault.send url.write timedOut).message)
  /-- The backend refused. -/
  | refused {x : Response} (answered : .settle k (.response x) ∈ actions)
      (refusal : ¬(200 ≤ x.status ∧ x.status < 300)) :
      Cause c actions k (.rejected x.status ((x.body.map Text.decodeLossy).getD ""))

/-- A renewal that has failed has failed for one of these causes. -/
theorem cause_of_failed (h : run c { cookies := cookies } actions = some s)
    (failed : s.renewals[k]? = some (.settled (.failed f))) : Cause c actions k f := by
  rcases settled_cases h failed with
    ⟨fault, resolved, came⟩ | ⟨url, answer, resolved, brought, came⟩
  · cases came
    exact .unresolved resolved
  · cases answer with
    | failure timedOut =>
      cases came
      exact .lost resolved brought
    | response x =>
      rw [verdict] at came
      split at came
      · cases came
      · next refusal =>
        cases came
        rw [Response.text_eq]
        exact .refused brought (mt Response.isSuccess_iff.mpr refusal)

/-- A renewal that has succeeded was answered so. -/
theorem success_of_renewed (h : run c { cookies := cookies } actions = some s)
    (renewed : s.renewals[k]? = some (.settled .renewed)) :
    ∃ x, .settle k (.response x) ∈ actions ∧ 200 ≤ x.status ∧ x.status < 300 := by
  rcases settled_cases h renewed with
    ⟨fault, resolved, came⟩ | ⟨url, answer, resolved, brought, came⟩
  · cases came
  · obtain ⟨x, rfl, success⟩ := verdict_eq_renewed_iff.mp came.symm
    exact ⟨x, brought, success⟩

/-! ### Notifications of one renewal -/

/-- A notification is among the events as often as among what the application hears of its
renewal. -/
theorem count_notified (history : List Event) (k : Nat) (path : String) (f : RenewalFailure) :
    history.count (.notified k path f) =
      (history.filterMap (Event.notice? k)).count (path, f) := by
  rw [List.count_filterMap]
  refine List.countP_congr fun e _ => ?_
  rw [beq_iff_eq, beq_iff_eq]
  exact Event.notice?_eq_some_iff.symm

/-- Once a renewal has settled, the application has heard what it has to. -/
theorem Course.Fits.notices_eq {course : Course}
    (fits : Course.Fits c (some (.settled v)) course) : course.notices = dueNotices c v := by
  cases fits
  rfl

/-- Until then, it has heard nothing. -/
theorem Course.Fits.notices_eq_nil {stage? : Option Stage} {course : Course}
    (fits : Course.Fits c stage? course) (unsettled : ∀ v, stage? ≠ some (.settled v)) :
    course.notices = [] := by
  cases fits with
  | settled origin => exact absurd rfl (unsettled _)
  | _ => rfl

/-- How often the application hears of a failure: once if the renewal has settled with it, and
otherwise not at all. -/
theorem notice_count (h : run c { cookies := cookies } actions = some s) (k : Nat) (path : String)
    (f : RenewalFailure) :
    s.history.count (.notified k path f) =
      if s.renewals[k]? = some (.settled (.failed f)) ∧ path = c.config.loginPath then 1
      else 0 := by
  have fits := course_fits h k
  have notices : s.history.filterMap (Event.notice? k) = (Course.of k actions s.history).notices :=
    rfl
  rw [count_notified, notices]
  by_cases settled : ∃ v, s.renewals[k]? = some (.settled v)
  · obtain ⟨v, settled⟩ := settled
    rw [settled] at fits ⊢
    rw [fits.notices_eq]
    cases v with
    | renewed => simp [dueNotices]
    | failed f' =>
      rw [dueNotices, List.count_singleton]
      refine if_congr ?_ rfl rfl
      rw [beq_iff_eq]
      constructor
      · rintro ⟨⟩
        exact ⟨rfl, rfl⟩
      · rintro ⟨⟨⟩, rfl⟩
        rfl
  · rw [fits.notices_eq_nil fun v there => settled ⟨v, there⟩]
    rw [if_neg fun there => settled ⟨_, there.1⟩]
    rfl

/-! ### Notifications of all renewals -/

/-- True of an event that the application hears. -/
def Event.isNotice : Event → Bool
  | .notified _ _ _ => true
  | _ => false

/-- True of a renewal that has failed, whether or not it has reported so. -/
def Stage.hasFailed : Stage → Bool
  | .answered (.failed _) => true
  | .cleared (.failed _) => true
  | .settled (.failed _) => true
  | _ => false

/-- True of a renewal that has reported what it came to. -/
def Stage.isSettled : Stage → Bool
  | .settled _ => true
  | _ => false

/-- How many renewals have failed and reported so. -/
def reportedFailures (renewals : List Stage) : Nat :=
  renewals.countP fun stage => stage.isSettled && stage.hasFailed

/-- A renewal that gets on to another stage than the last one reports nothing. -/
theorem reportedFailures_set {renewals : List Stage} {old new : Stage}
    (here : renewals[k]? = some old) (was : old.isSettled = false) :
    reportedFailures (renewals.set k new) =
      reportedFailures renewals + if new.isSettled && new.hasFailed then 1 else 0 := by
  obtain ⟨inside, rfl⟩ := List.getElem?_eq_some_iff.mp here
  rw [reportedFailures, List.countP_set inside, was]
  rfl

/-- Every move keeps the number of notifications at that of the failures that were reported. -/
theorem Move.countP_notices (h : Move c s a s')
    (ih : s.history.countP Event.isNotice = reportedFailures s.renewals) :
    s'.history.countP Event.isNotice = reportedFailures s'.renewals := by
  cases h with
  | attempted built => simpa [Event.isNotice] using ih
  | concluded here final => split <;> simpa [Event.isNotice] using ih
  | joined here held => simpa [Event.isNotice] using ih
  | started here empty =>
    rw [State.record_history, List.countP_append]
    cases c.detached <;> simpa [Event.isNotice, reportedFailures, Stage.isSettled] using ih
  | unresolved here driven resolved =>
    rw [State.setStage_renewals, reportedFailures_set here rfl]
    exact ih
  | launched here driven resolved =>
    rw [State.record_renewals, State.setStage_renewals, reportedFailures_set here rfl]
    simpa [Event.isNotice, Stage.isSettled] using ih
  | answered here driven =>
    rw [State.setStage_renewals, reportedFailures_set here rfl]
    exact ih
  | cleared here =>
    show _ = reportedFailures (s.renewals.set _ _)
    rw [reportedFailures_set here rfl]
    exact ih
  | @reported k v here =>
    rw [State.record_renewals, State.setStage_renewals, reportedFailures_set here rfl, ← ih]
    rw [State.record_history, List.countP_append]
    cases v <;> rfl
  | retried here settled built => simpa [Event.isNotice] using ih
  | _ => exact ih

/-- There are as many notifications as renewals that have failed and reported so. -/
theorem countP_notices (h : run c { cookies := cookies } actions = some s) :
    s.history.countP Event.isNotice = reportedFailures s.renewals :=
  run_induction (motive := fun _ s =>
    s.history.countP Event.isNotice = reportedFailures s.renewals) rfl
    (fun _ ih hm => hm.countP_notices ih) h

/-- If no renewal is under way any more, all failures were reported. -/
theorem reportedFailures_eq {renewals : List Stage}
    (settled : ∀ stage ∈ renewals, stage.isSettled = true) :
    reportedFailures renewals = renewals.countP Stage.hasFailed := by
  refine List.countP_congr fun stage there => ?_
  rw [settled stage there, Bool.true_and]

/-! ### What those who wait get -/

/-- A caller has got what the renewal that it waited for came to: the failure, the renewed session,
or another attempt at its request. -/
def Heard (caller : Caller) (track : Track) : Verdict → Prop
  | .failed f => caller.phase = .done (.error (.sessionExpired f))
  | .renewed =>
    match caller.wish with
    | .renew => caller.phase = .done (.ok .renewed)
    | .send _ => ∃ o, (.retry, o) ∈ track.calls

/-- Whoever has come to wait for a renewal has gone away, still waits, or has got what the renewal
came to. -/
theorem Track.Fits.heard {renewals : List Stage} {caller : Option Caller} {track : Track}
    (fits : Track.Fits c renewals caller track) (joined : k ∈ track.joins) :
    ∃ w p, caller = some ⟨w, p⟩ ∧
      (p = .dropped ∨ p = .waiting k ∨
        ∃ v, renewals[k]? = some (.settled v) ∧ Heard ⟨w, p⟩ track v) := by
  cases fits with
  | waiting arrival =>
    rw [List.mem_singleton.mp joined]
    exact ⟨_, _, rfl, .inr (.inl rfl)⟩
  | failed arrival settled =>
    rw [List.mem_singleton.mp joined]
    exact ⟨_, _, rfl, .inr (.inr ⟨_, settled, rfl⟩)⟩
  | renewed settled =>
    rw [List.mem_singleton.mp joined]
    exact ⟨_, _, rfl, .inr (.inr ⟨_, settled, rfl⟩)⟩
  | @retried r o o' answer k built lapsed again settled =>
    rw [List.mem_singleton.mp joined]
    exact ⟨_, _, rfl, .inr (.inr ⟨_, settled, o', by simp⟩)⟩
  | @endedAgain r o o' answer k answer' built lapsed again settled =>
    rw [List.mem_singleton.mp joined]
    exact ⟨_, _, rfl, .inr (.inr ⟨_, settled, o', by simp⟩)⟩
  | dropped alive fits => exact ⟨_, _, rfl, .inl rfl⟩
  | _ => cases joined

/-- Whoever still waits when the renewal has settled can go on, and gets what it came to. -/
theorem exists_resume {w : Wish} (h : run c { cookies := cookies } actions = some s)
    (here : s.callers[i]? = some ⟨w, .waiting k⟩) (settled : s.renewals[k]? = some (.settled v)) :
    ∃ s' p, step c s (.resume i) = some s' ∧ s'.callers[i]? = some ⟨w, p⟩ ∧
      Heard ⟨w, p⟩ (Track.of i (actions ++ [.resume i]) s'.history) v := by
  have fits := track_fits h i
  rw [here] at fits
  generalize Track.of i actions s.history = track at fits
  cases v with
  | failed f => exact ⟨_, _, step_eq_some_iff.mpr (.failed here settled), by simp [here], rfl⟩
  | renewed =>
    cases fits with
    | waiting arrival =>
      cases arrival with
      | asked => exact ⟨_, _, step_eq_some_iff.mpr (.renewed here settled), by simp [here], rfl⟩
      | @expired r o answer built lapsed =>
        obtain ⟨source, id, built⟩ := built
        obtain ⟨o', again⟩ := Request.exists_build_eq_ok built s.cookies (c.draw s.drawn)
        refine ⟨_, .sent .retry o'.url, step_eq_some_iff.mpr (.retried here settled again),
          by simp [here], o', ?_⟩
        simp [Track.mem_calls_iff]

/-! ### Reports -/

/-- What is true of the notifications after a run, and of what those who wait get. -/
structure Reports (c : Client) (actions : List Action) (s : State) : Prop where
  /-- The application hears once of a renewal that has settled with a failure, with this failure and
  where to sign in, and of nothing else. -/
  count : ∀ k path f, s.history.count (.notified k path f) =
    if s.renewals[k]? = some (.settled (.failed f)) ∧ path = c.config.loginPath then 1 else 0
  /-- It never hears of a renewal that succeeded. -/
  silent : ∀ k, s.renewals[k]? = some (.settled .renewed) → ∀ path f,
    .notified k path f ∉ s.history
  /-- A renewal has failed for one of three causes. -/
  cause : ∀ k f, s.renewals[k]? = some (.settled (.failed f)) → Cause c actions k f
  /-- A renewal has succeeded because it was answered so. -/
  success : ∀ k, s.renewals[k]? = some (.settled .renewed) →
    ∃ x, .settle k (.response x) ∈ actions ∧ 200 ≤ x.status ∧ x.status < 300
  /-- Whoever has come to wait for a renewal has gone away, still waits, or has got what the
  renewal came to, which is the same for all. -/
  heard : ∀ i k started, .joined i k started ∈ s.history →
    ∃ w p, s.callers[i]? = some ⟨w, p⟩ ∧
      (p = .dropped ∨ p = .waiting k ∨
        ∃ v, s.renewals[k]? = some (.settled v) ∧ Heard ⟨w, p⟩ (Track.of i actions s.history) v)
  /-- Whoever still waits when the renewal has settled can go on and gets it then. -/
  hears : ∀ i w k v, s.callers[i]? = some ⟨w, .waiting k⟩ →
    s.renewals[k]? = some (.settled v) →
    ∃ s' p, step c s (.resume i) = some s' ∧ s'.callers[i]? = some ⟨w, p⟩ ∧
      Heard ⟨w, p⟩ (Track.of i (actions ++ [.resume i]) s'.history) v
  /-- There are as many notifications as failures that were reported. -/
  total : s.history.countP Event.isNotice = reportedFailures s.renewals
  /-- Once no renewal is under way any more, these are all failures. -/
  total_settled : (∀ stage ∈ s.renewals, stage.isSettled = true) →
    s.history.countP Event.isNotice = s.renewals.countP Stage.hasFailed

/-- **One notification for each renewal that failed.** In every state that a run leads to, over any
number of callers who come, wait and go away, the application has heard exactly once of each renewal
that has settled with a failure, in the words that all who waited for it get, and of no other. -/
theorem reports (h : run c { cookies := cookies } actions = some s) : Reports c actions s where
  count := notice_count h
  silent k renewed path f there := by
    have once := notice_count h k path f
    rw [renewed, if_neg (by simp), List.count_eq_zero] at once
    exact once there
  cause k f := cause_of_failed h
  success k := success_of_renewed h
  heard i k started joined := (track_fits h i).heard (Track.mem_joins_iff.mpr ⟨started, joined⟩)
  hears i w k v := exists_resume h
  total := countP_notices h
  total_settled settled := (countP_notices h).trans (reportedFailures_eq settled)

namespace Sample

/-- Whoever has started a renewal goes away, and the renewal times out. Before it reports this,
somebody else starts another one, which the backend refuses. -/
def failures : List Action :=
  [.come .renew, .join 0, .drop 0, .launch 0, .settle 0 (.failure true), .clear 0, .come .renew,
   .join 1, .report 0, .launch 1, .settle 1 (.response ⟨403, none⟩), .clear 1, .report 1, .resume 1]

end Sample

/-- The application hears of both. -/
theorem reports_failures :
    ∃ s, run (Sample.client true) { cookies := Sample.noCookies } Sample.failures = some s ∧
      s.history.countP Event.isNotice = 2 ∧ Reports (Sample.client true) Sample.failures s := by
  have reached : (run (Sample.client true) { cookies := Sample.noCookies } Sample.failures).map
      (fun s => s.history.countP Event.isNotice) = some 2 := by
    decide
  obtain ⟨s, h, twice⟩ := Option.map_eq_some_iff.mp reached
  exact ⟨s, h, twice, reports h⟩

end Brokerage.Session
