import Brokerage.Proofs.Session.Caller

/-!
# The outcome of a request

A request that comes to its end has one or two attempts behind it, and between them at most one
renewal. `Outcome` says which of these it was and what the request got, by what the backend answered
to the request and by what the renewal came to. Who started the renewal, who else waited for it and
what happened to the cookies in the meantime does not matter.

`track_fits` leaves three ways to the end: the first answer was final (`Outcome.ended`), the renewal
failed (`Outcome.unrenewed`), or the request was sent again (`Outcome.endedAgain`). `send_outcome`
puts them together. That the second attempt comes after the renewal is said of the moment at which
it is made, so `retried_after` speaks of the part of the run up to there.
-/

namespace Brokerage.Session

variable {c : Client} {cookies : CookieSource} {s : State} {actions : List Action}
variable {i : Nat} {r : Request} {renewals : List Stage}

/-! ### Results -/

/-- A request succeeds if the status of its last answer is one of success. Otherwise the error names
the request as the caller did, and a body that cannot be read is empty. -/
theorem conclude_eq (r : Request) (x : Response) :
    conclude r x =
      if 200 ≤ x.status ∧ x.status < 300 then .ok (.response x)
      else .error (.status r.method r.path x.status ((x.body.map Text.decodeLossy).getD "")) := by
  rw [conclude, Response.text_eq]
  simp only [Response.isSuccess_iff]

/-- The first answer sends a request to the slot if it says that the session is over and the request
has not opted out. -/
theorem Answer.expires_iff {answer : Answer} :
    answer.expires r = true ↔
      r.renews = true ∧ ∃ x, answer = .response x ∧ x.status = 401 := by
  cases answer with
  | response x =>
    simp only [Answer.expires, Response.isUnauthorized, Bool.and_eq_true, beq_iff_eq]
    constructor
    · rintro ⟨lapsed, renews⟩
      exact ⟨renews, x, rfl, lapsed⟩
    · rintro ⟨renews, x', same, lapsed⟩
      cases same
      exact ⟨lapsed, renews⟩
  | failure timedOut => simp [Answer.expires]

/-- The result by the last answer is never that the session is over. -/
theorem result_ne_sessionExpired (r : Request) (url : Url) (answer : Answer) (f : RenewalFailure) :
    result r url answer ≠ .error (.sessionExpired f) := by
  cases answer with
  | response x =>
    rw [result, conclude_eq]
    intro same
    split at same <;> cases same
  | failure timedOut =>
    intro same
    cases same

/-! ### Outcomes -/

/-- What is true of a request that has come to its end. -/
structure Outcome (c : Client) (r : Request) (ending : Except Error Reply) (renewals : List Stage)
    (track : Track) : Prop where
  /-- It made one attempt, or two. -/
  attempts : track.calls.map Prod.fst = [.initial] ∨ track.calls.map Prod.fst = [.initial, .retry]
  /-- Every attempt is the request, put together anew. -/
  built : ∀ call ∈ track.calls, Built c r call.2
  /-- Every attempt was answered, once. -/
  answered : track.answers.length = track.calls.length
  /-- It waited for a renewal exactly if its first answer was that the session is over and it had
  not opted out. -/
  waits_iff : track.joins ≠ [] ↔
    r.renews = true ∧ ∃ x, track.answers.head? = some (.response x) ∧ x.status = 401
  /-- It did not wait for two. -/
  waits_once : track.joins.length ≤ 1
  /-- The renewal that it waited for has settled. -/
  settled : ∀ k ∈ track.joins, ∃ v, renewals[k]? = some (.settled v)
  /-- It was sent again exactly if this renewal succeeded. -/
  retries_iff : track.calls.length = 2 ↔ ∃ k ∈ track.joins, renewals[k]? = some (.settled .renewed)
  /-- If the renewal failed, its failure is the result, and there was no second attempt. -/
  unrenewed : ∀ k ∈ track.joins, ∀ f, renewals[k]? = some (.settled (.failed f)) →
    ending = .error (.sessionExpired f) ∧ track.calls.length = 1
  /-- That the session is over is the result of nothing else. -/
  unrenewed_only : ∀ f, ending = .error (.sessionExpired f) →
    r.renews = true ∧ ∃ k ∈ track.joins, renewals[k]? = some (.settled (.failed f))
  /-- If nothing came back for the last attempt, this is the result. -/
  lost : ∀ attempt o timedOut, track.calls.getLast? = some (attempt, o) →
    track.answers.getLast? = some (.failure timedOut) →
    ending = .error (.transfer (.send o.url.write timedOut))
  /-- Unless the renewal failed, the last response decides. -/
  responded : (∀ k ∈ track.joins, ∀ f, renewals[k]? ≠ some (.settled (.failed f))) →
    ∀ x, track.answers.getLast? = some (.response x) →
    ending =
      if 200 ≤ x.status ∧ x.status < 300 then .ok (.response x)
      else .error (.status r.method r.path x.status ((x.body.map Text.decodeLossy).getD ""))

section Endings

variable {o o' : Outgoing} {answer answer' : Answer} {k : Nat} {f : RenewalFailure} {resumes : Nat}

/-- The first answer was final. -/
theorem Outcome.ended (built : Built c r o) (final : answer.expires r = false) :
    Outcome c r (result r o.url answer) renewals ⟨[(.initial, o)], [], [answer], resumes⟩ := by
  have stays : ¬(r.renews = true ∧ ∃ x, answer = .response x ∧ x.status = 401) := by
    rw [← Answer.expires_iff, final]
    exact Bool.false_ne_true
  refine
    { attempts := .inl rfl, built := by simpa using built, answered := rfl, waits_iff := ?_,
      waits_once := Nat.zero_le 1, settled := nofun, retries_iff := by simp, unrenewed := nofun,
      unrenewed_only := fun f lapsed => ?_, lost := ?_, responded := ?_ }
  · simpa using stays
  · exact absurd lapsed (result_ne_sessionExpired r o.url answer f)
  · rintro attempt o timedOut ⟨⟩ ⟨⟩
    rfl
  · rintro - x ⟨⟩
    exact conclude_eq r x

/-- The request waited for a renewal that failed. -/
theorem Outcome.unrenewed_of (built : Built c r o) (lapsed : answer.expires r = true)
    (failed : renewals[k]? = some (.settled (.failed f))) :
    Outcome c r (.error (.sessionExpired f)) renewals
      ⟨[(.initial, o)], [k], [answer], resumes⟩ := by
  obtain ⟨renews, x, rfl, unauthorized⟩ := Answer.expires_iff.mp lapsed
  refine
    { attempts := .inl rfl, built := by simpa using built, answered := rfl, waits_iff := ?_,
      waits_once := Nat.le_refl 1, settled := ?_, retries_iff := ?_, unrenewed := ?_,
      unrenewed_only := ?_, lost := ?_, responded := fun unfailed => ?_ }
  · simp [renews, unauthorized]
  · intro j joined
    rw [List.mem_singleton.mp joined]
    exact ⟨_, failed⟩
  · simp [failed]
  · intro j joined f' failed'
    rw [List.mem_singleton.mp joined, failed] at failed'
    cases failed'
    exact ⟨rfl, rfl⟩
  · rintro f' ⟨⟩
    exact ⟨renews, k, List.mem_singleton_self k, failed⟩
  · rintro attempt o timedOut - ⟨⟩
  · exact absurd failed (unfailed k (List.mem_singleton_self k) f)

/-- The request waited for a renewal that succeeded, and was sent again. -/
theorem Outcome.endedAgain (built : Built c r o) (lapsed : answer.expires r = true)
    (again : Built c r o') (renewed : renewals[k]? = some (.settled .renewed)) :
    Outcome c r (result r o'.url answer') renewals
      ⟨[(.initial, o), (.retry, o')], [k], [answer, answer'], resumes⟩ := by
  obtain ⟨renews, x, rfl, unauthorized⟩ := Answer.expires_iff.mp lapsed
  refine
    { attempts := .inr rfl, built := ?_, answered := rfl, waits_iff := ?_,
      waits_once := Nat.le_refl 1, settled := ?_, retries_iff := ?_, unrenewed := ?_,
      unrenewed_only := fun f expired => ?_, lost := ?_, responded := ?_ }
  · simp [built, again]
  · simp [renews, unauthorized]
  · intro j joined
    rw [List.mem_singleton.mp joined]
    exact ⟨_, renewed⟩
  · simp [renewed]
  · intro j joined f failed
    rw [List.mem_singleton.mp joined, renewed] at failed
    cases failed
  · exact absurd expired (result_ne_sessionExpired r o'.url answer' f)
  · rintro attempt o timedOut ⟨⟩ ⟨⟩
    rfl
  · rintro - x' ⟨⟩
    exact conclude_eq r x'

end Endings

/-- A caller whose request can be put together and has come to its end has an outcome. -/
theorem Track.Fits.outcome {track : Track} {ending : Except Error Reply}
    (fits : Track.Fits c renewals (some ⟨.send r, .done ending⟩) track)
    (buildable : ∃ o, Built c r o) : Outcome c r ending renewals track := by
  cases fits with
  | refused refused =>
    -- what can be put together is not refused, with whatever cookies and identifier
    obtain ⟨o, source, id, built⟩ := buildable
    obtain ⟨o', built'⟩ := Request.exists_build_eq_ok built _ _
    rw [refused] at built'
    cases built'
  | ended answer built final => exact .ended built final
  | failed arrival settled =>
    cases arrival with
    | expired built lapsed => exact .unrenewed_of built lapsed settled
  | endedAgain answer' built lapsed again settled => exact .endedAgain built lapsed again settled

/-- A caller that makes a second attempt has waited for one renewal, and it has succeeded. -/
theorem Track.Fits.renewed_of_retry {caller : Option Caller} {track : Track} {o : Outgoing}
    (fits : Track.Fits c renewals caller track) (retry : (.retry, o) ∈ track.calls) :
    ∃ k, track.joins = [k] ∧ renewals[k]? = some (.settled .renewed) := by
  have only {w : Wish} {calls : List (Attempt × Outgoing)} {answers : List Answer}
      (arrival : Arrival c w calls answers) : (.retry, o) ∉ calls := by
    cases arrival <;> simp
  induction fits with
  | expired arrival => exact absurd retry (only arrival)
  | waiting arrival => exact absurd retry (only arrival)
  | failed arrival settled => exact absurd retry (only arrival)
  | retried built lapsed again settled => exact ⟨_, rfl, settled⟩
  | endedAgain answer' built lapsed again settled => exact ⟨_, rfl, settled⟩
  | dropped alive fits ih => exact ih retry
  | _ => simp at retry

/-- At the moment of the second attempt, the renewal that the caller has waited for has settled. -/
theorem retried_after {t : State} {before : List Action} {o : Outgoing}
    (h : run c { cookies := cookies } before = some t)
    (retry : .sent (.caller i .retry) o ∈ t.history) :
    ∃ k, (Track.of i before t.history).joins = [k] ∧ t.renewals[k]? = some (.settled .renewed) :=
  (track_fits h i).renewed_of_retry (Track.mem_calls_iff.mpr retry)

/-- **The outcome of a request.** Whatever the backend answers and whatever other callers, renewals
and cookies do in the meantime, a request that can be put together and that has come to its end
made one or two attempts, waited for a renewal exactly if the first one was answered that the
session is over and it had not opted out, was sent again exactly if this renewal succeeded and only
after it had settled, and got what its last answer or the failure of the renewal says. -/
theorem send_outcome {ending : Except Error Reply}
    (h : run c { cookies := cookies } actions = some s)
    (here : s.callers[i]? = some ⟨.send r, .done ending⟩) (buildable : ∃ o, Built c r o) :
    Outcome c r ending s.renewals (Track.of i actions s.history) ∧
      ∀ before after t, actions = before ++ after →
        run c { cookies := cookies } before = some t →
        (∃ o, .sent (.caller i .retry) o ∈ t.history) →
        ∃ k, (Track.of i before t.history).joins = [k] ∧
          (Track.of i actions s.history).joins = [k] ∧
          t.renewals[k]? = some (.settled .renewed) := by
  have fits := track_fits h i
  rw [here] at fits
  have outcome := fits.outcome buildable
  refine ⟨outcome, ?_⟩
  rintro before after t rfl ht ⟨o, retry⟩
  obtain ⟨k, joined, renewed⟩ := retried_after ht retry
  refine ⟨k, joined, ?_, renewed⟩
  -- what the caller had joined by then is all that it ever joins, because it does not join twice
  have later : run c t after = some s := by
    rw [run_append, ht] at h
    exact h
  have more : [k] <+: (Track.of i (before ++ after) s.history).joins := by
    rw [← joined]
    exact (run_history_extends later).filterMap _
  exact (more.eq_of_length_le outcome.waits_once).symm

namespace Sample

/-- A request for the leads. -/
def listing : Request where
  method := "GET"
  path := "leads"

/-- The first answer to a request is that the session is over. The session is renewed, and the
second answer is that there are no leads. -/
def retried : List Action :=
  [.come (.send listing), .answer 0 (.response ⟨401, none⟩), .join 0, .launch 0,
   .settle 0 (.response ⟨204, none⟩), .clear 0, .report 0, .resume 0,
   .answer 0 (.response ⟨404, none⟩)]

/-- The request can be put together. -/
theorem exists_built_listing : ∃ o, Built (client true) listing o := by
  have built : (listing.build (client true).config noCookies ⟨.ofNat 0⟩).isOk = true := by
    decide
  cases h : listing.build (client true).config noCookies ⟨.ofNat 0⟩ with
  | ok o => exact ⟨o, noCookies, ⟨.ofNat 0⟩, h⟩
  | error e =>
    rw [h] at built
    cases built

end Sample

/-- The error then names the request and the second answer, whose body cannot be read. -/
theorem send_outcome_retried :
    ∃ s, run (Sample.client true) { cookies := Sample.noCookies } Sample.retried = some s ∧
      Outcome (Sample.client true) Sample.listing (.error (.status "GET" "leads" 404 ""))
        s.renewals (Track.of 0 Sample.retried s.history) := by
  have reached : (run (Sample.client true) { cookies := Sample.noCookies } Sample.retried).map
      State.callers =
        some [⟨.send Sample.listing, .done (.error (.status "GET" "leads" 404 ""))⟩] := by
    with_unfolding_all rfl
  obtain ⟨s, h, callers⟩ := Option.map_eq_some_iff.mp reached
  have here : s.callers[0]? =
      some ⟨.send Sample.listing, .done (.error (.status "GET" "leads" 404 ""))⟩ := by
    rw [callers]
    rfl
  exact ⟨s, h, (send_outcome h here Sample.exists_built_listing).1⟩

end Brokerage.Session
