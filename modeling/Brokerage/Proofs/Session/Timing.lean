import Brokerage.Proofs.Session.Decoration
import Brokerage.Session.Setup

/-!
# Timeouts of a client

A request may have to wait for a renewal, so a renewal has to give up before any request does
(`Consistent`). The check finds a fault exactly if the ceilings are not like that
(`fault?_eq_none_iff`), and every client goes through it when it is set up: its settings may have
been changed to anything before, but not afterwards.

So all along a run, whatever a client sends to the backend carries a ceiling of such settings:
that of the category of the request that its caller wants answered, or that of renewals (`Timed`).
-/

namespace Brokerage

namespace Timeouts

variable {t : Timeouts} {category : Category}

/-- A renewal has some time, and less than any request that may wait for it. -/
structure Consistent (t : Timeouts) : Prop where
  renewal : 0 < t.renewal.nanoseconds
  shorter : ∀ category, t.renewal < t.ceiling category

theorem mem_all (category : Category) : category ∈ Category.all := by
  cases category <;> decide

/-- There is no fault in a ceiling that is longer than that of renewals, as soon as these have some
time. -/
theorem ceilingFault?_eq_none_iff :
    t.ceilingFault? category = none ↔
      0 < (t.ceiling category).nanoseconds ∧ t.renewal < t.ceiling category := by
  have longer : t.renewal < t.ceiling category ↔ ¬ t.ceiling category ≤ t.renewal := by
    show t.renewal.nanoseconds < _ ↔ ¬ (t.ceiling category).nanoseconds ≤ _
    omega
  rw [ceilingFault?, Duration.isZero, longer]
  simp only [beq_iff_eq, Nat.pos_iff_ne_zero]
  split
  · simp_all
  · split <;> simp_all

/-- **The check finds no fault exactly in consistent timeouts.** -/
theorem fault?_eq_none_iff : t.fault? = none ↔ t.Consistent := by
  rw [fault?, Duration.isZero]
  constructor
  · intro sound
    split at sound
    · cases sound
    · next nonzero =>
      rw [List.findSome?_eq_none_iff] at sound
      refine ⟨Nat.pos_of_ne_zero (by simpa using nonzero), fun category => ?_⟩
      exact (ceilingFault?_eq_none_iff.mp (sound category (mem_all category))).2
  · intro consistent
    have nonzero : ¬ (t.renewal.nanoseconds == 0) = true := by
      have := consistent.renewal
      simp
      omega
    rw [if_neg nonzero, List.findSome?_eq_none_iff]
    intro category _
    have longer := consistent.shorter category
    -- what is longer than some time is some time
    exact ceilingFault?_eq_none_iff.mpr ⟨Nat.lt_of_le_of_lt (Nat.zero_le _) longer, longer⟩

end Timeouts

namespace Session

variable {c : Client} {cookies : CookieSource} {s : State} {actions : List Action}

/-! ### What is sent -/

/-- What is put together for a request waits for its answer as long as the category says. -/
theorem Built.timeout_eq {r : Request} {o : Outgoing} (built : Built c r o) :
    o.timeout = c.config.timeouts.ceiling r.category := by
  obtain ⟨source, id, built⟩ := built
  obtain ⟨url, headers, -, -, rfl⟩ := Request.build_eq_ok_iff.mp built
  rfl

/-- A renewal waits for its answer as long as renewals may. -/
theorem timeout_of_renewal {k : Nat} {o : Outgoing}
    (h : run c { cookies := cookies } actions = some s)
    (sent : .sent (.renewal k) o ∈ s.history) : o.timeout = c.config.timeouts.renewal := by
  obtain ⟨n, there⟩ := List.mem_iff_getElem?.mp sent
  obtain ⟨before, a, after, u, u', -, -, -, -, -, sends⟩ := exists_sends h there
  cases sends with
  | renewal here resolved => rfl

/-- The timeouts of all that has been sent, by who has sent it. -/
structure Timed (config : Config) (s : State) : Prop where
  nonzero : ∀ sender o, .sent sender o ∈ s.history → 0 < o.timeout.nanoseconds
  /-- A first attempt and a second one have the ceiling of the category of what
  their caller wants. -/
  attempt : ∀ i attempt o, .sent (.caller i attempt) o ∈ s.history →
    ∃ r phase, s.callers[i]? = some ⟨.send r, phase⟩ ∧
      o.timeout = config.timeouts.ceiling r.category
  renewal : ∀ k o, .sent (.renewal k) o ∈ s.history → o.timeout = config.timeouts.renewal
  /-- A renewal gives up before any attempt of anybody, be it one that waits for the renewal. -/
  shorter : ∀ k o i attempt o', .sent (.renewal k) o ∈ s.history →
    .sent (.caller i attempt) o' ∈ s.history → o.timeout < o'.timeout

/-- With consistent timeouts, all that is sent in a run is timed. -/
theorem timed_of_run (consistent : c.config.timeouts.Consistent)
    (h : run c { cookies := cookies } actions = some s) : Timed c.config s := by
  have attempt : ∀ i attempt o, .sent (.caller i attempt) o ∈ s.history →
      ∃ r phase, s.callers[i]? = some ⟨.send r, phase⟩ ∧
        o.timeout = c.config.timeouts.ceiling r.category := by
    intro i attempt o sent
    obtain ⟨r, phase, here, built⟩ :=
      (track_fits h i).built_of_mem (Track.mem_calls_iff.mpr sent)
    exact ⟨r, phase, here, built.timeout_eq⟩
  have renewal : ∀ k o, .sent (.renewal k) o ∈ s.history →
      o.timeout = c.config.timeouts.renewal := fun k o sent => timeout_of_renewal h sent
  have shorter : ∀ i attempt o, .sent (.caller i attempt) o ∈ s.history →
      c.config.timeouts.renewal < o.timeout := by
    intro i attempt' o sent
    obtain ⟨r, -, -, timeout⟩ := attempt i attempt' o sent
    rw [timeout]
    exact consistent.shorter r.category
  refine ⟨fun sender o sent => ?_, attempt, renewal, fun k o i attempt o' sent sent' => ?_⟩
  · cases sender with
    | caller i attempt =>
      exact Nat.lt_of_le_of_lt (Nat.zero_le _) (shorter i attempt o sent)
    | renewal k =>
      rw [renewal k o sent]
      exact consistent.renewal
  · rw [renewal k o sent]
    exact shorter i attempt o' sent'

end Session

/-! ### Setting up -/

namespace Setup

variable {setup : Setup} {draw : Nat → RequestId} {detached : Bool} {c : Client}

/-- There is a client exactly if the timeouts are consistent and the cookies are read from
somewhere. It keeps the settings. -/
theorem client_eq_ok_iff : setup.client draw detached = .ok c ↔
    setup.config.timeouts.Consistent ∧
      (setup.transport = true → setup.cookies = true ∨ setup.jar = true) ∧
      c = ⟨setup.config, draw, detached⟩ := by
  rw [client, fault?, ← Timeouts.fault?_eq_none_iff]
  cases setup.config.timeouts.fault? with
  | some fault => simp
  | none =>
    cases setup.transport <;> cases setup.cookies <;> cases setup.jar <;> simp [eq_comm]

/-- The timeouts are the reason for which there is no client exactly if they are not consistent. -/
theorem exists_client_eq_error_iff :
    (∃ fault, setup.client draw detached = .error (.timeouts fault)) ↔
      ¬ setup.config.timeouts.Consistent := by
  rw [client, fault?, ← Timeouts.fault?_eq_none_iff]
  cases setup.config.timeouts.fault? with
  | some fault => simp
  | none =>
    cases setup.transport <;> cases setup.cookies <;> cases setup.jar <;> simp

/-- **Timeouts.** Whatever the settings are, and however they came about: where the timeouts are not
consistent, setting up a client fails for this reason, and where they are, it never does. So in
every run of every client that was set up, all that goes to the backend waits for some time: an
attempt as long as the category of its request says, a renewal as long as renewals may, and a
renewal for less time than any attempt. -/
theorem timeouts_of_client (setup : Setup) (draw : Nat → RequestId) (detached : Bool) :
    (¬ setup.config.timeouts.Consistent →
      ∃ fault, setup.client draw detached = .error (.timeouts fault)) ∧
    (setup.config.timeouts.Consistent →
      (∀ fault, setup.client draw detached ≠ .error (.timeouts fault)) ∧
      ((setup.transport = true → setup.cookies = true ∨ setup.jar = true) →
        ∃ c, setup.client draw detached = .ok c)) ∧
    ∀ c, setup.client draw detached = .ok c →
      ∀ (cookies : CookieSource) (actions : List Session.Action) (s : Session.State),
        Session.run c { cookies := cookies } actions = some s → Session.Timed setup.config s := by
  refine ⟨exists_client_eq_error_iff.mpr,
    fun consistent => ⟨fun fault failed => ?_, fun read => ?_⟩,
    fun c built cookies actions s reached => ?_⟩
  · exact exists_client_eq_error_iff.mp ⟨fault, failed⟩ consistent
  · exact ⟨_, client_eq_ok_iff.mpr ⟨consistent, read, rfl⟩⟩
  · obtain ⟨consistent, -, rfl⟩ := client_eq_ok_iff.mp built
    exact Session.timed_of_run consistent reached

namespace Sample

/-- Renewals may take all but a nanosecond of the time of the shortest requests. -/
def close : Setup where
  config := { (Session.Sample.client true).config with
    timeouts := { Timeouts.standard with renewal := ⟨14_999_999_999⟩ } }
  transport := true
  jar := true

/-- A request that starts a job in the background. -/
def sync : Request where
  method := "POST"
  path := "listings/sync"
  category := .queue

/-- It comes when the session is over, and is sent again after a renewal. -/
def renewed : List Session.Action :=
  [.come (.send sync), .answer 0 (.response ⟨401, none⟩), .join 0, .launch 0,
   .settle 0 (.response ⟨204, none⟩), .clear 0, .report 0, .resume 0]

end Sample

/-- The renewal gives up a nanosecond before either attempt of the request that waits for it. -/
theorem timeouts_of_client_close :
    ∃ c s, Sample.close.client (fun n => ⟨.ofNat n⟩) true = .ok c ∧
      Session.run c { cookies := Session.Sample.noCookies } Sample.renewed = some s ∧
      (s.history.filterMap Session.Event.outgoing?).map (·.timeout) =
        [.ofSeconds 15, ⟨14_999_999_999⟩, .ofSeconds 15] ∧
      Session.Timed Sample.close.config s := by
  have consistent : Sample.close.config.timeouts.Consistent := by
    refine ⟨by decide, fun category => ?_⟩
    cases category <;> decide
  obtain ⟨-, built, timed⟩ := timeouts_of_client Sample.close (fun n => ⟨.ofNat n⟩) true
  obtain ⟨c, here⟩ := (built consistent).2 fun _ => .inr rfl
  obtain ⟨-, -, rfl⟩ := client_eq_ok_iff.mp here
  have reached : (Session.run ⟨Sample.close.config, fun n => ⟨.ofNat n⟩, true⟩
      { cookies := Session.Sample.noCookies } Sample.renewed).map
      (fun s => (s.history.filterMap Session.Event.outgoing?).map (·.timeout)) =
        some [.ofSeconds 15, ⟨14_999_999_999⟩, .ofSeconds 15] := by
    with_unfolding_all rfl
  obtain ⟨s, h, seen⟩ := Option.map_eq_some_iff.mp reached
  exact ⟨_, s, here, h, seen, timed _ here _ _ s h⟩

end Setup

end Brokerage
