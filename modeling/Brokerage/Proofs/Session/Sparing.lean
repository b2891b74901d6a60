import Brokerage.Proofs.Session.Plan

/-!
# Following a plan in two ways

A plan is followed on two sides, with renewals that go on by themselves. On one side, nobody goes
away who has come to wait for a renewal (`spare`). On the other side, whoever goes away goes away,
and what such a caller would do next does not happen. `Agrees` is what the two sides have in common
all the way: the cookies, the slot, the renewals, every caller that has not gone away, and all that
can be seen from outside but the identifiers and the second attempts of those who have gone.

The proof is a simulation. Where the same caller takes a step on both sides, each part of the step
is done to both states (`Agrees.dispatch` and the like). Where the caller has gone away on one
side, only the other state changes, and only in what the relation leaves out (`Agrees.move_left`),
because whoever has been at the slot does not come back to it.
-/

namespace Brokerage.Session

variable {c : Client} {cookies : CookieSource} {s s' t : State} {a : Action} {i : Nat} {w : Wish}
variable {p : Phase}

/-! ### Going away after joining -/

/-- True of a caller that has come to wait for a renewal and is not done yet. -/
def Phase.hasJoined : Phase → Bool
  | .waiting _ => true
  | .sent .retry _ => true
  | _ => false

/-- True of a caller that has been at the slot, or is done. -/
def Phase.isPast : Phase → Bool
  | .waiting _ => true
  | .sent .retry _ => true
  | .done _ => true
  | _ => false

/-- True if a caller has come to wait for a renewal and is not done yet. -/
def State.hasJoined (s : State) (i : Nat) : Bool := s.callers[i]?.any (·.phase.hasJoined)

/-- True if a caller has gone away. -/
def State.isGone (s : State) (i : Nat) : Bool :=
  match s.callers[i]? with
  | some ⟨_, .dropped⟩ => true
  | _ => false

theorem State.isGone_iff : s.isGone i = true ↔ ∃ w, s.callers[i]? = some ⟨w, .dropped⟩ := by
  unfold State.isGone
  split
  · next w here => exact ⟨fun _ => ⟨w, here⟩, fun _ => rfl⟩
  · next other => exact ⟨nofun, fun ⟨w, here⟩ => absurd here (other w)⟩

/-- The state after what happens next if nobody goes away who has come to wait for a renewal. -/
def spare (c : Client) (s : State) : Action → State
  | .drop i => if s.hasJoined i then s else advance c s (.drop i)
  | a => advance c s a

theorem spare_eq_or_move (c : Client) (s : State) (a : Action) :
    spare c s a = s ∨ Move c s a (spare c s a) := by
  unfold spare
  split
  · split
    · exact .inl rfl
    · exact advance_eq_or_move ..
  · exact advance_eq_or_move ..

/-- Who has come to wait for a renewal and is not done yet can be seen from outside. -/
theorem hasJoined_iff {actions : List Action} (h : run c { cookies := cookies } actions = some s)
    (here : s.callers[i]? = some ⟨w, p⟩) (alive : p.isOver = false) :
    s.hasJoined i = true ↔ ∃ k started, .joined i k started ∈ s.history := by
  have fits := track_fits h i
  have joins : (∃ k started, .joined i k started ∈ s.history) ↔
      (Track.of i actions s.history).joins ≠ [] := by
    constructor
    · rintro ⟨k, there⟩
      exact List.ne_nil_of_mem (Track.mem_joins_iff.mpr there)
    · intro filled
      obtain ⟨k, there⟩ := List.exists_mem_of_ne_nil _ filled
      exact ⟨k, Track.mem_joins_iff.mp there⟩
  rw [joins, State.hasJoined, here]
  rw [here] at fits
  generalize Track.of i actions s.history = track at fits
  cases fits with
  | sent built => simp [Phase.hasJoined]
  | expired arrival => simp [Phase.hasJoined]
  | waiting arrival => simp [Phase.hasJoined]
  | retried built lapsed again settled => simp [Phase.hasJoined]
  | _ => cases alive

/-! ### What two states have in common -/

/-- What can be seen from outside: no reports, no identifiers, and no second attempts of those who
have gone away. -/
def Event.visible? (isGone : Nat → Bool) : Event → Option Event
  | .sent (.caller i attempt) o =>
    if attempt == .retry && isGone i then none else some (.sent (.caller i attempt) o.anonymous)
  | .sent (.renewal k) o => some (.sent (.renewal k) o.anonymous)
  | .logged _ => none
  | e => some e

/-- A caller is the same in two states, or it has gone away in the second one, after it was at the
slot. -/
inductive Like (isGone : Nat → Bool) (i : Nat) : Option Caller → Option Caller → Prop where
  | same (caller : Option Caller) : Like isGone i caller caller
  | gone {w : Wish} {p : Phase} (past : p.isPast = true) (gone : isGone i = true) :
      Like isGone i (some ⟨w, p⟩) (some ⟨w, .dropped⟩)

/-- What two states have in common of which the second one comes of callers going away. -/
structure Agrees (isGone : Nat → Bool) (s t : State) : Prop where
  cookies : s.cookies = t.cookies
  slot : s.slot = t.slot
  renewals : s.renewals = t.renewals
  callers : ∀ i, Like isGone i s.callers[i]? t.callers[i]?
  visible : s.history.filterMap (Event.visible? isGone) =
    t.history.filterMap (Event.visible? isGone)

namespace Agrees

attribute [local simp] Event.visible? List.filterMap_cons

variable {isGone : Nat → Bool}

theorem refl (isGone : Nat → Bool) (s : State) : Agrees isGone s s :=
  ⟨rfl, rfl, rfl, fun _ => .same _, rfl⟩

/-- As many callers have come. -/
theorem length_callers (h : Agrees isGone s t) : s.callers.length = t.callers.length := by
  have none_iff (i : Nat) : s.callers[i]? = none ↔ t.callers[i]? = none := by
    have like := h.callers i
    generalize s.callers[i]? = left at like ⊢
    generalize t.callers[i]? = right at like ⊢
    cases like with
    | same => exact Iff.rfl
    | gone past gone => exact ⟨nofun, nofun⟩
  refine Nat.le_antisymm ?_ ?_
  · exact List.getElem?_eq_none_iff.mp ((none_iff _).mpr (List.getElem?_eq_none (Nat.le_refl _)))
  · exact List.getElem?_eq_none_iff.mp ((none_iff _).mp (List.getElem?_eq_none (Nat.le_refl _)))

/-! ### The same on both sides -/

/-- The identifiers that were drawn make no difference. -/
theorem draw (h : Agrees isGone s t) (n m : Nat) :
    Agrees isGone { s with drawn := n } { t with drawn := m } :=
  ⟨h.cookies, h.slot, h.renewals, h.callers, h.visible⟩

theorem setPhase (h : Agrees isGone s t) (same : s.callers[i]? = t.callers[i]?) (p : Phase) :
    Agrees isGone (s.setPhase i p) (t.setPhase i p) := by
  refine ⟨h.cookies, h.slot, h.renewals, fun j => ?_, h.visible⟩
  by_cases hij : i = j
  · subst hij
    rw [State.getElem?_callers_setPhase, State.getElem?_callers_setPhase, same]
    exact .same _
  · rw [State.getElem?_callers_setPhase_ne _ _ _ hij, State.getElem?_callers_setPhase_ne _ _ _ hij]
    exact h.callers j

theorem setStage (h : Agrees isGone s t) (k : Nat) (stage : Stage) :
    Agrees isGone (s.setStage k stage) (t.setStage k stage) := by
  refine ⟨h.cookies, h.slot, ?_, h.callers, h.visible⟩
  rw [State.setStage_renewals, State.setStage_renewals, h.renewals]

theorem record (h : Agrees isGone s t) {events events' : List Event}
    (same : events.filterMap (Event.visible? isGone) = events'.filterMap (Event.visible? isGone)) :
    Agrees isGone (s.record events) (t.record events') := by
  refine ⟨h.cookies, h.slot, h.renewals, h.callers, ?_⟩
  rw [State.record_history, State.record_history, List.filterMap_append, List.filterMap_append,
    h.visible, same]

theorem come (h : Agrees isGone s t) (caller : Caller) :
    Agrees isGone { s with callers := s.callers ++ [caller] }
      { t with callers := t.callers ++ [caller] } := by
  refine ⟨h.cookies, h.slot, h.renewals, fun j => ?_, h.visible⟩
  show Like isGone j (s.callers ++ [caller])[j]? (t.callers ++ [caller])[j]?
  by_cases hj : j = s.callers.length
  · have hj' := hj.trans h.length_callers
    subst hj
    rw [List.getElem?_concat_length, hj', List.getElem?_concat_length]
    exact .same _
  · rw [getElem?_concat_of_ne hj, getElem?_concat_of_ne (h.length_callers ▸ hj)]
    exact h.callers j

/-- Two attempts at the same request with the same cookies differ in their identifiers only. -/
theorem dispatch (h : Agrees isGone s t) (same : s.callers[i]? = t.callers[i]?) (r : Request)
    (attempt : Attempt) :
    Agrees isGone (dispatch c s i r attempt) (dispatch c t i r attempt) := by
  have alike : (r.build c.config s.cookies (c.draw s.drawn)).map Outgoing.anonymous =
      (r.build c.config t.cookies (c.draw t.drawn)).map Outgoing.anonymous := by
    rw [h.cookies]
    exact r.build_anonymous c.config t.cookies (c.draw s.drawn) (c.draw t.drawn)
  have drawn := h.draw (s.drawn + 1) (t.drawn + 1)
  cases left : r.build c.config s.cookies (c.draw s.drawn) with
  | error e =>
    cases right : r.build c.config t.cookies (c.draw t.drawn) with
    | error e' =>
      rw [left, right] at alike
      obtain rfl := Except.error.inj alike
      simp only [Session.dispatch, left, right]
      exact drawn.setPhase same _
    | ok o =>
      rw [left, right] at alike
      cases alike
  | ok o =>
    cases right : r.build c.config t.cookies (c.draw t.drawn) with
    | error e =>
      rw [left, right] at alike
      cases alike
    | ok o' =>
      rw [left, right] at alike
      have anonymous : o.anonymous = o'.anonymous := Except.ok.inj alike
      have url : o.url = o'.url := show o.anonymous.url = o'.anonymous.url by rw [anonymous]
      simp only [Session.dispatch, left, right, url]
      refine Agrees.record (drawn.setPhase same (.sent attempt o'.url)) ?_
      simp [anonymous]

theorem receive (h : Agrees isGone s t) (same : s.callers[i]? = t.callers[i]?) (r : Request)
    (attempt : Attempt) (url : Url) (answer : Answer) :
    Agrees isGone (receive s i r attempt url answer) (receive t i r attempt url answer) := by
  cases answer with
  | failure timedOut => exact h.setPhase same _
  | response x =>
    rw [Session.receive, Session.receive]
    cases x.isUnauthorized && r.renews && attempt.mayRenew with
    | true => exact h.setPhase same .expired
    | false => exact (h.setPhase same (.done (conclude r x))).record rfl

theorem enter (h : Agrees isGone s t) (same : s.callers[i]? = t.callers[i]?) :
    Agrees isGone (enter c s i) (enter c t i) := by
  rw [Session.enter, Session.enter, h.slot]
  cases t.slot with
  | some k => exact (h.setPhase same (.waiting k)).record rfl
  | none =>
    have installed : Agrees isGone
        { s with slot := some t.renewals.length, renewals := t.renewals ++ [.installed] }
        { t with slot := some t.renewals.length, renewals := t.renewals ++ [.installed] } :=
      ⟨h.cookies, rfl, rfl, h.callers, h.visible⟩
    simp only [h.renewals]
    exact (installed.setPhase same (.waiting t.renewals.length)).record rfl

theorem proceed (h : Agrees isGone s t) (same : s.callers[i]? = t.callers[i]?) (w : Wish)
    (v : Verdict) : Agrees isGone (proceed c s i w v) (proceed c t i w v) := by
  cases v with
  | failed f => exact h.setPhase same (.done (.error (.sessionExpired f)))
  | renewed =>
    cases w with
    | send r =>
      rw [Session.proceed, Session.proceed]
      exact h.dispatch same r .retry
    | renew => exact h.setPhase same (.done (.ok .renewed))

theorem launch (h : Agrees isGone s t) (k : Nat) :
    Agrees isGone (launch c s k) (launch c t k) := by
  rw [Session.launch, Session.launch]
  cases c.config.endpoint c.config.refreshPath with
  | error fault => exact h.setStage k _
  | ok url =>
    have sent := Request.buildRenewal_anonymous c.config t.cookies url (c.draw s.drawn)
      (c.draw t.drawn)
    refine Agrees.record ((h.draw (s.drawn + 1) (t.drawn + 1)).setStage k (.outstanding url)) ?_
    simp [h.cookies, sent]

/-- If a caller is the same in two states, then it can take a step in both or in none, and after the
step they have as much in common as before. So they have after every step that is not one of a
caller. -/
theorem step (h : Agrees isGone s t) (detached : c.detached = true)
    (same : ∀ i, a.caller? = some i → s.callers[i]? = t.callers[i]?) :
    Option.Rel (Agrees isGone) (step c s a) (step c t a) := by
  have driven := isDriven_of_detached detached
  -- a step looks at its caller, the slot, the renewals and the cookies, and these are the same
  cases a with
  | come w =>
    cases w with
    | send r =>
      have came := h.come ⟨.send r, .expired⟩
      have new : (s.callers ++ [⟨.send r, .expired⟩])[s.callers.length]? =
          (t.callers ++ [⟨.send r, .expired⟩])[s.callers.length]? := by
        rw [List.getElem?_concat_length, h.length_callers, List.getElem?_concat_length]
      have sent := came.dispatch (c := c) new r .initial
      rw [h.length_callers] at sent
      simp only [Session.step, h.length_callers]
      exact .some sent
    | renew => exact .some (h.come ⟨.renew, .expired⟩)
  | answer i answer =>
    have same := same i rfl
    simp only [Session.step, same]
    split
    · exact .some (h.receive same _ _ _ _)
    · exact .none
  | join i =>
    have same := same i rfl
    simp only [Session.step, same]
    split
    · exact .some (h.enter same)
    · exact .none
  | launch k =>
    simp only [Session.step, h.renewals, driven]
    split
    · exact .some (h.launch k)
    · exact .none
  | settle k answer =>
    simp only [Session.step, h.renewals, driven]
    split
    · exact .some (h.setStage k _)
    · exact .none
  | clear k =>
    simp only [Session.step, h.renewals]
    split
    · next v here =>
      have cleared := h.setStage k (.cleared v)
      exact .some ⟨h.cookies, rfl, cleared.renewals, h.callers, h.visible⟩
    · exact .none
  | report k =>
    simp only [Session.step, h.renewals]
    split
    · exact .some ((h.setStage k _).record rfl)
    · exact .none
  | resume i =>
    have same := same i rfl
    simp only [Session.step, same, h.renewals]
    split
    · split
      · exact .some (h.proceed same _ _)
      · exact .none
    · exact .none
  | drop i =>
    have same := same i rfl
    simp only [Session.step, same]
    split
    · exact .none
    · exact .none
    · exact .some (h.setPhase same .dropped)
    · exact .none
  | setCookies source => exact .some ⟨rfl, h.slot, h.renewals, h.callers, h.visible⟩

/-- The same if what cannot happen does not. -/
theorem advance (h : Agrees isGone s t) (detached : c.detached = true)
    (same : ∀ i, a.caller? = some i → s.callers[i]? = t.callers[i]?) :
    Agrees isGone (advance c s a) (advance c t a) := by
  have both := h.step detached same
  unfold Session.advance
  generalize Session.step c s a = left at both
  generalize Session.step c t a = right at both
  cases both with
  | some agrees => exact agrees
  | none => exact h

/-! ### One side alone -/

theorem setPhase_left (h : Agrees isGone s t) {q : Phase} (here : s.callers[i]? = some ⟨w, q⟩)
    (gone : t.callers[i]? = some ⟨w, .dropped⟩) (past : p.isPast = true)
    (out : isGone i = true) : Agrees isGone (s.setPhase i p) t := by
  refine ⟨h.cookies, h.slot, h.renewals, fun j => ?_, h.visible⟩
  by_cases hij : i = j
  · subst hij
    rw [State.getElem?_callers_setPhase, here, gone]
    exact .gone past out
  · rw [State.getElem?_callers_setPhase_ne _ _ _ hij]
    exact h.callers j

theorem record_left (h : Agrees isGone s t) {events : List Event}
    (unseen : events.filterMap (Event.visible? isGone) = []) :
    Agrees isGone (s.record events) t := by
  refine ⟨h.cookies, h.slot, h.renewals, h.callers, ?_⟩
  rw [State.record_history, List.filterMap_append, unseen, List.append_nil]
  exact h.visible

/-- A caller that has been at the slot goes away in the second state alone. -/
theorem drop_right (h : Agrees isGone s t) (here : s.callers[i]? = some ⟨w, p⟩)
    (same : s.callers[i]? = t.callers[i]?) (past : p.isPast = true) (out : isGone i = true) :
    Agrees isGone s (t.setPhase i .dropped) := by
  refine ⟨h.cookies, h.slot, h.renewals, fun j => ?_, h.visible⟩
  by_cases hij : i = j
  · subst hij
    rw [State.getElem?_callers_setPhase, ← same, here]
    exact .gone past out
  · rw [State.getElem?_callers_setPhase_ne _ _ _ hij]
    exact h.callers j

/-- A caller that has gone away in the second state takes a step in the first one alone. It has been
at the slot, so it does not come to it again, and makes no first attempt. -/
theorem move_left (h : Agrees isGone s t) (hm : Move c s a s') (own : a.caller? = some i)
    (here : s.callers[i]? = some ⟨w, p⟩) (past : p.isPast = true)
    (gone : t.callers[i]? = some ⟨w, .dropped⟩) (out : isGone i = true) (stays : a ≠ .drop i) :
    Agrees isGone s' t := by
  have drawn := h.draw (s.drawn + 1) t.drawn
  cases hm with
  | lost there =>
    cases own
    exact h.setPhase_left here gone rfl out
  | expired there lapsed renews =>
    cases own
    rw [here] at there
    cases there
    cases past
  | concluded there final =>
    cases own
    refine (h.setPhase_left here gone rfl out).record_left ?_
    split <;> simp
  | joined there held =>
    cases own
    rw [here] at there
    cases there
    cases past
  | started there empty =>
    cases own
    rw [here] at there
    cases there
    cases past
  | failed there settled =>
    cases own
    exact h.setPhase_left here gone rfl out
  | renewed there settled =>
    cases own
    exact h.setPhase_left here gone rfl out
  | retried there settled built =>
    cases own
    refine Agrees.record_left (drawn.setPhase_left here gone rfl out) ?_
    simp [out]
  | unretried there settled built =>
    cases own
    exact drawn.setPhase_left here gone rfl out
  | left there alive =>
    cases own
    exact absurd rfl stays
  | _ => cases own

end Agrees

/-! ### Both sides -/

/-- Unless a caller would go away who has come to wait for a renewal, nothing is spared. -/
theorem spare_eq_advance (h : ∀ i, a = .drop i → s.hasJoined i = false) :
    spare c s a = advance c s a := by
  unfold spare
  split
  · next i =>
    rw [h i rfl]
    rfl
  · rfl

/-- Whoever has been at the slot is spared, unless it is done. -/
theorem spare_drop (here : s.callers[i]? = some ⟨w, p⟩) (past : p.isPast = true) :
    spare c s (.drop i) = s := by
  cases p with
  | sent attempt url =>
    cases attempt with
    | initial => cases past
    | retry => simp [spare, State.hasJoined, here, Phase.hasJoined]
  | waiting k => simp [spare, State.hasJoined, here, Phase.hasJoined]
  | done result => simp [spare, State.hasJoined, here, Phase.hasJoined, advance, step]
  | expired => cases past
  | dropped => cases past

/-- Whoever has come to wait for a renewal and is not done can go away. -/
theorem Move.of_hasJoined (joined : s.hasJoined i = true) :
    ∃ w p, s.callers[i]? = some ⟨w, p⟩ ∧ p.isPast = true ∧
      Move c s (.drop i) (s.setPhase i .dropped) := by
  unfold State.hasJoined at joined
  rw [Option.any_eq_true] at joined
  obtain ⟨⟨w, p⟩, here, joined⟩ := joined
  refine ⟨w, p, here, ?_, .left here ?_⟩
  · cases p with
    | sent attempt url => cases attempt <;> first | rfl | cases joined
    | waiting k => rfl
    | _ => cases joined
  · cases p with
    | sent attempt url => rfl
    | waiting k => rfl
    | _ => cases joined

/-- The next part of a plan, followed on both sides, leaves as much in common as there was. -/
theorem Agrees.both {isGone : Nat → Bool} (h : Agrees isGone s t) (detached : c.detached = true)
    (out : ∀ i w, (Session.advance c t a).callers[i]? = some ⟨w, .dropped⟩ → isGone i = true) :
    Agrees isGone (spare c s a) (Session.advance c t a) := by
  cases own : a.caller? with
  | none =>
    rw [spare_eq_advance]
    · exact h.advance detached fun i same => absurd (own.symm.trans same) nofun
    · rintro i rfl
      cases own
  | some i =>
    have like := h.callers i
    generalize left : s.callers[i]? = x at like
    generalize right : t.callers[i]? = y at like
    cases like with
    | same =>
      have same := left.trans right.symm
      by_cases spared : a = .drop i ∧ s.hasJoined i = true
      · -- it goes away on the second side only
        obtain ⟨rfl, joined⟩ := spared
        have joined' : t.hasJoined i = true := by
          rw [State.hasJoined, ← same]
          exact joined
        obtain ⟨w, p, here, past, move⟩ := Move.of_hasJoined (c := c) joined'
        rw [move.advance_eq] at out ⊢
        rw [spare_drop (same.trans here) past]
        exact h.drop_right (same.trans here) same past (out i w (by simp [here]))
      · rw [spare_eq_advance]
        · refine h.advance detached fun j other => ?_
          rw [own] at other
          cases other
          exact same
        · rintro j rfl
          cases own
          exact Bool.eq_false_iff.mpr fun joined => spared ⟨rfl, joined⟩
    | @gone w p past gone =>
      -- only the first side may change, and what is left out of the relation alone
      rw [advance_of_dropped right own]
      by_cases stays : a = .drop i
      · rw [stays, spare_drop left past]
        exact h
      · rw [spare_eq_advance]
        · exact advance_induction (motive := fun s => Agrees isGone s t) h fun s' move =>
            h.move_left move own left past right gone stays
        · rintro j rfl
          cases own
          exact absurd rfl stays

/-- A plan that is followed on both sides leaves as much in common as there was. -/
theorem Agrees.foldl {isGone : Nat → Bool} (h : Agrees isGone s t) (detached : c.detached = true)
    (plan : List Action)
    (out : ∀ i w, (plan.foldl (Session.advance c) t).callers[i]? = some ⟨w, .dropped⟩ →
      isGone i = true) :
    Agrees isGone (plan.foldl (spare c) s) (plan.foldl (Session.advance c) t) := by
  induction plan generalizing s t with
  | nil => exact h
  | cons a rest ih =>
    refine ih (h.both detached fun i w gone => ?_) out
    exact out i w (foldl_dropped_persists (advance_eq_or_move c) rest gone)

end Brokerage.Session
