import Brokerage.Proofs.Session.Caller

/-!
# Plans

A plan says what everybody would do, one after the other. What cannot happen when its turn comes
does not happen (`advance`), so a plan leads somewhere from every state, and what a caller would do
after it has gone away is left out by itself (`advance_of_dropped`). Plans are no more than runs:
what happens of a plan is a run (`exists_run_foldl`). But one and the same plan can be followed from
two states or in two ways, and what comes of it can be compared.

With renewals that go on by themselves, `about_foldl` compares a plan with what is left of it if no
caller does anything any more: a renewal that was started takes the same course. And every such
renewal comes to an end as soon as it is answered, whoever is there (`exists_settled`).
-/

namespace Brokerage.Session

variable {c : Client} {s s' t : State} {a : Action} {i k : Nat} {w : Wish}

/-! ### Following a plan -/

/-- The state after what happens next, or the same state if it cannot happen. -/
def advance (c : Client) (s : State) (a : Action) : State := (step c s a).getD s

theorem Move.advance_eq (h : Move c s a s') : advance c s a = s' := by
  rw [advance, step_eq_some_iff.mpr h]
  rfl

/-- Either nothing happens, or what was planned. -/
theorem advance_eq_or_move (c : Client) (s : State) (a : Action) :
    advance c s a = s ∨ Move c s a (advance c s a) := by
  cases h : step c s a with
  | none =>
    rw [advance, h]
    exact .inl rfl
  | some s' =>
    rw [(move_of_step h).advance_eq]
    exact .inr (move_of_step h)

/-- What holds of a state and after every move holds wherever the next part of a plan leads to. -/
theorem advance_induction {motive : State → Prop} (stays : motive s)
    (moves : ∀ s', Move c s a s' → motive s') : motive (advance c s a) := by
  rcases advance_eq_or_move c s a with same | move
  · rw [same]
    exact stays
  · exact moves _ move

/-- What happens of a plan is a run, also if some of it is left out on the way. -/
theorem exists_run_foldl {f : State → Action → State}
    (hf : ∀ s a, f s a = s ∨ Move c s a (f s a)) (s : State) (plan : List Action) :
    ∃ actions, actions.Sublist plan ∧ run c s actions = some (plan.foldl f s) := by
  induction plan generalizing s with
  | nil => exact ⟨[], List.Sublist.refl [], rfl⟩
  | cons a rest ih =>
    obtain ⟨actions, part, leads⟩ := ih (f s a)
    rcases hf s a with same | move
    · refine ⟨actions, part.cons a, ?_⟩
      rw [List.foldl_cons, same]
      rw [same] at leads
      exact leads
    · refine ⟨a :: actions, part.cons_cons a, ?_⟩
      rw [run, step_eq_some_iff.mpr move]
      exact leads

/-- A run follows itself as a plan. -/
theorem foldl_advance_of_run {actions : List Action} (h : run c s actions = some s') :
    actions.foldl (advance c) s = s' := by
  induction actions generalizing s with
  | nil => exact Option.some.inj h
  | cons a rest ih =>
    obtain ⟨t, first, others⟩ := Option.bind_eq_some_iff.mp h
    rw [List.foldl_cons, (move_of_step first).advance_eq]
    exact ih others

/-! ### Those who have gone away -/

/-- Whoever has gone away does not come back. -/
theorem Move.dropped_persists (h : Move c s a s')
    (gone : s.callers[i]? = some ⟨w, .dropped⟩) : s'.callers[i]? = some ⟨w, .dropped⟩ := by
  by_cases own : a.caller? = some i
  · -- every step of a caller starts from another phase
    cases h <;> cases own <;> simp_all [Phase.isOver]
  · have inside : i < s.callers.length := (List.getElem?_eq_some_iff.mp gone).1
    rw [(h.track_elsewhere [] own (.inr (Nat.ne_of_lt inside))).1]
    exact gone

theorem foldl_dropped_persists {f : State → Action → State}
    (hf : ∀ s a, f s a = s ∨ Move c s a (f s a)) (plan : List Action)
    (gone : s.callers[i]? = some ⟨w, .dropped⟩) :
    (plan.foldl f s).callers[i]? = some ⟨w, .dropped⟩ := by
  induction plan generalizing s with
  | nil => exact gone
  | cons a rest ih =>
    refine ih ?_
    rcases hf s a with same | move
    · rw [same]
      exact gone
    · exact move.dropped_persists gone

/-- What a caller would do after it has gone away does not happen. -/
theorem advance_of_dropped (gone : s.callers[i]? = some ⟨w, .dropped⟩)
    (own : a.caller? = some i) : advance c s a = s := by
  cases a <;> cases own <;> simp [advance, step, gone]

/-! ### Renewals without callers -/

/-- What can be told of a renewal: its stage, what went to the backend but for identifiers, and what
the application has heard of it. -/
def State.about (s : State) (k : Nat) :
    Option Stage × List Outgoing × List (String × RenewalFailure) :=
  (s.renewals[k]?, (s.history.filterMap (Event.refresh? k)).map Outgoing.anonymous,
    s.history.filterMap (Event.notice? k))

/-- True of what callers do. Renewals and changes of the cookies are left. -/
def Action.isOfCaller : Action → Bool
  | .come _ => true
  | .answer _ _ => true
  | .join _ => true
  | .resume _ => true
  | .drop _ => true
  | _ => false

/-- Only whoever changes the cookies changes them. -/
theorem Move.cookies_eq (h : Move c s a s') (other : ∀ source, a ≠ .setCookies source) :
    s'.cookies = s.cookies := by
  cases h with
  | changed => exact absurd rfl (other _)
  | _ => rfl

/-- A renewal that was started stays in the list. -/
theorem Move.length_renewals_le (h : Move c s a s') :
    s.renewals.length ≤ s'.renewals.length := by
  cases h <;> simp

/-- Steps of callers and of other renewals change nothing about a renewal that was started. -/
theorem Move.about_eq (h : Move c s a s') (other : a.renewal? ≠ some k)
    (started : k < s.renewals.length) : s'.about k = s.about k := by
  obtain ⟨stage, course⟩ := h.course_elsewhere [] other (.inr (Nat.ne_of_lt started))
  have calls : s'.history.filterMap (Event.refresh? k) = s.history.filterMap (Event.refresh? k) :=
    congrArg Course.calls course
  have notices : s'.history.filterMap (Event.notice? k) = s.history.filterMap (Event.notice? k) :=
    congrArg Course.notices course
  rw [State.about, stage, calls, notices]
  rfl

/-- A renewal that goes on by itself can always go on. -/
theorem isDriven_of_detached (detached : c.detached = true) (s : State) (k : Nat) :
    isDriven c s k = true := by
  rw [isDriven, detached, Bool.true_or]

/-- Of two renewals of which the same can be told, the same can be told at the next stage. -/
theorem about_setStage {stage : Stage} (here : s.renewals[k]? = some stage)
    (same : s.about k = t.about k) (next : Stage) :
    (s.setStage k next).about k = (t.setStage k next).about k := by
  have here' : t.renewals[k]? = some stage := (congrArg Prod.fst same).symm.trans here
  have inside : (s.renewals.set k next)[k]? = (t.renewals.set k next)[k]? := by
    rw [List.getElem?_set_self (List.getElem?_eq_some_iff.mp here).1,
      List.getElem?_set_self (List.getElem?_eq_some_iff.mp here').1]
  refine Prod.ext inside ?_
  show (s.about k).2 = (t.about k).2
  rw [same]

/-- The same after events that differ in identifiers at most. -/
theorem about_record {events events' : List Event} (same : s.about k = t.about k)
    (calls : (events.filterMap (Event.refresh? k)).map Outgoing.anonymous =
      (events'.filterMap (Event.refresh? k)).map Outgoing.anonymous)
    (notices : events.filterMap (Event.notice? k) = events'.filterMap (Event.notice? k)) :
    (s.record events).about k = (t.record events').about k := by
  simp only [State.about, Prod.mk.injEq] at same
  obtain ⟨stage, called, noticed⟩ := same
  simp only [State.about, State.record_renewals, State.record_history, List.filterMap_append,
    List.map_append, stage, called, noticed, calls, notices]

/-- A renewal takes the same step in two states if all that can be told of it is the same, and the
cookies are. -/
theorem Move.about_own (h : Move c s a s') (detached : c.detached = true)
    (own : a.renewal? = some k) (cookies : s.cookies = t.cookies)
    (same : s.about k = t.about k) : ∃ t', Move c t a t' ∧ s'.about k = t'.about k := by
  have driven := isDriven_of_detached detached t k
  have stage : t.renewals[k]? = s.renewals[k]? := (congrArg Prod.fst same).symm
  cases h with
  | unresolved here _ resolved =>
    cases own
    exact ⟨_, .unresolved (stage.trans here) driven resolved, about_setStage here same _⟩
  | @launched k url here _ resolved =>
    cases own
    have sent := Request.buildRenewal_anonymous c.config t.cookies url (c.draw s.drawn)
      (c.draw t.drawn)
    refine ⟨_, .launched (stage.trans here) driven resolved, ?_⟩
    refine about_record (about_setStage here same (.outstanding url)) ?_ ?_
    · simp [Event.refresh?, List.filterMap_cons, cookies, sent]
    · simp [Event.notice?, List.filterMap_cons]
  | answered here _ =>
    cases own
    exact ⟨_, .answered (stage.trans here) driven, about_setStage here same _⟩
  | @cleared k v here =>
    cases own
    exact ⟨_, .cleared (stage.trans here), about_setStage here same (.cleared v)⟩
  | @reported k v here =>
    cases own
    exact ⟨_, .reported (stage.trans here), about_record (about_setStage here same _) rfl rfl⟩
  | _ => cases own

/-- If a renewal takes a step in one of two such states, it does in the other. -/
theorem advance_about_own (detached : c.detached = true) (own : a.renewal? = some k)
    (cookies : s.cookies = t.cookies) (same : s.about k = t.about k) :
    (advance c s a).about k = (advance c t a).about k := by
  rcases advance_eq_or_move c s a with stays | moves
  · rcases advance_eq_or_move c t a with stays' | moves'
    · rw [stays, stays']
      exact same
    · obtain ⟨s', move, same'⟩ := moves'.about_own detached own cookies.symm same.symm
      rw [move.advance_eq]
      exact same'.symm
  · obtain ⟨t', move, same'⟩ := moves.about_own detached own cookies same
    rw [move.advance_eq]
    exact same'

/-- What two states have in common as far as one renewal is concerned that was started in both. -/
structure SameCourse (k : Nat) (s t : State) : Prop where
  cookies : s.cookies = t.cookies
  started : k < s.renewals.length
  started' : k < t.renewals.length
  about : s.about k = t.about k

/-- What callers do in one of the states makes no difference. -/
theorem SameCourse.advance_left (h : SameCourse k s t) (caller : a.isOfCaller = true) :
    SameCourse k (advance c s a) t := by
  refine advance_induction (motive := fun s => SameCourse k s t) h fun s' move => ?_
  have other : a.renewal? ≠ some k := by
    intro own
    cases a <;> cases own <;> cases caller
  have quiet (source : CookieSource) : a ≠ .setCookies source := by
    rintro rfl
    cases caller
  exact
    { cookies := (move.cookies_eq quiet).trans h.cookies
      started := Nat.lt_of_lt_of_le h.started move.length_renewals_le
      started' := h.started'
      about := (move.about_eq other h.started).trans h.about }

/-- If the cookies change in both states, or renewals get on, they still have it in common. -/
theorem SameCourse.advance (h : SameCourse k s t) (detached : c.detached = true)
    (shared : a.isOfCaller = false) :
    SameCourse k (advance c s a) (Session.advance c t a) := by
  have grows (s : State) : s.renewals.length ≤ (Session.advance c s a).renewals.length :=
    advance_induction (motive := fun s' => s.renewals.length ≤ s'.renewals.length) (Nat.le_refl _)
      fun s' move => move.length_renewals_le
  have started := Nat.lt_of_lt_of_le h.started (grows s)
  have started' := Nat.lt_of_lt_of_le h.started' (grows t)
  by_cases changes : ∃ source, a = .setCookies source
  · obtain ⟨source, rfl⟩ := changes
    exact ⟨rfl, started, started', h.about⟩
  have quiet (source : CookieSource) : a ≠ .setCookies source := fun same => changes ⟨source, same⟩
  have cookies (s : State) : (Session.advance c s a).cookies = s.cookies :=
    advance_induction (motive := fun s' => s'.cookies = s.cookies) rfl
      fun s' move => move.cookies_eq quiet
  refine ⟨by rw [cookies, cookies, h.cookies], started, started', ?_⟩
  by_cases own : a.renewal? = some k
  · exact advance_about_own detached own h.cookies h.about
  · have still (s : State) (started : k < s.renewals.length) :
        (Session.advance c s a).about k = s.about k :=
      advance_induction (motive := fun s' => s'.about k = s.about k) rfl
        fun s' move => move.about_eq own started
    rw [still s h.started, still t h.started', h.about]

/-- **A renewal that was started takes the same course whatever callers do**, and even if none of
them does anything any more. -/
theorem about_foldl (detached : c.detached = true) (started : k < s.renewals.length)
    (plan : List Action) :
    (plan.foldl (advance c) s).about k =
      ((plan.filter (!·.isOfCaller)).foldl (advance c) s).about k := by
  have follow (s t : State) (h : SameCourse k s t) : SameCourse k (plan.foldl (advance c) s)
      ((plan.filter (!·.isOfCaller)).foldl (advance c) t) := by
    induction plan generalizing s t with
    | nil => exact h
    | cons a rest ih =>
      rw [List.foldl_cons]
      cases caller : a.isOfCaller with
      | true =>
        rw [List.filter_cons_of_neg (by simp [caller])]
        exact ih _ _ (h.advance_left caller)
      | false =>
        rw [List.filter_cons_of_pos (by simp [caller])]
        exact ih _ _ (h.advance detached caller)
  exact (follow s s ⟨rfl, started, started, rfl⟩).about

/-! ### Renewals come to an end -/

/-- How many steps a renewal has behind it. -/
def Stage.rank : Stage → Nat
  | .installed => 0
  | .outstanding _ => 1
  | .answered _ => 2
  | .cleared _ => 3
  | .settled _ => 4

/-- How many steps a renewal has to have behind it to take a step. -/
def Action.rank : Action → Nat
  | .settle _ _ => 1
  | .clear _ => 2
  | .report _ => 3
  | _ => 0

attribute [local simp] Stage.rank Action.rank

/-- A renewal that has come far enough for a step has this step behind it when it was its turn. -/
theorem advance_rank {stage : Stage} (detached : c.detached = true)
    (here : s.renewals[k]? = some stage) (own : a.renewal? = some k)
    (ready : a.rank ≤ stage.rank) :
    ∃ next, (advance c s a).renewals[k]? = some next ∧ a.rank + 1 ≤ next.rank := by
  have driven := isDriven_of_detached detached s k
  -- either the step is the next one of the renewal, or the renewal has taken it before
  have moved {s' : State} {next : Stage} (move : Move c s a s')
      (there : s'.renewals = s.renewals.set k next) (past : a.rank + 1 ≤ next.rank) :
      ∃ next, (advance c s a).renewals[k]? = some next ∧ a.rank + 1 ≤ next.rank := by
    rw [move.advance_eq, there]
    exact ⟨next, List.getElem?_set_self (List.getElem?_eq_some_iff.mp here).1, past⟩
  have still (stuck : step c s a = none) (past : a.rank + 1 ≤ stage.rank) :
      ∃ next, (advance c s a).renewals[k]? = some next ∧ a.rank + 1 ≤ next.rank := by
    rw [advance, stuck]
    exact ⟨stage, here, past⟩
  cases a with
  | launch j =>
    cases own
    cases stage with
    | installed =>
      cases resolved : c.config.endpoint c.config.refreshPath with
      | error fault =>
        exact moved (.unresolved here driven resolved) rfl (by simp)
      | ok url =>
        exact moved (.launched here driven resolved) rfl (by simp)
    | _ => exact still (by simp [step, here]) (by simp)
  | settle j answer =>
    cases own
    cases stage with
    | installed => exact absurd ready (by simp)
    | outstanding url =>
      exact moved (.answered here driven) rfl (by simp)
    | _ => exact still (by simp [step, here]) (by simp)
  | clear j =>
    cases own
    cases stage with
    | installed => exact absurd ready (by simp)
    | outstanding url => exact absurd ready (by simp)
    | answered v => exact moved (.cleared here) rfl (by simp)
    | _ => exact still (by simp [step, here]) (by simp)
  | report j =>
    cases own
    cases stage with
    | cleared v => exact moved (.reported here) rfl (by simp)
    | settled v => exact still (by simp [step, here]) (by simp)
    | _ => exact absurd ready (by simp)
  | _ => cases own

/-- **A renewal that was started comes to an end** once it is sent, answered, out of the slot and
reported, whoever is there. -/
theorem exists_settled (detached : c.detached = true) (started : k < s.renewals.length)
    (answer : Answer) :
    ∃ v, ([.launch k, .settle k answer, .clear k, .report k].foldl (advance c) s).renewals[k]? =
      some (.settled v) := by
  obtain ⟨stage, here⟩ : ∃ stage, s.renewals[k]? = some stage :=
    ⟨_, List.getElem?_eq_getElem started⟩
  obtain ⟨sent, here, one⟩ := advance_rank (a := .launch k) detached here rfl (Nat.zero_le _)
  obtain ⟨answered, here, two⟩ := advance_rank (a := .settle k answer) detached here rfl one
  obtain ⟨cleared, here, three⟩ := advance_rank (a := .clear k) detached here rfl two
  obtain ⟨reported, here, four⟩ := advance_rank (a := .report k) detached here rfl three
  cases reported with
  | settled v => exact ⟨v, here⟩
  | _ => simp at four

end Brokerage.Session
