import Brokerage.Proofs.Session.Move

/-!
# The course of a renewal

A run is a list of actions and a history of events, and both are about all callers and all renewals
at once. `Course.of k` takes out of them what is about renewal `k`: who put it into the slot, what
went to the backend for it, how that was answered, how often it emptied the slot, and what the
application heard of it.

`Course.Fits` says which courses belong to which stage: a renewal is sent once, answered once,
empties the slot once and is reported once, in this order, and what it comes to is settled by its
URL and the answer alone (`Origin`). Only the moves of a renewal itself change its stage and its
course, so `course_fits` follows move by move. It needs no assumption on who waits for the renewal
and on what drives it.
-/

namespace Brokerage.Session

variable {c : Client} {cookies : CookieSource} {s s' : State} {a : Action} {actions : List Action}
variable {k : Nat} {v : Verdict}

/-! ### What is about one renewal -/

/-- The caller that put a renewal into the slot, if an event says so. -/
def Event.starter? (k : Nat) : Event → Option Nat
  | .joined i j true => if j = k then some i else none
  | _ => none

/-- What goes to the backend for a renewal, if an event says so. -/
def Event.refresh? (k : Nat) : Event → Option Outgoing
  | .sent (.renewal j) o => if j = k then some o else none
  | _ => none

/-- What the application hears of a renewal, if an event says so. -/
def Event.notice? (k : Nat) : Event → Option (String × RenewalFailure)
  | .notified j path f => if j = k then some (path, f) else none
  | _ => none

/-- The answer to a renewal, if an action brings it. -/
def Action.settlement? (k : Nat) : Action → Option Answer
  | .settle j response => if j = k then some response else none
  | _ => none

/-- True of the action by which a renewal empties the slot. -/
def Action.isClear (k : Nat) : Action → Bool
  | .clear j => j == k
  | _ => false

/-- What happened to one renewal in a run. -/
structure Course where
  /-- Who put it into the slot. -/
  starters : List Nat
  /-- What went to the backend. -/
  calls : List Outgoing
  /-- What came back. -/
  answers : List Answer
  /-- How often it emptied the slot. -/
  clears : Nat
  /-- What the application heard: where to sign in, and why. -/
  notices : List (String × RenewalFailure)

/-- What the actions and the events of a run say about one renewal. -/
def Course.of (k : Nat) (actions : List Action) (history : List Event) : Course where
  starters := history.filterMap (Event.starter? k)
  calls := history.filterMap (Event.refresh? k)
  answers := actions.filterMap (Action.settlement? k)
  clears := actions.countP (Action.isClear k)
  notices := history.filterMap (Event.notice? k)

/-- A course to which some of an action and of events is added. -/
theorem Course.of_append (k : Nat) (actions : List Action) (history : List Event) (a : Action)
    (events : List Event) :
    Course.of k (actions ++ [a]) (history ++ events) =
      ⟨(Course.of k actions history).starters ++ events.filterMap (Event.starter? k),
       (Course.of k actions history).calls ++ events.filterMap (Event.refresh? k),
       (Course.of k actions history).answers ++ [a].filterMap (Action.settlement? k),
       (Course.of k actions history).clears + [a].countP (Action.isClear k),
       (Course.of k actions history).notices ++ events.filterMap (Event.notice? k)⟩ := by
  simp only [Course.of, List.filterMap_append, List.countP_append]

section Reading

variable {e : Event} {history : List Event}

theorem Event.starter?_eq_some_iff {i : Nat} :
    e.starter? k = some i ↔ e = .joined i k true := by
  unfold Event.starter?
  split <;> grind

theorem Event.refresh?_eq_some_iff {o : Outgoing} :
    e.refresh? k = some o ↔ e = .sent (.renewal k) o := by
  unfold Event.refresh?
  split <;> grind

theorem Event.notice?_eq_some_iff {path : String} {f : RenewalFailure} :
    e.notice? k = some (path, f) ↔ e = .notified k path f := by
  unfold Event.notice?
  split <;> grind

theorem Action.settlement?_eq_some_iff {answer : Answer} :
    a.settlement? k = some answer ↔ a = .settle k answer := by
  unfold Action.settlement?
  split <;> grind

theorem Action.isClear_iff : a.isClear k = true ↔ a = .clear k := by
  unfold Action.isClear
  split <;> grind

theorem Course.starters_ne_nil_iff :
    (Course.of k actions history).starters ≠ [] ↔ ∃ i, .joined i k true ∈ history := by
  have mem {i : Nat} :
      i ∈ (Course.of k actions history).starters ↔ .joined i k true ∈ history := by
    simp [Course.of, List.mem_filterMap, Event.starter?_eq_some_iff]
  constructor
  · intro filled
    obtain ⟨i, there⟩ := List.exists_mem_of_ne_nil _ filled
    exact ⟨i, mem.mp there⟩
  · rintro ⟨i, there⟩
    exact List.ne_nil_of_mem (mem.mpr there)

theorem Course.mem_calls_iff {o : Outgoing} :
    o ∈ (Course.of k actions history).calls ↔ .sent (.renewal k) o ∈ history := by
  simp [Course.of, List.mem_filterMap, Event.refresh?_eq_some_iff]

theorem Course.mem_answers_iff {answer : Answer} :
    answer ∈ (Course.of k actions history).answers ↔ .settle k answer ∈ actions := by
  simp [Course.of, List.mem_filterMap, Action.settlement?_eq_some_iff]

theorem Course.clears_eq_zero_iff :
    (Course.of k actions history).clears = 0 ↔ .clear k ∉ actions := by
  simp only [Course.of, List.countP_eq_zero, Action.isClear_iff]
  exact ⟨fun h there => h _ there rfl, fun h a there same => h (same ▸ there)⟩

end Reading

/-! ### Stages and what belongs to them -/

/-- Where what a renewal came to comes from: it had no URL, and nothing was sent, or the one thing
that was sent was answered. -/
inductive Origin (c : Client) : List Outgoing → List Answer → Verdict → Prop where
  | unresolved {fault : Url.Fault}
      (resolved : c.config.endpoint c.config.refreshPath = .error fault) :
      Origin c [] [] (.failed (.unreachable (Error.url fault).message))
  | answered {o : Outgoing} {answer : Answer}
      (resolved : c.config.endpoint c.config.refreshPath = .ok o.url) :
      Origin c [o] [answer] (verdict o.url answer)

/-- What the application has to hear of a renewal. -/
def dueNotices (c : Client) : Verdict → List (String × RenewalFailure)
  | .renewed => []
  | .failed f => [(c.config.loginPath, f)]

/-- The courses that belong to a stage. Before it is in the slot, a renewal has none. -/
inductive Course.Fits (c : Client) : Option Stage → Course → Prop where
  | absent : Fits c none ⟨[], [], [], 0, []⟩
  | installed {i : Nat} : Fits c (some .installed) ⟨[i], [], [], 0, []⟩
  | outstanding {i : Nat} {o : Outgoing}
      (resolved : c.config.endpoint c.config.refreshPath = .ok o.url) :
      Fits c (some (.outstanding o.url)) ⟨[i], [o], [], 0, []⟩
  | answered {i : Nat} {calls : List Outgoing} {answers : List Answer} {v : Verdict}
      (origin : Origin c calls answers v) :
      Fits c (some (.answered v)) ⟨[i], calls, answers, 0, []⟩
  | cleared {i : Nat} {calls : List Outgoing} {answers : List Answer} {v : Verdict}
      (origin : Origin c calls answers v) :
      Fits c (some (.cleared v)) ⟨[i], calls, answers, 1, []⟩
  | settled {i : Nat} {calls : List Outgoing} {answers : List Answer} {v : Verdict}
      (origin : Origin c calls answers v) :
      Fits c (some (.settled v)) ⟨[i], calls, answers, 1, dueNotices c v⟩

/-! ### Moves of a renewal -/

/-- The renewal that takes a step, if it is a step of a renewal. -/
def Action.renewal? : Action → Option Nat
  | .launch k => some k
  | .settle k _ => some k
  | .clear k => some k
  | .report k => some k
  | _ => none

section Moves

attribute [local simp] Event.starter? Event.refresh? Event.notice? Action.settlement? Action.isClear
  List.filterMap_cons

/-- A move of callers or of another renewal is not noticed by a renewal, unless it is the one by
which it comes into the slot. -/
theorem Move.course_elsewhere (h : Move c s a s') (actions : List Action)
    (other : a.renewal? ≠ some k)
    (old : s'.renewals.length = s.renewals.length ∨ k ≠ s.renewals.length) :
    s'.renewals[k]? = s.renewals[k]? ∧
      Course.of k (actions ++ [a]) s'.history = Course.of k actions s.history := by
  cases h with
  | concluded here final =>
    split <;> simp [Course.of]
  | started here empty =>
    have hk : k ≠ s.renewals.length := by simpa using old
    cases c.detached <;> simp [Course.of, Ne.symm hk, getElem?_concat_of_ne hk]
  | @reported j v here =>
    have hj : j ≠ k := by simpa [Action.renewal?] using other
    cases v <;> simp [Course.of, conclusion, hj]
  | _ => simp_all [Course.of, Action.renewal?]

/-- The renewal that a caller puts into the slot is sent, answered, cleared and reported later. -/
theorem Course.Fits.started {i : Nat}
    (ih : Course.Fits c none (Course.of s.renewals.length actions s.history)) :
    Course.Fits c (some .installed)
      (Course.of s.renewals.length (actions ++ [.join i])
        (s.history ++ (.joined i s.renewals.length true ::
          if c.detached then [] else [.logged drivenByWaiters]))) := by
  rw [Course.of_append]
  generalize Course.of s.renewals.length actions s.history = course at ih ⊢
  cases ih
  cases c.detached <;> simpa using Course.Fits.installed

/-- A step of a renewal takes it and its course to the next stage. -/
theorem Course.Fits.move (ih : Course.Fits c s.renewals[k]? (Course.of k actions s.history))
    (h : Move c s a s') (own : a.renewal? = some k) :
    Course.Fits c s'.renewals[k]? (Course.of k (actions ++ [a]) s'.history) := by
  have inside {stage : Stage} (here : s.renewals[k]? = some stage) (next : Stage) :
      (s.renewals.set k next)[k]? = some next :=
    List.getElem?_set_self (List.getElem?_eq_some_iff.mp here).1
  have quiet := Course.of_append k actions s.history a []
  rw [List.append_nil] at quiet
  cases h with
  | unresolved here driven resolved =>
    cases own
    rw [State.setStage_history, quiet, State.setStage_renewals, inside here]
    rw [here] at ih
    generalize Course.of k actions s.history = course at ih ⊢
    cases ih
    simpa using Course.Fits.answered (.unresolved resolved)
  | @launched j url here driven resolved =>
    cases own
    simp only [State.record_history, State.setStage_history, Course.of_append,
      State.record_renewals, State.setStage_renewals, inside here]
    rw [here] at ih
    generalize Course.of k actions s.history = course at ih ⊢
    cases ih with
    | @installed i =>
      have sent := Course.Fits.outstanding (c := c) (i := i)
        (o := Request.buildRenewal c.config s.cookies url (c.draw s.drawn)) resolved
      simpa [Request.buildRenewal] using sent
  | answered here driven =>
    cases own
    rw [State.setStage_history, quiet, State.setStage_renewals, inside here]
    rw [here] at ih
    generalize Course.of k actions s.history = course at ih ⊢
    cases ih with
    | outstanding resolved => simpa using Course.Fits.answered (.answered resolved)
  | cleared here =>
    cases own
    show Course.Fits c (s.renewals.set k _)[k]? (Course.of k (actions ++ [.clear k]) s.history)
    rw [quiet, inside here]
    rw [here] at ih
    generalize Course.of k actions s.history = course at ih ⊢
    cases ih with
    | answered origin => simpa using Course.Fits.cleared origin
  | @reported j v here =>
    cases own
    rw [State.record_history, State.setStage_history, Course.of_append, State.record_renewals,
      State.setStage_renewals, inside here]
    rw [here] at ih
    generalize Course.of k actions s.history = course at ih ⊢
    cases ih with
    | cleared origin =>
      cases v <;> simpa [conclusion, dueNotices] using Course.Fits.settled origin
  | _ => cases own

/-- **What happened to a renewal belongs to its stage**, in every state that a run leads to. -/
theorem course_fits (h : run c { cookies := cookies } actions = some s) (k : Nat) :
    Course.Fits c s.renewals[k]? (Course.of k actions s.history) := by
  refine run_induction (motive := fun actions s =>
    Course.Fits c s.renewals[k]? (Course.of k actions s.history)) .absent ?_ h
  intro actions s a s' hr ih hm
  -- a renewal gets on by its own steps, and begins with the one that puts it into the slot
  by_cases own : a.renewal? = some k
  · exact ih.move hm own
  by_cases old : s'.renewals.length = s.renewals.length ∨ k ≠ s.renewals.length
  · obtain ⟨stage, course⟩ := hm.course_elsewhere actions own old
    rw [stage, course]
    exact ih
  · push Not at old
    obtain ⟨grows, rfl⟩ := old
    cases hm with
    | started here empty =>
      rw [List.getElem?_eq_none (Nat.le_refl _)] at ih
      simpa using ih.started
    | _ => simp at grows

end Moves

/-- A renewal that has settled either had no URL, or it was answered, and came to what the answer
says. -/
theorem settled_cases (h : run c { cookies := cookies } actions = some s)
    (settled : s.renewals[k]? = some (.settled v)) :
    (∃ fault, c.config.endpoint c.config.refreshPath = .error fault ∧
      v = .failed (.unreachable (Error.url fault).message)) ∨
    ∃ url answer, c.config.endpoint c.config.refreshPath = .ok url ∧
      .settle k answer ∈ actions ∧ v = verdict url answer := by
  have fits := course_fits h k
  have brought (answer : Answer) (there : answer ∈ (Course.of k actions s.history).answers) :
      .settle k answer ∈ actions :=
    Course.mem_answers_iff.mp there
  rw [settled] at fits
  generalize Course.of k actions s.history = course at fits brought
  cases fits with
  | settled origin =>
    cases origin with
    | unresolved resolved => exact .inl ⟨_, resolved, rfl⟩
    | @answered o answer resolved =>
      exact .inr ⟨o.url, answer, resolved, brought answer (List.mem_singleton_self answer), rfl⟩

/-- A renewal that has settled stays settled, and what it came to stays the same. -/
theorem Move.settled_persists (h : Move c s a s') (settled : s.renewals[k]? = some (.settled v)) :
    s'.renewals[k]? = some (.settled v) := by
  by_cases own : a.renewal? = some k
  · -- every step of a renewal starts from a stage before the last one
    cases h <;> cases own <;> simp_all
  · have inside : k < s.renewals.length := (List.getElem?_eq_some_iff.mp settled).1
    rw [(h.course_elsewhere [] own (.inr (Nat.ne_of_lt inside))).1]
    exact settled

end Brokerage.Session
