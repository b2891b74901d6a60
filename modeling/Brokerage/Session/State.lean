import Brokerage.Log
import Brokerage.Session.Request

/-!
# States of a session

What one client and all its copies share at a moment: the cookies, the renewals of the session
that were started, the slot that holds the one in flight, and how far each caller has come.
-/

namespace Brokerage

/-- A client that was set up. -/
structure Client where
  config : Config
  /-- The identifiers of attempts, in the order in which they are drawn. -/
  draw : Nat → RequestId
  /-- Renewals go on by themselves. Otherwise they go on as long as somebody waits for them. -/
  detached : Bool

namespace Session

/-- What comes back from the backend for an attempt. -/
inductive Answer where
  | response (response : Response)
  /-- Nothing came back, because the time was up or for another reason. -/
  | failure (timedOut : Bool)
  deriving DecidableEq, Repr

/-- What a renewal comes to. -/
inductive Verdict where
  | renewed
  | failed (failure : RenewalFailure)
  deriving DecidableEq, Repr

/-- How far a renewal has come. -/
inductive Stage where
  /-- It is in the slot, and nothing was sent. -/
  | installed
  /-- Its request is with the backend. -/
  | outstanding (url : Url)
  /-- What it comes to is known. -/
  | answered (verdict : Verdict)
  /-- It has emptied the slot. -/
  | cleared (verdict : Verdict)
  /-- It has reported what it came to, and those who wait for it may go on. -/
  | settled (verdict : Verdict)
  deriving DecidableEq, Repr

/-- What a caller wants. -/
inductive Wish where
  /-- A request is to be answered. -/
  | send (request : Request)
  /-- The session is to be renewed. -/
  | renew
  deriving DecidableEq, Repr

/-- What a caller gets. -/
inductive Reply where
  | response (response : Response)
  | renewed
  deriving DecidableEq, Repr

/-- How far a caller has come. -/
inductive Phase where
  /-- An attempt is with the backend. -/
  | sent (attempt : Attempt) (url : Url)
  /-- The session is over, and the caller goes to the slot next. -/
  | expired
  /-- The caller waits for a renewal. -/
  | waiting (renewal : Nat)
  | done (result : Except Error Reply)
  /-- The caller has gone away. -/
  | dropped

/-- True of a caller that waits for a renewal. -/
def Phase.awaits : Phase → Nat → Bool
  | waiting j, k => j == k
  | _, _ => false

/-- A caller. -/
structure Caller where
  wish : Wish
  phase : Phase

/-- Who sends something to the backend. -/
inductive Sender where
  | caller (index : Nat) (attempt : Attempt)
  | renewal (index : Nat)
  deriving DecidableEq, Repr

/-- What can be seen of a session from outside. -/
inductive Event where
  /-- Something goes to the backend. -/
  | sent (sender : Sender) (request : Outgoing)
  /-- A caller goes to the slot and waits for a renewal, which it may have started. -/
  | joined (caller renewal : Nat) (started : Bool)
  /-- The application hears that a renewal failed and that the user has to sign in again. -/
  | notified (renewal : Nat) (loginPath : String) (failure : RenewalFailure)
  | logged (event : Log.Event)
  deriving DecidableEq

/-- The state of a session. -/
structure State where
  cookies : CookieSource
  /-- The renewal in flight. -/
  slot : Option Nat := none
  /-- The stages of the renewals in the order in which they were started. -/
  renewals : List Stage := []
  /-- The callers in the order in which they came. -/
  callers : List Caller := []
  /-- How many identifiers have been drawn. -/
  drawn : Nat := 0
  /-- What could be seen so far. -/
  history : List Event := []

namespace State

/-- True while a session is being renewed. -/
def inFlight (s : State) : Bool := s.slot.isSome

/-- True if a caller waits for a renewal. -/
def isAwaited (s : State) (renewal : Nat) : Bool :=
  s.callers.any (·.phase.awaits renewal)

/-- The state with a caller in another phase. -/
def setPhase (s : State) (index : Nat) (phase : Phase) : State :=
  { s with callers := s.callers.modify index fun caller => { caller with phase := phase } }

/-- The state with a renewal at another stage. -/
def setStage (s : State) (index : Nat) (stage : Stage) : State :=
  { s with renewals := s.renewals.set index stage }

/-- The state in which more could be seen. -/
def record (s : State) (events : List Event) : State :=
  { s with history := s.history ++ events }

/-! ### What an update changes and what it leaves alone -/

section Updates

variable (s : State) (index : Nat) (phase : Phase) (stage : Stage) (events : List Event)

@[simp] theorem setPhase_cookies : (s.setPhase index phase).cookies = s.cookies := rfl

@[simp] theorem setPhase_slot : (s.setPhase index phase).slot = s.slot := rfl

@[simp] theorem setPhase_renewals : (s.setPhase index phase).renewals = s.renewals := rfl

@[simp] theorem setPhase_drawn : (s.setPhase index phase).drawn = s.drawn := rfl

@[simp] theorem setPhase_history : (s.setPhase index phase).history = s.history := rfl

@[simp] theorem length_callers_setPhase :
    (s.setPhase index phase).callers.length = s.callers.length :=
  List.length_modify ..

/-- Only the phase of the caller is another one. -/
@[simp] theorem getElem?_callers_setPhase :
    (s.setPhase index phase).callers[index]? =
      s.callers[index]?.map fun caller => { caller with phase := phase } :=
  List.getElem?_modify_eq ..

/-- Setting a phase is not noticed by another caller. -/
theorem getElem?_callers_setPhase_ne {other : Nat} (h : index ≠ other) :
    (s.setPhase index phase).callers[other]? = s.callers[other]? :=
  List.getElem?_modify_ne _ _ h

@[simp] theorem setStage_cookies : (s.setStage index stage).cookies = s.cookies := rfl

@[simp] theorem setStage_slot : (s.setStage index stage).slot = s.slot := rfl

@[simp] theorem setStage_callers : (s.setStage index stage).callers = s.callers := rfl

@[simp] theorem setStage_drawn : (s.setStage index stage).drawn = s.drawn := rfl

@[simp] theorem setStage_history : (s.setStage index stage).history = s.history := rfl

@[simp] theorem setStage_renewals :
    (s.setStage index stage).renewals = s.renewals.set index stage := rfl

@[simp] theorem record_cookies : (s.record events).cookies = s.cookies := rfl

@[simp] theorem record_slot : (s.record events).slot = s.slot := rfl

@[simp] theorem record_renewals : (s.record events).renewals = s.renewals := rfl

@[simp] theorem record_callers : (s.record events).callers = s.callers := rfl

@[simp] theorem record_drawn : (s.record events).drawn = s.drawn := rfl

@[simp] theorem record_history : (s.record events).history = s.history ++ events := rfl

end Updates

end State

end Session

end Brokerage
