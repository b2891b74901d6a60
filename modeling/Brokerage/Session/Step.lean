import Brokerage.Session.State

/-!
# Steps of a session

What may happen next in a session. Callers come, send, learn that their session is over, go to the
slot, wait and go on, or go away; a renewal is sent, answered, taken out of the slot and reported.
Steps of different callers and of the renewals may follow each other in any order.

A request whose first answer says that the session is over waits for one renewal and is then sent
once more. The slot holds the renewal that whoever comes next has to wait for.
-/

namespace Brokerage.Session

/-- What happens next. -/
inductive Action where
  /-- Somebody comes with a wish. -/
  | come (wish : Wish)
  /-- A caller's attempt is answered. -/
  | answer (caller : Nat) (answer : Answer)
  /-- A caller whose session is over goes to the slot. -/
  | join (caller : Nat)
  /-- A renewal is sent. -/
  | launch (renewal : Nat)
  /-- A renewal is answered. -/
  | settle (renewal : Nat) (answer : Answer)
  /-- A renewal empties the slot. -/
  | clear (renewal : Nat)
  /-- A renewal reports what it came to. -/
  | report (renewal : Nat)
  /-- A caller whose renewal has settled goes on. -/
  | resume (caller : Nat)
  /-- A caller goes away. -/
  | drop (caller : Nat)
  /-- The cookies change. -/
  | setCookies (cookies : CookieSource)

/-! ### Reports -/

/-- The report of an attempt. -/
def dispatched (r : Request) (id : RequestId) (attempt : Attempt) : Log.Event :=
  ⟨.debug, "Dispatching API request",
    [("method", r.method), ("path", r.path), ("request_id", id.write), ("attempt", attempt.name)]⟩

/-- The report of a request that is refused although the session was renewed. -/
def rejectedAgain (r : Request) : Log.Event :=
  ⟨.warn, "Request rejected again after session renewal", [("method", r.method), ("path", r.path)]⟩

/-- The report of a caller that found a renewal in the slot. -/
def joinedInFlight : Log.Event := ⟨.debug, "Joining session renewal already in flight", []⟩

/-- The report of a renewal that only goes on as long as somebody waits for it. -/
def drivenByWaiters : Log.Event :=
  ⟨.debug, "No tokio runtime, renewal is driven by its waiters", []⟩

/-- The report of a renewal that is sent. -/
def renewing (id : RequestId) : Log.Event :=
  ⟨.info, "Renewing session", [("request_id", id.write)]⟩

/-- The report of what a renewal came to. -/
def concluded : Verdict → Log.Event
  | .renewed => ⟨.info, "Session renewed", []⟩
  | .failed failure => ⟨.warn, "Session renewal failed", [("failure", failure.message)]⟩

/-- The report of a session that is over for good, for applications that only want to log it. -/
def signInRequired (loginPath : String) (failure : RenewalFailure) : Log.Event :=
  ⟨.warn, "Session expired, sign-in required",
    [("login_path", loginPath), ("failure", failure.message)]⟩

/-! ### Callers -/

/-- Sends an attempt at a request of the caller at `index`, or ends its request if the attempt
cannot be put together. -/
def dispatch (c : Client) (s : State) (index : Nat) (r : Request) (attempt : Attempt) : State :=
  let id := c.draw s.drawn
  let s := { s with drawn := s.drawn + 1 }
  match r.build c.config s.cookies id with
  | .error e => s.setPhase index (.done (.error e))
  | .ok outgoing =>
    (s.setPhase index (.sent attempt outgoing.url)).record
      [.logged (dispatched r id attempt), .sent (.caller index attempt) outgoing]

/-- The result of a request whose last answer is known. -/
def conclude (r : Request) (response : Response) : Except Error Reply :=
  if response.isSuccess then .ok (.response response)
  else .error (.status r.method r.path response.status response.text)

/-- Takes in the answer to an attempt at a request. -/
def receive (s : State) (index : Nat) (r : Request) (attempt : Attempt) (url : Url) :
    Answer → State
  | .failure timedOut =>
    s.setPhase index (.done (.error (.transfer (.send url.write timedOut))))
  | .response response =>
    if response.isUnauthorized && r.renews && attempt.mayRenew then s.setPhase index .expired
    else
      (s.setPhase index (.done (conclude r response))).record
        (if response.isUnauthorized && attempt == .retry then [.logged (rejectedAgain r)] else [])

/-- Goes to the slot: waits for the renewal in it, or puts a new one there. -/
def enter (c : Client) (s : State) (index : Nat) : State :=
  match s.slot with
  | some k =>
    (s.setPhase index (.waiting k)).record [.joined index k false, .logged joinedInFlight]
  | none =>
    let k := s.renewals.length
    ({ s with slot := some k, renewals := s.renewals ++ [Stage.installed] }.setPhase index
      (.waiting k)).record
      (.joined index k true :: if c.detached then [] else [.logged drivenByWaiters])

/-- Goes on after a renewal. -/
def proceed (c : Client) (s : State) (index : Nat) (wish : Wish) : Verdict → State
  | .failed failure => s.setPhase index (.done (.error (.sessionExpired failure)))
  | .renewed =>
    match wish with
    | .send r => dispatch c s index r .retry
    | .renew => s.setPhase index (.done (.ok .renewed))

/-! ### Renewals -/

/-- Sends a renewal, unless there is no URL to send it to. -/
def launch (c : Client) (s : State) (k : Nat) : State :=
  match c.config.endpoint c.config.refreshPath with
  | .error fault =>
    s.setStage k (.answered (.failed (.unreachable (Error.url fault).message)))
  | .ok url =>
    let id := c.draw s.drawn
    let outgoing := Request.buildRenewal c.config s.cookies url id
    ({ s with drawn := s.drawn + 1 }.setStage k (.outstanding url)).record
      [.logged (renewing id), .sent (.renewal k) outgoing]

/-- What a renewal comes to by the answer to it. -/
def verdict (url : Url) : Answer → Verdict
  | .failure timedOut => .failed (.unreachable (TransferFault.send url.write timedOut).message)
  | .response response =>
    if response.isSuccess then .renewed
    else .failed (.rejected response.status response.text)

/-- What is seen of the end of a renewal. -/
def conclusion (c : Client) (k : Nat) : Verdict → List Event
  | .renewed => [.logged (concluded .renewed)]
  | .failed failure =>
    [.logged (concluded (.failed failure)), .notified k c.config.loginPath failure]

/-- True if a renewal goes on: by itself, or because somebody waits for it. -/
def isDriven (c : Client) (s : State) (k : Nat) : Bool :=
  c.detached || s.isAwaited k

/-! ### Steps -/

/-- The state after something has happened, if it can happen. -/
def step (c : Client) (s : State) : Action → Option State
  | .come wish =>
    let index := s.callers.length
    let s := { s with callers := s.callers ++ [⟨wish, .expired⟩] }
    match wish with
    | .send r => some (dispatch c s index r .initial)
    | .renew => some s
  | .answer index answer =>
    match s.callers[index]? with
    | some ⟨.send r, .sent attempt url⟩ => some (receive s index r attempt url answer)
    | _ => none
  | .join index =>
    match s.callers[index]? with
    | some ⟨_, .expired⟩ => some (enter c s index)
    | _ => none
  | .launch k =>
    match s.renewals[k]? with
    | some .installed => if isDriven c s k then some (launch c s k) else none
    | _ => none
  | .settle k answer =>
    match s.renewals[k]? with
    | some (.outstanding url) =>
      if isDriven c s k then some (s.setStage k (.answered (verdict url answer))) else none
    | _ => none
  | .clear k =>
    match s.renewals[k]? with
    | some (.answered v) => some { s.setStage k (.cleared v) with slot := none }
    | _ => none
  | .report k =>
    match s.renewals[k]? with
    | some (.cleared v) => some ((s.setStage k (.settled v)).record (conclusion c k v))
    | _ => none
  | .resume index =>
    match s.callers[index]? with
    | some ⟨wish, .waiting k⟩ =>
      match s.renewals[k]? with
      | some (.settled v) => some (proceed c s index wish v)
      | _ => none
    | _ => none
  | .drop index =>
    match s.callers[index]? with
    | some ⟨_, .done _⟩ => none
    | some ⟨_, .dropped⟩ => none
    | some _ => some (s.setPhase index .dropped)
    | none => none
  | .setCookies cookies => some { s with cookies := cookies }

/-- The state after several things have happened, one after the other. -/
def run (c : Client) (s : State) : List Action → Option State
  | [] => some s
  | action :: rest => (step c s action).bind (run c · rest)

end Brokerage.Session
