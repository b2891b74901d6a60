import Brokerage.Api.Call
import Brokerage.Rehearsal.Script

/-!
# Rehearsals

A session with a scripted backend and a clock that only moves when there is nothing left to do.
What is due is kept in an agenda. At each moment renewals are answered before anything else, and
what is due follows in the order in which it was put down; what becomes due at the same moment
because of that comes after all of it.
-/

namespace Brokerage.Rehearsal

open Session

/-- What an application does when it hears that the user has to sign in again. -/
inductive Listener where
  /-- It notes it down. -/
  | record
  /-- It counts. -/
  | count
  /-- It logs it. -/
  | log
  deriving DecidableEq, Repr

/-- What somebody does in a scene. -/
inductive Turn (α : Type) where
  /-- A call is made. -/
  | call (call : Call α)
  /-- It is looked up whether a renewal is in flight. -/
  | look (shown : Bool → α)
  /-- Time passes. -/
  | pause (time : Nat) (value : α)

/-- A turn with the time, from the start of its scene, at which it comes, and the time at which it
is broken off. -/
structure Plan (α : Type) where
  turn : Turn α
  start : Nat := 0
  abort : Option Nat := none

/-- How a turn ends, and when. -/
inductive Ending (α : Type) where
  | result (result : Except Error α) (time : Nat)
  | aborted

/-- A turn in a scene. -/
structure Part (α : Type) where
  turn : Turn α
  /-- The caller that makes the call, once it is made. -/
  caller : Option Nat := none
  ending : Option (Ending α) := none

/-- What may be due. -/
inductive Due where
  | start (part : Nat)
  | abort (part : Nat)
  /-- The end of a pause. -/
  | wake (part : Nat)
  /-- A look at whether a renewal is in flight. -/
  | probe (mark : Nat)
  | answer (sender : Sender) (answer : Answer) (changes : List CookieSource.Change)

/-- An entry of the agenda. -/
structure Entry where
  time : Nat
  due : Due

/-- A notification as the application hears it. -/
structure Expiry where
  time : Nat
  loginPath : String
  failure : RenewalFailure

/-- The state of a rehearsal. Times are in milliseconds. -/
structure World (α : Type) where
  client : Client
  listener : Listener
  session : State
  script : Script
  clock : Nat := 0
  agenda : List Entry := []
  parts : List (Part α) := []
  probes : List (Nat × Bool) := []
  /-- What went to the backend, and when. -/
  calls : List (Nat × Outgoing) := []
  expiries : List Expiry := []
  logs : List Log.Event := []

namespace World

variable {α : Type}

/-! ### Steps of the session -/

/-- Takes in something that could be seen of the session. What goes to the backend is answered by
the script. -/
def notice (w : World α) : Event → World α
  | .sent sender request =>
    match w.script.next (route request) with
    | (cue, script) =>
      match cue.play request.timeout with
      | (delay, answer, changes) =>
        { w with
          script := script
          calls := w.calls ++ [(w.clock, request)]
          agenda := w.agenda ++ [⟨w.clock + delay, .answer sender answer changes⟩] }
  | .joined _ _ _ => w
  | .notified _ loginPath failure =>
    { w with
      expiries := w.expiries ++ [⟨w.clock, loginPath, failure⟩]
      logs := w.logs ++ if w.listener = .log then [signInRequired loginPath failure] else [] }
  | .logged event => { w with logs := w.logs ++ [event] }

/-- Ends a part whose caller is done. -/
def endPart (w : World α) (p : Part α) : Part α × List Log.Event :=
  match p.turn, p.ending, p.caller.bind (w.session.callers[·]?) with
  | .call call, none, some ⟨_, .done result⟩ =>
    match call.finish result with
    | (result, events) => ({ p with ending := some (.result result w.clock) }, events)
  | _, _, _ => (p, [])

/-- Ends the parts whose callers are done. -/
def endParts (w : World α) : World α :=
  let ended := w.parts.map w.endPart
  { w with parts := ended.map Prod.fst, logs := w.logs ++ ended.flatMap Prod.snd }

/-- Lets something happen in the session, if it can happen. -/
def act (w : World α) (action : Action) : World α :=
  match step w.client w.session action with
  | none => w
  | some session =>
    let seen := session.history.drop w.session.history.length
    (seen.foldl notice { w with session := session }).endParts

/-! ### What happens by itself -/

/-- The first renewal at a stage. -/
def firstAt (s : State) (p : Stage → Bool) : Option Nat :=
  s.renewals.findIdx? p

/-- The callers that wait for a renewal that has settled, in the order in which they came to the
slot. -/
def released (s : State) : List Nat :=
  s.history.filterMap fun event =>
    match event with
    | .joined caller k _ =>
      match s.callers[caller]?, s.renewals[k]? with
      | some ⟨_, .waiting j⟩, some (.settled _) => if j = k then some caller else none
      | _, _ => none
    | _ => none

/-- What happens next without anything being due: a renewal takes its course, a caller whose session
is over goes to the slot, a renewal is sent, and a caller whose renewal has settled goes on. -/
def next? (s : State) : Option Action :=
  (firstAt s (fun stage => stage matches .answered _)).map .clear <|>
  (firstAt s (fun stage => stage matches .cleared _)).map .report <|>
  (s.callers.findIdx? (fun caller => caller.phase matches .expired)).map .join <|>
  (firstAt s (fun stage => stage matches .installed)).map .launch <|>
  (released s).head?.map .resume

/-- Lets everything happen that happens by itself, in at most so many steps. -/
def calm : Nat → World α → World α
  | 0, w => w
  | n + 1, w =>
    match next? w.session with
    | none => w
    | some action => calm n (w.act action)

/-- Lets everything happen that happens by itself. No caller takes more than four such steps, and no
renewal more than three. -/
def settleDown (w : World α) : World α :=
  calm (4 * w.session.callers.length + 3 * (w.session.renewals.length + w.session.callers.length)) w

/-! ### What is due -/

/-- The world without what is due for a caller. -/
def forget (w : World α) (caller : Nat) : World α :=
  { w with
    agenda := w.agenda.filter fun entry =>
      match entry.due with
      | .answer (.caller i _) _ _ => i != caller
      | _ => true }

/-- Ends a part with a value. -/
def finish (w : World α) (i : Nat) (p : Part α) (a : α) : World α :=
  { w with parts := w.parts.set i { p with ending := some (.result (.ok a) w.clock) } }

/-- Begins the turn of a part. -/
def start (w : World α) (i : Nat) : World α :=
  match w.parts[i]? with
  | some p =>
    if p.ending.isSome then w
    else
      match p.turn with
      | .call call =>
        ({ w with parts := w.parts.set i { p with caller := some w.session.callers.length } }.act
          (.come call.wish)).settleDown
      | .look shown => w.finish i p (shown w.session.inFlight)
      | .pause time _ => { w with agenda := w.agenda ++ [⟨w.clock + time, .wake i⟩] }
  | none => w

/-- Ends the pause of a part, unless it has been broken off. -/
def wake (w : World α) (i : Nat) : World α :=
  match w.parts[i]? with
  | some ⟨.pause time value, caller, none⟩ => w.finish i ⟨.pause time value, caller, none⟩ value
  | _ => w

/-- Breaks a part off, and lets its caller go away, unless the part has ended. -/
def abort (w : World α) (i : Nat) : World α :=
  match w.parts[i]? with
  | some p =>
    if p.ending.isSome then w
    else
      let w := { w with parts := w.parts.set i { p with ending := some .aborted } }
      match p.caller with
      | some caller => ((w.forget caller).act (.drop caller)).settleDown
      | none => w
  | none => w

/-- True if an answer finds who it is for. -/
def isExpected (s : State) : Sender → Bool
  | .caller i _ => (s.callers[i]?.map (·.phase matches .sent _ _)).getD false
  | .renewal k => (s.renewals[k]?.map (· matches .outstanding _)).getD false

/-- Hands an answer to who it is for, after the cookies have changed. -/
def deliver (w : World α) (sender : Sender) (answer : Answer)
    (changes : List CookieSource.Change) : World α :=
  if isExpected w.session sender then
    let w := w.act (.setCookies (changes.foldl CookieSource.apply w.session.cookies))
    match sender with
    | .caller i _ => (w.act (.answer i answer)).settleDown
    | .renewal k => (w.act (.settle k answer)).settleDown
  else w

/-- Does what is due. -/
def perform (w : World α) (entry : Entry) : World α :=
  match entry.due with
  | .start i => w.start i
  | .abort i => w.abort i
  | .wake i => w.wake i
  | .probe mark => { w with probes := w.probes ++ [(mark, w.session.inFlight)] }
  | .answer sender answer changes => w.deliver sender answer changes

/-- True of the answer to a renewal. -/
def isForRenewal (entry : Entry) : Bool :=
  entry.due matches .answer (.renewal _) _ _

/-- Does everything that the agenda has for a moment, the answers to renewals first. -/
def performAt (w : World α) (time : Nat) : World α :=
  let now := w.agenda.filter (·.time == time)
  let w := { w with clock := time, agenda := w.agenda.filter (·.time != time) }
  (now.filter isForRenewal ++ now.filter (!isForRenewal ·)).foldl perform w

/-- The moment at which something is due next. -/
def nextTime? (w : World α) : Option Nat :=
  (w.agenda.map (·.time)).min?

/-! ### Scenes -/

/-- True if nothing of a scene is left: its turns have ended, and `probes` looks were taken. -/
def isOver (w : World α) (probes : Nat) : Bool :=
  w.parts.all (·.ending.isSome) && w.probes.length == probes

/-- Goes from moment to moment until a scene is over, past at most `n` of them. -/
def playOut (probes : Nat) : Nat → World α → World α
  | 0, w => w
  | n + 1, w =>
    if w.isOver probes then w
    else
      match w.nextTime? with
      | none => w
      | some time => playOut probes n (w.performAt time)

/-- Goes from moment to moment up to a time, past at most `n` of them. -/
def passUntil (time : Nat) : Nat → World α → World α
  | 0, w => { w with clock := time }
  | n + 1, w =>
    match w.nextTime? with
    | none => { w with clock := time }
    | some next =>
      if next ≤ time then passUntil time n (w.performAt next) else { w with clock := time }

/-- What a scene puts into the agenda: its turns, those that are broken off, and the looks. -/
def entries (clock : Nat) (plans : List (Plan α)) (probes : List Nat) : List Entry :=
  plans.zipIdx.map (fun (plan, i) => ⟨clock + plan.start, .start i⟩) ++
  plans.zipIdx.filterMap (fun (plan, i) => plan.abort.map fun t => ⟨clock + t, .abort i⟩) ++
  probes.map (fun mark => ⟨clock + mark, .probe mark⟩)

/-- The world after a scene. Nothing of the scene is due any more, only answers that are on their
way. -/
def leave (w : World α) : World α :=
  { w with agenda := w.agenda.filter fun entry => entry.due matches .answer _ _ _ }

/-- Plays a scene of turns and looks to its end. A call has two attempts and one renewal at most,
which bounds the moments that a scene goes past. -/
def play (w : World α) (plans : List (Plan α)) (probes : List Nat) : World α :=
  let agenda := w.agenda ++ entries w.clock plans probes
  (playOut probes.length (agenda.length + 3 * plans.length + 1)
    { w with
      agenda := agenda
      parts := plans.map fun plan => { turn := plan.turn }
      probes := [] }).leave

/-- Lets time pass. -/
def wait (w : World α) (time : Nat) : World α :=
  passUntil (w.clock + time) (w.agenda.length + 1) w

/-- The world after the application has changed the cookies. -/
def change (w : World α) (change : CookieSource.Change) : World α :=
  w.act (.setCookies (w.session.cookies.apply change))

/-- The world with a clean sheet for what is seen of the next scene. -/
def turnPage (w : World α) : World α :=
  { w with calls := [], expiries := [], parts := [], probes := [] }

end World

end Brokerage.Rehearsal
