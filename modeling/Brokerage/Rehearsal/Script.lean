import Brokerage.Session.State

/-!
# Scripts

What a backend is to answer in a rehearsal: for each method and path a list of cues. Every attempt
takes the next cue of its list, and the last one is repeated.
-/

namespace Brokerage.Rehearsal

/-- What the backend does about one attempt. -/
structure Cue where
  status : Nat := 200
  /-- The body, unless it cannot be read. -/
  body : Option Bytes := some []
  /-- The milliseconds before anything comes back. -/
  delay : Nat := 0
  /-- Nothing comes back, because the time is up or for another reason. -/
  failure : Option Session.Answer := none
  /-- What happens to the cookies when the answer arrives. -/
  changes : List CookieSource.Change := []

/-- What an attempt is answered when the script says nothing about it. -/
def Cue.unknown : Cue where
  status := 404

/-- Cues by method and path. -/
abbrev Script := List (String × List Cue)

/-- The name under which a script keeps the cues for an attempt. -/
def route (request : Outgoing) : String :=
  request.method ++ " " ++ request.url.path.write

/-- The next cue for a route, and the script without it unless it is the last one. -/
def Script.next (script : Script) (name : String) : Cue × Script :=
  match script with
  | [] => (.unknown, [])
  | (n, cues) :: rest =>
    if n = name then
      match cues with
      | [] => (.unknown, script)
      | [cue] => (cue, script)
      | cue :: next :: more => (cue, (n, next :: more) :: rest)
    else
      match Script.next rest name with
      | (cue, rest) => (cue, (n, cues) :: rest)

/-- A span in whole milliseconds, rounded up. -/
def milliseconds (d : Duration) : Nat :=
  (d.nanoseconds + 999_999) / 1_000_000

/-- After how many milliseconds something comes back for an attempt, what it is, and what happens
to the cookies then. An attempt does not wait longer than it may. -/
def Cue.play (cue : Cue) (timeout : Duration) : Nat × Session.Answer × List CookieSource.Change :=
  if timeout.nanoseconds ≤ cue.delay * 1_000_000 then (milliseconds timeout, .failure true, [])
  else
    match cue.failure with
    | some answer => (cue.delay, answer, [])
    | none => (cue.delay, .response ⟨cue.status, cue.body⟩, cue.changes)

end Brokerage.Rehearsal
