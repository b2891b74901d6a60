import Brokerage.Session.Step

/-!
# Calls

A call of the interface: the wish that it brings to the session, what it makes of the reply, and
what it reports when it succeeds.
-/

namespace Brokerage

/-- A call with a result of type `α`. -/
structure Call (α : Type) where
  wish : Session.Wish
  /-- What a reply means, and what is reported of it. -/
  read : Session.Reply → Except Error (α × List Log.Event)

namespace Call

variable {α β : Type}

/-- What the end of a caller means, and what is reported of it. -/
def finish (c : Call α) : Except Error Session.Reply → Except Error α × List Log.Event
  | .error e => (.error e, [])
  | .ok reply =>
    match c.read reply with
    | .ok (a, events) => (.ok a, events)
    | .error e => (.error e, [])

/-- The call with its result under a function. -/
def map (f : α → β) (c : Call α) : Call β where
  wish := c.wish
  read reply := (c.read reply).map fun (a, events) => (f a, events)

/-- The call with a report of its result. -/
def reporting (c : Call α) (report : α → Log.Event) : Call α where
  wish := c.wish
  read reply := (c.read reply).map fun (a, events) => (a, events ++ [report a])

/-- A call for the answer as it is. -/
def send (r : Request) : Call Response where
  wish := .send r
  read
    | .response response => .ok (response, [])
    | .renewed => .error (.transfer .body)

/-- A call for the body of the answer as JSON. A body that cannot be read is at fault like one of
another shape. -/
def sendJson (r : Request) (read : Json.Reader α) : Call α where
  wish := .send r
  read
    | .response ⟨_, some body⟩ =>
      match Json.readAll read body with
      | .ok a => .ok (a, [])
      | .error _ => .error (.transfer .body)
    | _ => .error (.transfer .body)

/-- A call that is content with success. -/
def sendEmpty (r : Request) : Call Unit where
  wish := .send r
  read _ := .ok ((), [])

/-- A call that renews the session, or waits for the renewal in flight. -/
def renewSession : Call Unit where
  wish := .renew
  read _ := .ok ((), [])

/-- A request for the JSON below a path. -/
def get (path : String) : Request where
  method := "GET"
  path := path

/-- A request that brings something to a path. -/
def post (path : String) : Request where
  method := "POST"
  path := path

/-- A request that changes what is at a path. -/
def patch (path : String) : Request where
  method := "PATCH"
  path := path

end Call

end Brokerage
