import Brokerage.Session.State

/-!
# Setting up a client

A client is set up with a configuration whose timeouts fit together. An application that brings a
transport of its own has to say where the cookies are read from.
-/

namespace Brokerage

/-- What an application brings to a client. -/
structure Setup where
  config : Config
  /-- A transport of its own. -/
  transport : Bool := false
  /-- A source of cookies. -/
  cookies : Bool := false
  /-- A cookie jar, which is a source of cookies too. -/
  jar : Bool := false

namespace Setup

/-- Why a client cannot be set up; the timeouts are looked at first. -/
def fault? (s : Setup) : Option ConfigFault :=
  match s.config.timeouts.fault? with
  | some fault => some (.timeouts fault)
  | none => if s.transport && !s.cookies && !s.jar then some .noCookies else none

/-- The client, unless it cannot be set up. -/
def client (s : Setup) (draw : Nat → RequestId) (detached : Bool) : Except ConfigFault Client :=
  match s.fault? with
  | some fault => .error fault
  | none => .ok ⟨s.config, draw, detached⟩

end Setup

end Brokerage
