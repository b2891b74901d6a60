/-!
# Log events

What the library reports about its work. An event has a fixed message and fields with what varies.
-/

namespace Brokerage.Log

/-- How much an event matters. -/
inductive Level where
  | debug
  | info
  | warn
  deriving DecidableEq, Repr

/-- A report. -/
structure Event where
  level : Level
  message : String
  /-- Names and values. -/
  fields : List (String × String) := []
  deriving DecidableEq, Repr

/-- What a level is called. -/
def Level.name : Level → String
  | .debug => "DEBUG"
  | .info => "INFO"
  | .warn => "WARN"

end Brokerage.Log
