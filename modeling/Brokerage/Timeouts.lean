import Brokerage.Duration

/-!
# Timeouts

How long the client waits for an answer: one ceiling for each category of requests, and one for
the renewal of a session. A request may have to wait for a renewal, so a renewal has to give up
first.
-/

namespace Brokerage

/-- What kind of work a request asks for. -/
inductive Category where
  /-- Ordinary calls of the dashboard. -/
  | interactive
  /-- Descriptions written by a model. -/
  | generation
  /-- Starting a job in the background. -/
  | queue
  /-- Files and photos. -/
  | upload
  deriving DecidableEq, Repr

namespace Category

/-- The categories in the order in which they are checked. -/
def all : List Category := [.interactive, .generation, .queue, .upload]

/-- What a category is called. -/
def name : Category → String
  | .interactive => "interactive"
  | .generation => "generation"
  | .queue => "queue"
  | .upload => "upload"

/-- The category with this name. -/
def ofName? (s : String) : Option Category :=
  all.find? (·.name == s)

end Category

/-- The ceilings of a client. -/
structure Timeouts where
  interactive : Duration
  generation : Duration
  queue : Duration
  upload : Duration
  renewal : Duration
  deriving DecidableEq, Repr

namespace Timeouts

/-- The ceilings that hold unless others are given. -/
def standard : Timeouts where
  interactive := .ofSeconds 30
  generation := .ofSeconds 120
  queue := .ofSeconds 15
  upload := .ofSeconds 300
  renewal := .ofSeconds 10

/-- The ceiling of a category. -/
def ceiling (t : Timeouts) : Category → Duration
  | .interactive => t.interactive
  | .generation => t.generation
  | .queue => t.queue
  | .upload => t.upload

/-- The ceilings with another one for a category. -/
def setCeiling (t : Timeouts) (d : Duration) : Category → Timeouts
  | .interactive => { t with interactive := d }
  | .generation => { t with generation := d }
  | .queue => { t with queue := d }
  | .upload => { t with upload := d }

/-- Why ceilings do not fit together. -/
inductive Fault where
  /-- A renewal gets no time. -/
  | zeroRenewal
  /-- A category gets no time. -/
  | zeroCeiling (category : Category)
  /-- A renewal may take as long as a request that waits for it. -/
  | longRenewal (renewal : Duration) (category : Category) (ceiling : Duration)
  deriving DecidableEq, Repr

/-- The wording of a fault. -/
def Fault.message : Fault → String
  | .zeroRenewal => "renewal timeout must be non-zero"
  | .zeroCeiling category => category.name ++ " timeout must be non-zero"
  | .longRenewal renewal category ceiling =>
    "renewal timeout (" ++ renewal.write ++ ") must be shorter than the " ++ category.name ++
      " timeout (" ++ ceiling.write ++ ")"

/-- What is wrong with the ceiling of a category. -/
def ceilingFault? (t : Timeouts) (category : Category) : Option Fault :=
  if (t.ceiling category).isZero then some (.zeroCeiling category)
  else if t.ceiling category ≤ t.renewal then
    some (.longRenewal t.renewal category (t.ceiling category))
  else none

/-- The first thing that is wrong with the ceilings. -/
def fault? (t : Timeouts) : Option Fault :=
  if t.renewal.isZero then some .zeroRenewal
  else Category.all.findSome? t.ceilingFault?

end Timeouts

end Brokerage
