/-!
# Levels of severity

Events have one of five levels. A `Ceiling` lets the events up to one level pass, or none.
-/

namespace PointBridge.Trace

/-- How severe an event is, the most severe first. -/
inductive Level where
  | error
  | warn
  | info
  | debug
  | trace
deriving DecidableEq

namespace Level

/-- All levels, the most severe first. -/
def all : List Level := [error, warn, info, debug, trace]

/-- The position of a level, from 1 for the most severe to 5. -/
def rank : Level → Nat
  | error => 1
  | warn => 2
  | info => 3
  | debug => 4
  | trace => 5

/-- The name of a level, in capitals. -/
def name : Level → String
  | error => "ERROR"
  | warn => "WARN"
  | info => "INFO"
  | debug => "DEBUG"
  | trace => "TRACE"

end Level

/-- The least severe level that may pass, or `none` where no event may. -/
abbrev Ceiling := Option Level

namespace Ceiling

/-- The rank of the last level that may pass, or 0. -/
def rank : Ceiling → Nat
  | some top => top.rank
  | none => 0

/-- Whether an event of the given level may pass. -/
def allows (c : Ceiling) (level : Level) : Bool := decide (level.rank ≤ c.rank)

/-- The ceiling that lets more pass. -/
def max (c d : Ceiling) : Ceiling := if c.rank ≤ d.rank then d else c

/-- The ceiling of a list that lets the most pass; none passes by the empty list. -/
def highest (ceilings : List Ceiling) : Ceiling := ceilings.foldl max none

end Ceiling

end PointBridge.Trace
