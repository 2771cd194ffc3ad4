/-!
# Interest

What a subscriber answers when it is asked beforehand about all spans or events of one kind.
-/

namespace PointBridge.Trace

/-- How a subscriber looks at the spans or events of one kind. -/
inductive Interest where
  /-- All of them pass. -/
  | always
  /-- Each of them is looked at by itself. -/
  | sometimes
  /-- None of them passes. -/
  | never
deriving DecidableEq

namespace Interest

/-- The common answer of two subscribers; where they differ, each case has to be looked at. -/
def meet (a b : Interest) : Interest := if a = b then a else sometimes

/-- The common answer of several subscribers. Nobody is interested if there are none. -/
def common : List Interest → Interest
  | [] => never
  | a :: rest => rest.foldl meet a

end Interest

end PointBridge.Trace
