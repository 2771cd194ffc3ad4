import PointBridge.Trace.Line

/-!
# Subscribers

A `Subscriber` is what a configuration becomes once its filter is resolved: it decides which
events are shown, which moments of spans are, and in which style.
-/

namespace PointBridge.Trace

/-- A consumer of events: what passes, how it is written, and the moments of spans that are shown.
-/
structure Subscriber where
  filter : Filter
  style : Style
  spanEvents : SpanEvents
deriving DecidableEq

namespace Subscriber

/-- The subscriber that a configuration describes. -/
def ofConfig? (config : Config) (vars : Variables) : Except ReadError Subscriber :=
  (config.filter vars).map fun filter =>
    { filter
      style := ⟨config.output, config.includeTargets, config.ansi⟩
      spanEvents := config.spanEvents }

/-- The level of performance spans. -/
def spanLevel : Level := .debug

/-- A performance span as filters see it. -/
def spanView (name : String) : SpanView := ⟨Event.spanTarget, spanName, [("name", name)]⟩

/-- The ceiling above which the subscriber looks at nothing. -/
def reach (s : Subscriber) : Ceiling := s.filter.reach

/-- The interest in performance spans, which does not depend on their names. -/
def spanInterest (s : Subscriber) : Interest := s.filter.interest spanLevel (spanView "")

/-- Whether a performance span with a given name passes, under a given interest. -/
def takes (s : Subscriber) (interest : Interest) (name : String) : Bool :=
  match interest with
  | .always => true
  | .sometimes => s.filter.admits spanLevel (spanView name)
  | .never => false

/-- The ceiling for events inside of a performance span with a given name. -/
def ceilingInside (s : Subscriber) (name : String) : Ceiling := s.filter.inner (spanView name)

/-- Whether an event passes, inside of entered spans with the given ceilings. -/
def lets (s : Subscriber) (e : Event) (ceilings : List Ceiling) : Bool :=
  s.filter.allows e.target e.fieldNames e.level || ceilings.any (·.allows e.level)

/-- The lines that show an event, inside of observed spans with the given names and ceilings. The
last one is the innermost. -/
def showEvent (s : Subscriber) (e : Event) (spans : List (String × Ceiling)) : List Line :=
  if s.lets e (spans.map (·.2)) then s.style.lines (.ofEvent e (spans.getLast?.map (·.1)))
  else []

/-- The lines that show a moment of a span, if moments of its kind are shown. -/
def showMoment (s : Subscriber) (wanted : SpanEvents → Bool) (n : Notice) : List Line :=
  if wanted s.spanEvents then s.style.lines n else []

end Subscriber

end PointBridge.Trace
