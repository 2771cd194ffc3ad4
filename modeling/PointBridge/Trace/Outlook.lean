import PointBridge.Trace.Subscriber

/-!
# What a process looks at

A process does not bother its subscriber with everything. It remembers the ceiling above which it
looks at nothing, and, from the first performance span that it looks at, the interest in such
spans. Whenever a subscriber is built, all subscribers there are get asked again, the new one
included, even if it is not installed afterwards. Its answers then stay in force, although the
installed subscriber alone decides what is shown.
-/

namespace PointBridge.Trace

/-- What a process remembers about the interests of its subscribers: the ceiling above which nothing
is looked at, and the interest in performance spans, if one was looked at. -/
structure Outlook where
  reach : Ceiling := none
  spans : Option Interest := none
deriving DecidableEq

namespace Outlook

/-- Ask all subscribers there are. -/
def consult (o : Outlook) (subscribers : List Subscriber) : Outlook :=
  { reach := Ceiling.highest (subscribers.map (·.reach))
    spans := o.spans.map fun _ => Interest.common (subscribers.map (·.spanInterest)) }

/-- Whether performance spans are looked at. -/
def looksAtSpans (o : Outlook) : Bool := o.reach.allows Subscriber.spanLevel

/-- The interest in performance spans, which an installed subscriber is asked for at the first of
them. -/
def interest (o : Outlook) (s : Subscriber) : Interest := o.spans.getD s.spanInterest

/-- What is remembered after a performance span has started. -/
def afterSpan (o : Outlook) (s : Subscriber) : Outlook :=
  if o.looksAtSpans then { o with spans := some (o.interest s) } else o

/-- The ceiling for events inside of a performance span with a given name, if an installed
subscriber observes the span. -/
def ceilingInside? (o : Outlook) (s : Subscriber) (name : String) : Option Ceiling :=
  if o.looksAtSpans && s.takes (o.interest s) name then some (s.ceilingInside name) else none

end Outlook

end PointBridge.Trace
