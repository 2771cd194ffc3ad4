import PointBridge.Bridge

/-!
# Performance spans

A performance span measures a stretch of a program. Whether it records is decided by the switch
when it starts, and so is its threshold: its own one if it has one, the global one otherwise. When
it finishes, a recording span reports its completion if it took at least as long as its threshold.
The measured time is a parameter of `PerformanceSpan.finish`.
-/

namespace PointBridge

open Trace

namespace PerformanceSwitch

/-- The word that stands for no threshold. -/
def noThreshold : UInt64 := 0xffffffffffffffff

/-- The switch in a given position with a given global threshold. -/
def position (enabled : Bool) (threshold : Option UInt64) : PerformanceSwitch :=
  ⟨enabled, threshold.getD noThreshold⟩

/-- The global threshold, if there is one. -/
def threshold (s : PerformanceSwitch) : Option UInt64 :=
  if s.word = noThreshold then none else some s.word

end PerformanceSwitch

/-- A span that records. Its completion is reported if it takes `threshold` microseconds or more.
`observed` is the ceiling for events inside of it, if the installed subscriber observes it. -/
structure ActiveSpan where
  name : String
  threshold : Option UInt64
  observed : Option Ceiling
deriving DecidableEq

/-- A span, which may record or not. -/
structure PerformanceSpan where
  active : Option ActiveSpan
deriving DecidableEq

/-! ## The switch -/

namespace Bridge

/-- Turn the switch, and set the global threshold. -/
def setPerformance (enabled : Bool) (threshold : Option UInt64) : Action Unit :=
  modify fun b => { b with performance := .position enabled threshold }

/-- Whether new spans record. -/
def performanceEnabled : Action Bool := return (← get).performance.enabled

end Bridge

/-! ## Spans -/

namespace ActiveSpan

open Bridge (Action)

/-- Whether completion is reported after a number of microseconds. -/
def isDue (s : ActiveSpan) (elapsed : UInt64) : Bool := s.threshold.all (· ≤ elapsed)

/-- Show a moment of the span, if the installed subscriber observes it. -/
def showMoment (s : ActiveSpan) (wanted : SpanEvents → Bool) (notice : String → Notice) :
    Action Unit :=
  if s.observed.isSome then Bridge.showMoment wanted (notice s.name) else pure ()

/-- Report completion inside the span, and leave the span even if the report panics. -/
def complete (s : ActiveSpan) : Action (Except Payload Unit) := do
  modify fun b => { b with entered := b.entered ++ [⟨s.name, s.observed⟩] }
  s.showMoment (·.enter) .enter
  let outcome ← Bridge.attempt (Bridge.emit .spanCompleted)
  modify fun b => { b with entered := b.entered.dropLast }
  s.showMoment (·.exit) .exit
  return outcome

end ActiveSpan

namespace PerformanceSpan

open Bridge (Action)

/-- Start a span with a name and possibly a threshold of its own. -/
def start (name : String) (own : Option UInt64) : Action PerformanceSpan := do
  let b ← get
  if b.performance.enabled then
    let span : ActiveSpan :=
      { name
        threshold := own.or b.performance.threshold
        observed := b.subscriber.bind (b.outlook.ceilingInside? · name) }
    set { b with outlook := b.subscriber.elim b.outlook b.outlook.afterSpan }
    span.showMoment (·.new) .new
    return ⟨some span⟩
  else return ⟨none⟩

/-- Whether the span records. -/
def isRecording (s : PerformanceSpan) : Bool := s.active.isSome

/-- Finish a span that took a number of microseconds. -/
def finish (s : PerformanceSpan) (elapsed : UInt64) : Action Unit :=
  match s.active with
  | none => pure ()
  | some span => do
    let outcome ← if span.isDue elapsed then span.complete else pure (.ok ())
    span.showMoment (·.close) .close
    Bridge.resume outcome

/-- Carry out an action within a span, which finishes even if the action panics. -/
def around {α : Type} (name : String) (elapsed : UInt64) (act : Action α) : Action α := do
  let span ← start name none
  let outcome ← Bridge.attempt act
  span.finish elapsed
  Bridge.resume outcome

end PerformanceSpan

/-- Carry out an action and report that it was timed, under a target and a name. -/
def Bridge.timed {α : Type} (target operation : String) (act : Bridge.Action α) :
    Bridge.Action α := do
  let value ← act
  emit (.blockTimed target operation)
  return value

end PointBridge
