import PointBridge.Arena.Command
import PointBridge.Jvm
import PointBridge.Trace.Outlook

/-!
# The bridge in a process

`Bridge` is the state that the bridge has in the process that loaded it: the shared registry of
points, the switch of performance spans, the installed subscriber, the virtual machine as the
present call sees it, and what was reported so far. A `Bridge.Action` is a computation on this
state. It can panic; what it did before stays done, and the panic runs up to the next `attempt`.

Events are reported by `emit`. Each is added to the journal, at every level, together with the
spans entered at that moment, and shown by the installed subscriber if that lets it pass. An
`Alarm` makes the observer of events panic just after it has noted an event with a given message.
-/

namespace PointBridge

open Trace

/-! ## Panics -/

/-- The value that a panic carries. -/
inductive Payload where
  /-- A text with a lifetime of its own. -/
  | borrowed (text : String)
  /-- A text that the panic owns. -/
  | owned (text : String)
  /-- A value that is no text. -/
  | byte (value : UInt8)
deriving DecidableEq

namespace Payload

/-- The text of a payload, if it is one. -/
def text? : Payload → Option String
  | borrowed text => some text
  | owned text => some text
  | byte _ => none

/-- The text by which a native call describes a panic. -/
def description (p : Payload) : String := p.text?.getD "native panic"

end Payload

/-- A panic that the observer of events raises once, at the first event with a given message. -/
structure Alarm where
  message : String
  payload : Payload
deriving DecidableEq

/-! ## The state -/

/-- The points that the bridge owns for its host, behind a lock. The lock is poisoned by a panic
that happens while it is held. -/
structure Registry where
  arena : Arena := .empty
  poisoned : Bool := false
  held : Bool := false
deriving DecidableEq

/-- The switch of performance spans: whether new spans record, and the threshold in microseconds for
spans without one of their own, as a word of which the greatest means that there is none. -/
structure PerformanceSwitch where
  enabled : Bool := false
  word : UInt64 := 0xffffffffffffffff
deriving DecidableEq

/-- A span that is entered, with the ceiling for events inside of it if the installed subscriber
observes it. -/
structure EnteredSpan where
  name : String
  observed : Option Ceiling
deriving DecidableEq

/-- An event with the names of the spans that were entered, the outermost first. -/
structure Record where
  event : Event
  spans : List String
deriving DecidableEq

/-- The state of the bridge in a process. `outlook` is what is looked at for the installed
subscriber, `onceResult` what the first attempt to install one once gave, and `jvm` the virtual
machine as the present native call sees it. The entered spans are listed from the outermost. -/
structure Bridge where
  registry : Registry := {}
  performance : PerformanceSwitch := {}
  subscriber : Option Subscriber := none
  outlook : Outlook := {}
  onceResult : Option Bool := none
  environment : Variables := {}
  jvm : Jvm := {}
  entered : List EnteredSpan := []
  journal : Array Record := #[]
  output : Array Line := #[]
  alarm : Option Alarm := none
deriving DecidableEq

instance : Inhabited Bridge := ⟨{}⟩

namespace Bridge

/-- A computation on the state of the bridge that can panic. -/
abbrev Action (α : Type) := ExceptT Payload (StateM Bridge) α

/-! ## Reporting -/

/-- The names and ceilings of the entered spans that the installed subscriber observes. -/
def observed (b : Bridge) : List (String × Ceiling) :=
  b.entered.filterMap fun span => span.observed.map (span.name, ·)

/-- Add an event to the journal and to the output. -/
def note (b : Bridge) (e : Event) : Bridge :=
  let lines : List Line := match b.subscriber with
    | some s => s.showEvent e b.observed
    | none => []
  { b with
    journal := b.journal.push ⟨e, b.entered.map (·.name)⟩
    output := b.output ++ lines }

/-- Report an event. If the alarm is set on its message, the alarm is used up in a panic. -/
def emit (e : Event) : Action Unit := do
  modify (·.note e)
  match (← get).alarm with
  | some alarm =>
    if alarm.message = e.message then
      modify fun b => { b with alarm := none }
      throw alarm.payload
  | none => pure ()

/-- Report several events in order. -/
def emitAll (events : List Event) : Action Unit := events.forM emit

/-- Show a moment of a span, if the installed subscriber shows moments of its kind. -/
def showMoment (wanted : SpanEvents → Bool) (n : Notice) : Action Unit :=
  modify fun b =>
    match b.subscriber with
    | some s => { b with output := b.output ++ s.showMoment wanted n }
    | none => b

/-! ## Panics -/

/-- Carry out an action up to its end or its panic. -/
def attempt {α : Type} (act : Action α) : Action (Except Payload α) :=
  tryCatch (act.map Except.ok) fun p => pure (.error p)

/-- Go on with what an attempt ended in. -/
def resume {α : Type} : Except Payload α → Action α
  | .ok value => pure value
  | .error p => throw p

/-- Carry out an action on another thread. There no journal is kept, no alarm is set and no span
is entered, but an installed subscriber shows what is reported. -/
def elsewhere {α : Type} (act : Action α) : Action α := do
  let here ← get
  set { here with alarm := none, entered := [] }
  let outcome ← attempt act
  modify fun b => { b with journal := here.journal, alarm := here.alarm, entered := here.entered }
  resume outcome

/-! ## The virtual machine -/

/-- Carry out a computation on the virtual machine of the present call. -/
def onJvm {α : Type} (act : StateM Jvm α) : Action α := do
  let (value, jvm) := act.run (← get).jvm
  modify fun b => { b with jvm }
  return value

end Bridge

end PointBridge
