import PointBridge.Foreign
import PointBridge.Installation
import PointBridge.Native

/-!
# Sessions

A session is a list of steps carried out one after the other in one process. A `Request` is one
thing to do as data; a `Step` is a request with the alarm that is set while it is carried out.
`Session.step` carries out one step: it ends with an answer or with a panic that nothing caught.
`Session.run` carries out a list of them, up to one that ends the process.
-/

namespace PointBridge

open Trace

/-! ## Requests -/

/-- Something to do with tracing. Where a span finishes, its time in microseconds is given. -/
inductive TracingCall where
  /-- Install the subscriber of a configuration. -/
  | initGlobal (config : Config)
  /-- Install the subscriber of a configuration unless that was tried before. -/
  | initOnce (config : Config)
  /-- Load the library. -/
  | onLoad
  /-- Turn the switch of performance spans. -/
  | setPerformance (enabled : Bool) (threshold : Option UInt64)
  /-- Ask whether new spans record. -/
  | performanceEnabled
  /-- Start a span and keep it under a key. A span that was kept there finishes after `replaced`
  microseconds. -/
  | spanStart (key name : String) (own : Option UInt64) (replaced : UInt64)
  /-- Ask whether a span records. -/
  | spanRecording (key : String)
  /-- Ask for the time of a span. -/
  | spanElapsed (key : String)
  /-- Finish a span. -/
  | spanFinish (key : String) (elapsed : UInt64)
  /-- Time a block of code that gives a value. -/
  | timedBlock (target operation : String) (value : Int)
deriving DecidableEq

/-- One thing to do. -/
inductive Request where
  /-- An operation on the registry. -/
  | registry (call : Registry.Call)
  /-- Allocations on several threads. -/
  | allocateConcurrently (threads perThread : Nat)
  /-- Ask for the versions of the library. -/
  | version
  /-- The distance of two points passed by value. -/
  | foreignDistance (p q : Point)
  /-- The distance of two points passed by pointer. -/
  | foreignPointers (p q : Option Point)
  /-- A native call with a virtual machine and the time of its span, if it has one. -/
  | native (call : Native.Call) (jvm : Jvm) (elapsed : UInt64)
  /-- Something to do with tracing. -/
  | tracing (call : TracingCall)
deriving DecidableEq

/-- What a request is answered. -/
inductive Answer where
  /-- The answer of the registry. -/
  | registry (answer : Arena.Answer)
  /-- Handles. -/
  | handles (handles : List Handle)
  /-- The versions of the library and of its foreign interface. -/
  | version (library : String) (interface : UInt32)
  /-- A distance. -/
  | distance (d : Binary64)
  /-- What a native call returned, and the exception pending after it. -/
  | native (value : Native.Value) (pending : Option JavaException)
  /-- Yes or no. -/
  | flag (b : Bool)
  /-- An integer. -/
  | number (n : Int)
  /-- The time of a span: nothing if it does not record. -/
  | elapsed (recording : Bool)
  /-- The request is done and has nothing to say. -/
  | done
  /-- No subscriber was installed. -/
  | notInstalled (error : SetupError)
deriving DecidableEq

/-! ## Steps -/

/-- A request with the alarm that is set meanwhile, if one is. -/
structure Step where
  request : Request
  alarm : Option Alarm := none
deriving DecidableEq

/-- A process in the course of a session. The started spans are listed with their keys, the latest
first. -/
structure Session where
  bridge : Bridge := {}
  spans : List (String × PerformanceSpan) := []
deriving DecidableEq

/-- What a step ends with: an answer, or a panic that nothing caught, and the events reported
meanwhile. -/
structure StepResult where
  outcome : Except Payload Answer
  events : List Record

/-- Whether a request calls a function that is exported to other languages. -/
def Request.isForeign : Request → Bool
  | .version | .foreignDistance .. | .foreignPointers .. | .native .. | .tracing .onLoad => true
  | _ => false

/-- Whether a request ended the process: a panic does, if it runs out of a function that is exported
to other languages. -/
def StepResult.aborted (result : StepResult) (request : Request) : Bool :=
  request.isForeign && !result.outcome.isOk

namespace Session

open Bridge (Action)

/-- A fresh process with given environment variables. -/
def start (environment : Variables) : Session := { bridge := { environment } }

/-- The span under a key; one that was never started does not record. -/
def span (s : Session) (key : String) : PerformanceSpan :=
  (s.spans.lookup key).getD ⟨none⟩

/-- The started spans that are not under a key. -/
def without (s : Session) (key : String) : List (String × PerformanceSpan) :=
  s.spans.filter fun entry => entry.1 ≠ key

/-- The session after an action of the bridge, with what the action ended with. -/
def onBridge {α : Type} (s : Session) (act : Action α) : Except Payload α × Session :=
  let (outcome, bridge) := act.run.run s.bridge
  (outcome, { s with bridge })

/-- The session after an action of the bridge whose value is turned into an answer. -/
def answering {α : Type} (s : Session) (act : Action α) (say : α → Answer) :
    Except Payload Answer × Session :=
  let (outcome, s) := s.onBridge act
  (outcome.map say, s)

/-- The answer to an attempt to install a subscriber. -/
def setupAnswer : Except SetupError Unit → Answer
  | .ok () => .done
  | .error e => .notInstalled e

/-- Carry out a tracing call. -/
def trace (s : Session) : TracingCall → Except Payload Answer × Session
  | .initGlobal config => s.answering (Bridge.initGlobal config) setupAnswer
  | .initOnce config => s.answering (Bridge.initOnce config) .flag
  | .onLoad => s.answering Bridge.onLoad fun version => .number version.toInt
  | .setPerformance enabled threshold =>
    s.answering (Bridge.setPerformance enabled threshold) fun _ => .done
  | .performanceEnabled => s.answering Bridge.performanceEnabled .flag
  | .spanStart key name own replaced =>
    match s.onBridge (PerformanceSpan.start name own) with
    | (.ok span, s) =>
      { s with spans := (key, span) :: s.without key }.answering ((s.span key).finish replaced)
        fun _ => .flag span.isRecording
    | (.error p, s) => (.error p, s)
  | .spanRecording key => (.ok (.flag (s.span key).isRecording), s)
  | .spanElapsed key => (.ok (.elapsed (s.span key).isRecording), s)
  | .spanFinish key elapsed =>
    { s with spans := s.without key }.answering ((s.span key).finish elapsed) fun _ => .done
  | .timedBlock target operation value =>
    s.answering (Bridge.timed target operation (pure value)) .number

/-- Carry out a request. -/
def perform (s : Session) : Request → Except Payload Answer × Session
  | .registry call => s.answering (Registry.call call) .registry
  | .allocateConcurrently threads perThread =>
    s.answering (Registry.allocateConcurrently threads perThread) .handles
  | .version => (.ok (.version Bridge.libraryVersion Foreign.interfaceVersion), s)
  | .foreignDistance p q => (.ok (.distance (Foreign.distance p q)), s)
  | .foreignPointers p q => s.answering (Foreign.distanceOfPointers p q) .distance
  | .native call jvm elapsed =>
    let (outcome, s) := s.onBridge (Native.call call jvm elapsed)
    (outcome.map fun value => .native value s.bridge.jvm.pending, s)
  | .tracing call => s.trace call

/-- Carry out a step. The journal starts anew, and an alarm that did not go off is taken away. -/
def step (s : Session) (x : Step) : StepResult × Session :=
  let armed := { s with bridge := { s.bridge with journal := #[], alarm := x.alarm } }
  let (outcome, s) := armed.perform x.request
  (⟨outcome, s.bridge.journal.toList⟩,
    { s with bridge := { s.bridge with journal := #[], alarm := none } })

/-- Carry out a list of steps. One that ends the process is the last. -/
def run (s : Session) : List Step → List StepResult × Session
  | [] => ([], s)
  | x :: rest =>
    let (result, s) := s.step x
    if result.aborted x.request then ([result], s)
    else
      let (results, s) := s.run rest
      (result :: results, s)

end Session

end PointBridge
