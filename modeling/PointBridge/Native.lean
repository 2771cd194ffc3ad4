import PointBridge.Performance
import PointBridge.Registry

/-!
# Native calls

The functions that Java code calls. `Native.guarded` runs the work of a call and turns what goes
wrong into a Java exception: an error into one of the class that belongs to it, a panic into a
runtime exception. Such a call returns the zero of its type. The reports about this happen outside
of the guard.
-/

namespace PointBridge

open Trace

namespace Native

open Bridge (Action emit attempt onJvm)

/-! ## Values -/

/-- What a native call returns. -/
inductive Value where
  /-- A signed word of 64 bits. -/
  | long (word : Int64)
  /-- A signed word of 32 bits. -/
  | int (word : Int32)
  /-- A number. -/
  | double (number : Binary64)
  /-- Nothing. -/
  | void
deriving DecidableEq

/-- A native function with its arguments. Handles arrive as signed words. -/
inductive Call where
  | allocate
  | free (h : Int64)
  | getX (h : Int64)
  | setX (h : Int64) (x : Int32)
  | getY (h : Int64)
  | setY (h : Int64) (y : Int32)
  | handleDistance (h k : Int64)
  | bufferDistance (a b : Jvm.Buffer)
deriving DecidableEq

namespace Call

/-- The function that a call calls. -/
def entry : Call → Entry
  | allocate => .allocate
  | free _ => .free
  | getX _ => .getX
  | setX .. => .setX
  | getY _ => .getY
  | setY .. => .setY
  | handleDistance .. => .handleDistance
  | bufferDistance .. => .bufferDistance

end Call

/-- The zero of the type that a function returns. -/
def zero : Entry → Value
  | .allocate => .long 0
  | .free => .void
  | .getX => .int 0
  | .setX => .void
  | .getY => .int 0
  | .setY => .void
  | .handleDistance => .double .zero
  | .bufferDistance => .double .zero

/-! ## The work of a call -/

/-- The result of a registry operation as that of a native call. -/
def ofResult {α : Type} (say : α → Value) : Except PointError α → Except BridgeError Value
  | .ok value => .ok (say value)
  | .error e => .error (.point e)

/-- The distance of the points in two buffers. The first buffer is looked at first; the lengths
are compared with that of a point after both have been looked at. -/
def distanceOfBuffers (a b : Jvm.Buffer) : Action (Except BridgeError Value) := do
  match ← onJvm (Jvm.bufferBytes a) with
  | .error e => return .error e
  | .ok first =>
    match ← onJvm (Jvm.bufferBytes b) with
    | .error e => return .error e
    | .ok second =>
      match Point.distanceOfBuffers first second with
      | .ok d => return .ok (.double d)
      | .error e =>
        emit (.undersizedBuffer first.length second.length e)
        return .error (.point e)

/-- The work of a call. The two distance functions run in a performance span, which takes a
number of microseconds. -/
def work (elapsed : UInt64) : Call → Action (Except BridgeError Value)
  | .allocate => return .ok (.long (← Registry.allocate).toSigned)
  | .free h => return ofResult (fun _ => .void) (← Registry.free (.ofSigned h))
  | .getX h => return ofResult .int (← Registry.getX (.ofSigned h))
  | .setX h x => return ofResult (fun _ => .void) (← Registry.setX (.ofSigned h) x)
  | .getY h => return ofResult .int (← Registry.getY (.ofSigned h))
  | .setY h y => return ofResult (fun _ => .void) (← Registry.setY (.ofSigned h) y)
  | .handleDistance h k =>
    PerformanceSpan.around Entry.handleDistance.label elapsed
      (return ofResult .double (← Registry.distance (.ofSigned h) (.ofSigned k)))
  | .bufferDistance a b =>
    PerformanceSpan.around Entry.bufferDistance.label elapsed (distanceOfBuffers a b)

/-! ## The guard -/

/-- Throw an exception of a class whose message names the entry point, and report a failure to
do so. -/
def throwJava (entry : Entry) (className text : String) : Action Unit := do
  let message := entry.label ++ ": " ++ text
  match ← onJvm (Jvm.raise ⟨className, message⟩).run with
  | .ok () => return
  | .error e => emit (.throwFailed className e)

/-- Run the work of a call and turn an error or a panic into a Java exception. -/
def guarded (entry : Entry) (act : Action (Except BridgeError Value)) : Action Value := do
  match ← attempt act with
  | .ok (.ok value) => return value
  | .ok (.error e) =>
    emit (.callFailed entry e)
    throwJava entry e.exceptionClass e.message
    return zero entry
  | .error p =>
    emit (.callPanicked entry p.description)
    throwJava entry ExceptionClass.runtime p.description
    return zero entry

/-- Carry out a native call, in which the virtual machine behaves in a given way. -/
def call (c : Call) (jvm : Jvm) (elapsed : UInt64) : Action Value := do
  modify fun b => { b with jvm }
  guarded c.entry (work elapsed c)

end Native

end PointBridge
