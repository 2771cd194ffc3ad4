import PointBridge.Bridge

/-!
# The registry of points

The operations on the shared registry, which hosts reach through native and foreign functions.
Each locks the registry for one operation on its arena. A panic under the lock poisons it: every
later lock reports that and goes on, since no operation leaves the arena half changed. An event
about an allocated or released point is reported after the lock is given back, while the reuse of
a slot and the clearing of the registry are reported under it.
-/

namespace PointBridge

open Trace

namespace Registry

open Bridge (Action emit emitAll attempt resume)

/-! ## Locking -/

/-- Take the lock. Operations follow one another and each gives the lock back, so that it is free
here. -/
def take : Action Unit :=
  modify fun b => { b with registry := { b.registry with held := true } }

/-- The registry after its lock is given back. Doing this in a panic poisons the lock. -/
def unlocked (r : Registry) (panicking : Bool) : Registry :=
  { r with held := false, poisoned := r.poisoned || panicking }

/-- Give the lock back. -/
def giveBack (panicking : Bool) : Action Unit :=
  modify fun b => { b with registry := b.registry.unlocked panicking }

/-- Report that the lock is poisoned if it is. -/
def reportPoison : Action Unit := do
  if (← get).registry.poisoned then emit .registryPoisoned

/-- Carry out an action under the lock, which is given back even if the action panics. -/
def underLock {α : Type} (act : Action α) : Action α := do
  take
  let outcome ← attempt do
    reportPoison
    act
  giveBack (!outcome.isOk)
  resume outcome

/-- Put an arena in the place of the present one. -/
def setArena (arena : Arena) : Action Unit :=
  modify fun b => { b with registry := { b.registry with arena } }

/-- Read the arena under the lock. -/
def reading {α : Type} (read : Arena → α) : Action α :=
  underLock do return read (← get).registry.arena

/-- Change the arena under the lock and take a value out of it, unless that is refused. -/
def changing {α : Type} (change : Arena → Except PointError (α × Arena)) :
    Action (Except PointError α) :=
  underLock do
    match change (← get).registry.arena with
    | .ok (value, arena) =>
      setArena arena
      return .ok value
    | .error e => return .error e

/-- Change the arena under the lock, unless the change is refused. -/
def writing (write : Arena → Except PointError Arena) : Action (Except PointError Unit) :=
  changing fun arena => (write arena).map ((), ·)

/-! ## Operations -/

/-- Add a point at the origin to the arena. This panics if the arena is full. -/
def addPoint : Action Handle := do
  let arena := (← get).registry.arena
  if arena.isFull then throw (.owned Arena.exhaustedText)
  else
    let r := arena.allocate
    setArena r.arena
    emitAll r.events
    return r.handle

/-- Add a point at the origin. -/
def allocate : Action Handle := do
  let h ← underLock addPoint
  emit (.pointAllocated h)
  return h

/-- Retire a point; the answer is its last value. -/
def free (h : Handle) : Action (Except PointError Point) := do
  match ← changing (·.release h) with
  | .ok p =>
    emit (.pointReleased h p)
    return .ok p
  | .error e => return .error e

/-- The first coordinate of a point. -/
def getX (h : Handle) : Action (Except PointError Int32) := reading (·.getX h)

/-- The second coordinate of a point. -/
def getY (h : Handle) : Action (Except PointError Int32) := reading (·.getY h)

/-- Replace the first coordinate of a point. -/
def setX (h : Handle) (x : Int32) : Action (Except PointError Unit) := writing (·.setX h x)

/-- Replace the second coordinate of a point. -/
def setY (h : Handle) (y : Int32) : Action (Except PointError Unit) := writing (·.setY h y)

/-- The distance of two points. -/
def distance (h k : Handle) : Action (Except PointError Binary64) := reading (·.distance h k)

/-- The number of live points. -/
def livePoints : Action Nat := reading Arena.size

/-- Retire all points, and report how many were live. -/
def clear : Action Unit :=
  underLock do
    let arena := (← get).registry.arena
    setArena arena.clear
    emit (.registryCleared arena.size)

/-! ## Calls as data -/

/-- An operation on the registry. -/
inductive Call where
  | allocate
  | free (h : Handle)
  | getX (h : Handle)
  | getY (h : Handle)
  | setX (h : Handle) (x : Int32)
  | setY (h : Handle) (y : Int32)
  | distance (h k : Handle)
  | livePoints
  | clear
deriving DecidableEq

/-- Carry out a call. -/
def call : Call → Action Arena.Answer
  | .allocate => return .handle (← allocate)
  | .free h => return .ofResult .point (← free h)
  | .getX h => return .ofResult .coordinate (← getX h)
  | .getY h => return .ofResult .coordinate (← getY h)
  | .setX h x => return .ofResult (fun _ => .done) (← setX h x)
  | .setY h y => return .ofResult (fun _ => .done) (← setY h y)
  | .distance h k => return .ofResult .distance (← distance h k)
  | .livePoints => return .count (← livePoints)
  | .clear => do
    clear
    return .done

/-! ## Several threads -/

/-- Allocate a number of points on another thread. -/
def allocateElsewhere (count : Nat) : Action (List Handle) :=
  Bridge.elsewhere ((List.range count).mapM fun _ => allocate)

/-- Allocate a number of points on each of several threads; the answer has all handles in
ascending order, so that it does not depend on how the threads took turns. -/
def allocateConcurrently (threads perThread : Nat) : Action (List Handle) := do
  let handles ← (List.range threads).mapM fun _ => allocateElsewhere perThread
  return handles.flatten.mergeSort fun h k => h.raw ≤ k.raw

end Registry

end PointBridge
