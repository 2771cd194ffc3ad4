import PointBridge.Arena
import PointBridge.Trace.Event

/-!
# Commands to arenas

A `Command` is one operation on an arena as data, and `Arena.perform` carries it out: it gives
the answer, the arena afterwards and the events reported meanwhile. `Arena.performAll` carries
out a list of commands. A `Pool` holds several arenas, of which any can be copied.
-/

namespace PointBridge

open Trace (Event)

namespace Arena

/-- An operation on an arena. -/
inductive Command where
  | allocate
  | release (h : Handle)
  | get (h : Handle)
  | set (h : Handle) (p : Point)
  | getX (h : Handle)
  | getY (h : Handle)
  | setX (h : Handle) (x : Int32)
  | setY (h : Handle) (y : Int32)
  | distance (h k : Handle)
  | contains (h : Handle)
  | size
  | isEmpty
  | clear
deriving DecidableEq

/-- What an operation answers. -/
inductive Answer where
  /-- The handle of a new point. -/
  | handle (h : Handle)
  /-- A point. -/
  | point (p : Point)
  /-- A coordinate. -/
  | coordinate (c : Int32)
  /-- A distance. -/
  | distance (d : Binary64)
  /-- Yes or no. -/
  | flag (b : Bool)
  /-- A number of points. -/
  | count (n : Nat)
  /-- The operation is done and has nothing to say. -/
  | done
  /-- The operation was refused. -/
  | refused (error : PointError)
  /-- The operation panicked, since no index was left for one more point. -/
  | exhausted
deriving DecidableEq

namespace Answer

/-- The answer of an operation that may be refused. -/
def ofResult {α : Type} (say : α → Answer) : Except PointError α → Answer
  | .ok value => say value
  | .error e => refused e

end Answer

/-- What happens when a command is carried out: the answer, the arena afterwards and the events
reported meanwhile. -/
structure Outcome where
  answer : Answer
  arena : Arena
  events : List Event

/-- The event of an allocation, if it reports one. -/
def Allocation.events (r : Allocation) : List Event :=
  if r.reused then [.slotReused r.handle] else []

/-- The outcome of a command that only reads. -/
def reading (a : Arena) (answer : Answer) : Outcome := ⟨answer, a, []⟩

/-- The outcome of a command that changes the arena unless it is refused. -/
def writing (a : Arena) : Except PointError Arena → Outcome
  | .ok changed => ⟨.done, changed, []⟩
  | .error e => ⟨.refused e, a, []⟩

/-- Carry out a command. -/
def perform (a : Arena) : Command → Outcome
  | .allocate =>
    if a.isFull then ⟨.exhausted, a, []⟩
    else
      let r := a.allocate
      ⟨.handle r.handle, r.arena, r.events⟩
  | .release h =>
    match a.release h with
    | .ok (p, changed) => ⟨.point p, changed, []⟩
    | .error e => ⟨.refused e, a, []⟩
  | .get h => a.reading (.ofResult .point (a.get h))
  | .set h p => a.writing (a.set h p)
  | .getX h => a.reading (.ofResult .coordinate (a.getX h))
  | .getY h => a.reading (.ofResult .coordinate (a.getY h))
  | .setX h x => a.writing (a.setX h x)
  | .setY h y => a.writing (a.setY h y)
  | .distance h k => a.reading (.ofResult .distance (a.distance h k))
  | .contains h => a.reading (.flag (a.contains h))
  | .size => a.reading (.count a.size)
  | .isEmpty => a.reading (.flag a.isEmpty)
  | .clear => ⟨.done, a.clear, []⟩

/-- The arena after a list of commands. -/
def performAll (a : Arena) (commands : List Command) : Arena :=
  commands.foldl (fun a c => (a.perform c).arena) a

/-- The answers to a list of commands. -/
def answers (a : Arena) : List Command → List Answer
  | [] => []
  | c :: rest => (a.perform c).answer :: answers (a.perform c).arena rest

/-- The events of a list of commands. -/
def eventsOf (a : Arena) : List Command → List Event
  | [] => []
  | c :: rest => (a.perform c).events ++ eventsOf (a.perform c).arena rest

/-! ## Repeated commands -/

/-- What repeated allocations yield: the first and the last handle, the arena afterwards and the
events reported meanwhile. -/
structure Series where
  first : Option Handle := none
  last : Option Handle := none
  arena : Arena
  events : Array Event := #[]

/-- The series with one more allocation. A full arena ends the series. -/
def Series.add (s : Series) : Series :=
  if s.arena.isFull then s
  else
    let ⟨first, _, arena, events⟩ := s
    let ⟨handle, reused, arena⟩ := arena.allocate
    { first := first.or (some handle)
      last := some handle
      arena
      events := if reused then events.push (.slotReused handle) else events }

/-- Allocate a number of points. -/
def allocateMany (a : Arena) (count : Nat) : Series := count.repeat Series.add { arena := a }

/-- The arena with a vacant slot in another generation. -/
def renew (a : Arena) (index generation : UInt32) : Arena :=
  { a with slots := a.slots.setIfInBounds index.toNat ⟨generation, none⟩ }

/-- Allocate a point and release it, a number of times: the last handle, and the arena afterwards.
All rounds use the slot of the first one, in one generation after the other. -/
def churn (a : Arena) : Nat → Option Handle × Arena
  | 0 => (none, a)
  | count + 1 =>
    if a.isFull then (none, a)
    else
      let r := a.allocate
      let generation := Slot.generationAfter r.handle.generation
      (some (.pack r.handle.index (generation count)),
        (r.arena.retire r.handle).renew r.handle.index (generation (count + 1)))

/-- The events reported while churning. The first round may use a new slot. -/
def churnEvents (a : Arena) (count : Nat) : List Event :=
  if a.isFull then []
  else
    let r := a.allocate
    let rounds := if r.reused then List.range count else (List.range count).tail
    let generation := Slot.generationAfter r.handle.generation
    rounds.map fun k => .slotReused (.pack r.handle.index (generation k))

end Arena

/-! ## Several arenas -/

/-- Arenas numbered from 0. -/
abbrev Pool := Array Arena

namespace Pool

/-- An operation on one arena of a pool. -/
inductive Command where
  /-- Carry out a command. -/
  | perform (command : Arena.Command)
  /-- Allocate a number of points. -/
  | allocateMany (count : Nat)
  /-- Allocate a point and release it, a number of times. -/
  | churn (count : Nat)
  /-- Add a copy of the arena to the pool. -/
  | copy

/-- What an operation on a pool answers. -/
inductive Answer where
  /-- The answer of the arena. -/
  | arena (answer : Arena.Answer)
  /-- The first and the last of several handles, if there are any. -/
  | ends (first last : Option Handle)
  /-- The last of several handles, and the null handle if there is none. -/
  | last (h : Handle)
  /-- The number of a new arena. -/
  | number (n : Nat)

/-- What happens when a command is carried out on a pool. The arena is the one that the command went
to. There may be very many events, so that they are listed only for those who ask. -/
structure Outcome where
  answer : Answer
  arena : Arena
  pool : Pool
  reported : Thunk (List Event)

/-- The events reported meanwhile. -/
def Outcome.events (r : Outcome) : List Event := r.reported.get

/-- Carry out a command on the arena with a given number. -/
def perform (pool : Pool) (number : Nat) (command : Command) : Outcome :=
  let a := pool.getD number .empty
  match command with
  | .perform c =>
    let r := a.perform c
    ⟨.arena r.answer, r.arena, pool.setIfInBounds number r.arena, .pure r.events⟩
  | .allocateMany count =>
    let s := a.allocateMany count
    ⟨.ends s.first s.last, s.arena, pool.setIfInBounds number s.arena, .pure s.events.toList⟩
  | .churn count =>
    let (last, b) := a.churn count
    ⟨.last (last.getD .null), b, pool.setIfInBounds number b, .mk fun _ => a.churnEvents count⟩
  | .copy => ⟨.number pool.size, a, pool.push a, .pure []⟩

end Pool

end PointBridge
