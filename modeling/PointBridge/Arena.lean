import PointBridge.Layout

/-!
# The arena

An `Arena` owns points and names them by handles. It is an array of slots; each slot has a
generation, which changes whenever its point is retired, so that handles to the earlier point
no longer match. Indices of vacant slots wait on a stack: `allocate` takes the top of it and
adds a slot only when it is empty; `release` and `clear` push. An allocation that needs one more
slot than indices can tell apart panics instead (`isFull`). Reads go through `find?`, writes
through `liveSlot?`; a handle passes both tests or neither.
-/

namespace PointBridge

/-! ## Slots -/

/-- A place for one point, with the generation that a handle to the present point carries. -/
structure Slot where
  generation : UInt32
  point : Option Point
deriving DecidableEq

namespace Slot

/-- A new slot, occupied by the origin in generation 1. -/
def fresh : Slot := ⟨1, some .origin⟩

/-- Whether the slot holds a point. -/
def isOccupied (s : Slot) : Bool := s.point.isSome

/-- The generation after `g`. Zero is skipped, so that no handle of a slot is null. -/
def nextGeneration (g : UInt32) : UInt32 := if g + 1 = 0 then 1 else g + 1

/-- The generation a number of steps after `g`. -/
def generationAfter (g : UInt32) : Nat → UInt32
  | 0 => g
  | steps + 1 => .ofNat ((g.toNat + steps) % (UInt32.size - 1) + 1)

/-- The slot without its point, in the next generation. -/
def retire (s : Slot) : Slot := ⟨nextGeneration s.generation, none⟩

/-- The slot, retired if it is occupied. -/
def vacate (s : Slot) : Slot := if s.isOccupied then s.retire else s

end Slot

/-- Points stored in slots and named by handles. The vacant slots are listed from the one vacated
last. -/
structure Arena where
  slots : Array Slot
  free : List UInt32
  live : Nat
deriving DecidableEq

namespace Arena

/-- The arena without slots. -/
def empty : Arena := ⟨#[], [], 0⟩

instance : Inhabited Arena := ⟨empty⟩

/-- An arena made with room for some points. It has no slots yet, and nothing that it answers
depends on the room. -/
def withCapacity (_room : Nat) : Arena := empty

/-! ## Reading -/

/-- The point that a handle names, if it is live. -/
def find? (a : Arena) (h : Handle) : Option Point :=
  (a.slots[h.index.toNat]?.filter (·.generation == h.generation)).bind (·.point)

/-- The point that a handle names. -/
def get (a : Arena) (h : Handle) : Except PointError Point :=
  match a.find? h with
  | some p => .ok p
  | none => .error (.invalidHandle h)

/-- The first coordinate of a point. -/
def getX (a : Arena) (h : Handle) : Except PointError Int32 := (a.get h).map (·.x)

/-- The second coordinate of a point. -/
def getY (a : Arena) (h : Handle) : Except PointError Int32 := (a.get h).map (·.y)

/-- The distance of two points. The first handle is checked first. -/
def distance (a : Arena) (h k : Handle) : Except PointError Binary64 := do
  let p ← a.get h
  let q ← a.get k
  return p.distance q

/-- Whether a handle names a live point. -/
def contains (a : Arena) (h : Handle) : Bool := (a.find? h).isSome

/-- The number of live points. -/
def size (a : Arena) : Nat := a.live

/-- Whether no point is live. -/
def isEmpty (a : Arena) : Bool := a.live == 0

/-- The number of slots, occupied or vacant. -/
def capacity (a : Arena) : Nat := a.slots.size

/-- The generation of a slot, and 0 where there is none. -/
def generationAt (a : Arena) (index : UInt32) : UInt32 :=
  (a.slots[index.toNat]?.map (·.generation)).getD 0

/-- The indices of the occupied slots, in ascending order. -/
def occupied (a : Arena) : List Nat :=
  (List.range a.slots.size).filter fun i => a.slots[i]?.any Slot.isOccupied

/-! ## Writing -/

/-- The occupied slot that a handle names, if it is live. -/
def liveSlot? (a : Arena) (h : Handle) : Option Slot :=
  a.slots[h.index.toNat]?.filter fun s => s.generation == h.generation && s.isOccupied

/-- The arena with a point put into the slot of a handle. -/
def put (a : Arena) (h : Handle) (p : Point) : Arena :=
  { a with slots := a.slots.modify h.index.toNat fun s => { s with point := some p } }

/-- Change the point that a handle names. The slot is looked up first, then its point. -/
def update (a : Arena) (h : Handle) (f : Point → Point) : Except PointError Arena :=
  match a.liveSlot? h with
  | some slot =>
    match slot.point with
    | some p => .ok (a.put h (f p))
    | none => .error (.invalidHandle h)
  | none => .error (.invalidHandle h)

/-- Replace the point that a handle names. -/
def set (a : Arena) (h : Handle) (p : Point) : Except PointError Arena := a.update h fun _ => p

/-- Replace the first coordinate of a point. -/
def setX (a : Arena) (h : Handle) (x : Int32) : Except PointError Arena :=
  a.update h fun p => { p with x }

/-- Replace the second coordinate of a point. -/
def setY (a : Arena) (h : Handle) (y : Int32) : Except PointError Arena :=
  a.update h fun p => { p with y }

/-! ## Allocating and retiring -/

/-- What an allocation yields. A slot is reused if it was there before, vacant. -/
structure Allocation where
  handle : Handle
  reused : Bool
  arena : Arena

/-- The number of slots that the indices in handles can tell apart. -/
def maxSlots : Nat := UInt32.size

/-- Whether no index is left for one more point: no slot is vacant, and there are as many as
indices can tell apart. -/
def isFull (a : Arena) : Bool := a.free.isEmpty && decide (maxSlots ≤ a.slots.size)

/-- The text of the panic in which an allocation ends when no index is left. -/
def exhaustedText : String :=
  "point arena index space exhausted (" ++ toString maxSlots ++ " slots)"

/-- Add a point at the origin, in the slot vacated last or, if none is vacant, in a new one. The
arena must not be full. -/
def allocate (a : Arena) : Allocation :=
  match a.free with
  | index :: free =>
    { handle := .pack index (a.generationAt index)
      reused := true
      arena :=
        { slots := a.slots.modify index.toNat fun s => { s with point := some .origin }
          free
          live := a.live + 1 } }
  | [] =>
    { handle := .pack (UInt32.ofNat a.slots.size) Slot.fresh.generation
      reused := false
      arena := { slots := a.slots.push .fresh, free := [], live := a.live + 1 } }

/-- The arena after the point in the slot of a handle is retired. -/
def retire (a : Arena) (h : Handle) : Arena where
  slots := a.slots.modify h.index.toNat Slot.retire
  free := h.index :: a.free
  live := a.live - 1

/-- Retire the point that a handle names; the answer holds its last value. -/
def release (a : Arena) (h : Handle) : Except PointError (Point × Arena) :=
  match a.liveSlot? h with
  | some slot => .ok (slot.point.getD .origin, a.retire h)
  | none => .error (.invalidHandle h)

/-- Retire every live point, in ascending order of slots. -/
def clear (a : Arena) : Arena :=
  { slots := a.slots.map Slot.vacate
    free := a.occupied.foldl (fun free index => UInt32.ofNat index :: free) a.free
    live := 0 }

end Arena

end PointBridge
