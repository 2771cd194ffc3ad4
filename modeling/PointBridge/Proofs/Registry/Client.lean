import PointBridge.Proofs.Arena.Taken
import PointBridge.Proofs.Registry.Course

/-!
# Clients of the registry

Any number of clients share one registry. A client calls it with null and with the handles that it
obtained itself, which it may have freed since. It sees the answers with these handles renamed to
the order in which it obtained them, so that what it sees does not say by itself which slots were
free for it.

`World` is a bridge with the handles that each client has obtained, and a schedule is a list of
calls, each with the client that makes it: an interleaving of the programs of all clients, where
`callsOf` gives back the program of one. `Memory` is what a client would work on if its points were
its own: a list of points in the order of allocation, where a freed one leaves a gap. It knows
nothing of slots, generations or other clients.
-/

namespace PointBridge

namespace Client

/-! ## Calls -/

/-- A handle as a client writes it: null, or the one that it obtained so many allocations after
its first. -/
inductive Ref where
  | null
  | own (k : Nat)
deriving DecidableEq

/-- A call of a client. -/
inductive Call where
  | allocate
  | free (r : Ref)
  | getX (r : Ref)
  | getY (r : Ref)
  | setX (r : Ref) (x : Int32)
  | setY (r : Ref) (y : Int32)
  | distance (r s : Ref)
deriving DecidableEq

/-- The handle that a client with these handles means. An allocation that it has not made yet
gives null. -/
def Ref.resolve (own : List Handle) : Ref → Handle
  | .null => .null
  | .own k => own.getD k .null

theorem Ref.resolve_of_lt {own : List Handle} {k : Nat} (hk : k < own.length) :
    (Ref.own k).resolve own = own[k] := by
  simp [resolve, List.getD_eq_getElem?_getD, List.getElem?_eq_getElem hk]

theorem Ref.resolve_of_le {own : List Handle} {k : Nat} (hk : own.length ≤ k) :
    (Ref.own k).resolve own = .null := by
  simp [resolve, List.getD_eq_getElem?_getD, List.getElem?_eq_none hk]

/-- A client means null or a handle of its own. -/
theorem Ref.resolve_mem (own : List Handle) (r : Ref) :
    r.resolve own = .null ∨ r.resolve own ∈ own := by
  cases r with
  | null => exact .inl rfl
  | own k =>
    rcases Nat.lt_or_ge k own.length with hk | hk
    · rw [resolve_of_lt hk]
      exact .inr (List.getElem_mem hk)
    · exact .inl (resolve_of_le hk)

/-- The call to the registry that a client with these handles makes. -/
def Call.resolve (own : List Handle) : Call → Registry.Call
  | .allocate => .allocate
  | .free r => .free (r.resolve own)
  | .getX r => .getX (r.resolve own)
  | .getY r => .getY (r.resolve own)
  | .setX r x => .setX (r.resolve own) x
  | .setY r y => .setY (r.resolve own) y
  | .distance r s => .distance (r.resolve own) (s.resolve own)

/-! ## What a client sees -/

/-- A handle as a client sees it: its own by the order of allocation, any other as it is. -/
inductive Name where
  | own (k : Nat)
  | foreign (h : Handle)
deriving DecidableEq

/-- The name of a handle for a client with these handles. -/
def nameOf (own : List Handle) (h : Handle) : Name :=
  if h ∈ own then .own (own.idxOf h) else .foreign h

/-- What a client sees of a call. -/
inductive Seen where
  /-- A new handle. -/
  | handle (n : Name)
  /-- The call was refused since this handle names no live point. -/
  | refused (n : Name)
  /-- An answer without a handle in it. -/
  | answer (answer : Arena.Answer)
  /-- The call panicked. -/
  | panicked (p : Payload)
deriving DecidableEq

/-- What a client with these handles sees of the result of a call. -/
def Seen.of (own : List Handle) : Except Payload Arena.Answer → Seen
  | .ok (.handle h) => .handle (nameOf own h)
  | .ok (.refused (.invalidHandle h)) => .refused (nameOf own h)
  | .ok a => .answer a
  | .error p => .panicked p

/-- The handles that a client obtains by the result of a call. -/
def obtained : Except Payload Arena.Answer → List Handle
  | .ok a => a.handle?.toList
  | .error _ => []

/-! ## The memory of one client -/

/-- The points of one client in the order of allocation, with nothing where one was freed. -/
abbrev Memory := List (Option Point)

namespace Memory

/-- The point that a client means. -/
def find (m : Memory) : Ref → Option Point
  | .null => none
  | .own k => m.getD k none

/-- Replace the point that a client means, or free it. -/
def put (m : Memory) (value : Option Point) : Ref → Memory
  | .null => m
  | .own k => m.set k value

/-- The name of the handle that a client means. -/
def name (m : Memory) : Ref → Name
  | .null => .foreign .null
  | .own k => if k < m.length then .own k else .foreign .null

/-- Go on with the point that a client means, or refuse if there is none. -/
def access (m : Memory) (r : Ref) (f : Point → Seen × Memory) : Seen × Memory :=
  match m.find r with
  | some p => f p
  | none => (.refused (m.name r), m)

/-- What the client sees of a call, and its memory afterwards. -/
def step (m : Memory) : Call → Seen × Memory
  | .allocate => (.handle (.own m.length), m ++ [some .origin])
  | .free r => m.access r fun p => (.answer (.point p), m.put none r)
  | .getX r => m.access r fun p => (.answer (.coordinate p.x), m)
  | .getY r => m.access r fun p => (.answer (.coordinate p.y), m)
  | .setX r x => m.access r fun p => (.answer .done, m.put (some { p with x }) r)
  | .setY r y => m.access r fun p => (.answer .done, m.put (some { p with y }) r)
  | .distance r s => m.access r fun p => m.access s fun q => (.answer (.distance (p.distance q)), m)

/-- What the client sees of several calls. -/
def seen (m : Memory) : List Call → List Seen
  | [] => []
  | c :: cs => (m.step c).1 :: seen (m.step c).2 cs

/-- The number of points. -/
def size (m : Memory) : Nat := m.countP Option.isSome

/-- The greatest number of points in the course of several calls. -/
def peak (m : Memory) : List Call → Nat
  | [] => m.size
  | c :: cs => max m.size (peak (m.step c).2 cs)

end Memory

end Client

/-! ## Several clients -/

/-- A bridge with the handles that each client has obtained, in order. -/
structure World (ι : Type) where
  bridge : Bridge
  handles : ι → List Handle

namespace World

open Client

variable {ι : Type} [DecidableEq ι]

/-- A bridge whose clients have obtained nothing yet. -/
def start (b : Bridge) : World ι := ⟨b, fun _ => []⟩

/-- The arena of the registry. -/
def arena (w : World ι) : Arena := w.bridge.registry.arena

/-- The memory of one client: what its handles find now. -/
def memory (w : World ι) (i : ι) : Memory := (w.handles i).map w.arena.find?

/-- The command to the arena that a call of a client gives. -/
def command (w : World ι) (i : ι) (c : Call) : Arena.Command := (c.resolve (w.handles i)).command

/-- A call of a client, with what the client sees of it. -/
def step (w : World ι) (i : ι) (c : Call) : Seen × World ι :=
  let (result, bridge) := w.bridge.carryOut (Registry.call (c.resolve (w.handles i)))
  let own := w.handles i ++ obtained result
  (.of own result, ⟨bridge, Function.update w.handles i own⟩)

/-- The world after a schedule. -/
def after (w : World ι) (schedule : List (ι × Call)) : World ι :=
  schedule.foldl (fun w e => (w.step e.1 e.2).2) w

/-- What one client sees of a schedule. -/
def seenBy (w : World ι) (i : ι) : List (ι × Call) → List Seen
  | [] => []
  | (j, c) :: rest =>
    let next := (w.step j c).2
    if j = i then (w.step j c).1 :: next.seenBy i rest else next.seenBy i rest

/-- The slots that a schedule retires, in order. -/
def retirements (w : World ι) : List (ι × Call) → List Nat
  | [] => []
  | (j, c) :: rest =>
    w.arena.retired (w.command j c) ++ retirements (w.step j c).2 rest

/-- The program of one client in a schedule. -/
def callsOf (i : ι) (schedule : List (ι × Call)) : List Call :=
  schedule.filterMap fun e => if e.1 = i then some e.2 else none

/-- The schedule in which one client is alone. -/
def alone (i : ι) (program : List Call) : List (ι × Call) := program.map (i, ·)

end World

end PointBridge
