import PointBridge.Arena.Command
import PointBridge.Proofs.Handle

/-!
# What commands do to an arena

Everything that an arena answers about a handle is read off `Arena.find?`, for which there is one
description (`find?_eq_some_iff`). A command on a handle first asks for the point there and is
refused if there is none (`access`, `perform_release` to `perform_distance`).

`Effect` lists all that a command can come to, with its answer and the arena after it, and
`perform_effect` says that there is nothing else. Without the answers, an effect is one of five
moves: it adds a point, puts another value in the place of a live one, retires a live one, retires
all, or changes nothing. `Move` lists these, each with the slots that it retires.
-/

namespace PointBridge

open Trace (Event)

namespace Arena

/-! ## Finding points -/

section Finding

variable {a : Arena} {h : Handle} {p : Point}

/-- A handle finds a point where its slot holds one in the generation of the handle. -/
theorem find?_eq_some_iff :
    a.find? h = some p ↔ a.slots[h.index.toNat]? = some ⟨h.generation, some p⟩ := by
  unfold find?
  cases hs : a.slots[h.index.toNat]? with
  | none => simp
  | some s =>
    obtain ⟨g, q⟩ := s
    by_cases hg : g = h.generation <;> simp [Option.filter, hg]

theorem find?_isSome_iff : (a.find? h).isSome ↔ ∃ s, a.slots[h.index.toNat]? = some s ∧
    s.generation = h.generation ∧ s.point.isSome := by
  rw [Option.isSome_iff_exists]
  constructor
  · rintro ⟨p, hp⟩
    exact ⟨_, find?_eq_some_iff.1 hp, rfl, rfl⟩
  · rintro ⟨⟨g, q⟩, hs, rfl, hq⟩
    obtain ⟨p, rfl⟩ := Option.isSome_iff_exists.1 hq
    exact ⟨p, find?_eq_some_iff.2 hs⟩

/-- What a handle finds depends on its slot only. -/
theorem find?_congr {b : Arena} (e : a.slots[h.index.toNat]? = b.slots[h.index.toNat]?) :
    a.find? h = b.find? h := by
  unfold find?
  rw [e]

/-- Writing finds a slot where reading finds a point, and that slot holds this point. -/
theorem liveSlot?_eq (a : Arena) (h : Handle) :
    a.liveSlot? h = (a.find? h).map fun p => ⟨h.generation, some p⟩ := by
  unfold liveSlot? find?
  cases hs : a.slots[h.index.toNat]? with
  | none => rfl
  | some s =>
    obtain ⟨g, _ | q⟩ := s
    · by_cases hg : g = h.generation <;> simp [Option.filter, Slot.isOccupied, hg]
    · by_cases hg : g = h.generation <;> simp [Option.filter, Slot.isOccupied, hg]

theorem update_eq (a : Arena) (h : Handle) (f : Point → Point) :
    a.update h f = match a.find? h with
      | some p => .ok (a.put h (f p))
      | none => .error (.invalidHandle h) := by
  unfold update
  rw [liveSlot?_eq]
  cases a.find? h <;> rfl

theorem release_eq (a : Arena) (h : Handle) :
    a.release h = match a.find? h with
      | some p => .ok (p, a.retire h)
      | none => .error (.invalidHandle h) := by
  unfold release
  rw [liveSlot?_eq]
  cases a.find? h <;> rfl

end Finding

/-! ## Commands on a handle -/

/-- Go on with the point that a handle names; the command is refused if there is none. -/
def access (a : Arena) (h : Handle) (f : Point → Outcome) : Outcome :=
  match a.find? h with
  | some p => f p
  | none => a.reading (.refused (.invalidHandle h))

theorem access_of_some {a : Arena} {h : Handle} {p : Point} (hp : a.find? h = some p)
    (f : Point → Outcome) : a.access h f = f p := by
  simp only [access, hp]

theorem access_of_none {a : Arena} {h : Handle} (hp : a.find? h = none) (f : Point → Outcome) :
    a.access h f = a.reading (.refused (.invalidHandle h)) := by
  simp only [access, hp]

/-- What is refused for a handle, and not later, is refused since the handle is not live. -/
theorem dead_of_access_refused {a : Arena} {h : Handle} {f : Point → Outcome} {err : PointError}
    (refused : (a.access h f).answer = .refused err) (hf : ∀ p, (f p).answer ≠ .refused err) :
    a.contains h = false ∧ err = .invalidHandle h := by
  cases hp : a.find? h with
  | none =>
    rw [access_of_none hp] at refused
    exact ⟨by simp [contains, hp], (Answer.refused.inj refused).symm⟩
  | some p =>
    rw [access_of_some hp] at refused
    exact absurd refused (hf p)

variable (a : Arena) (h k : Handle)

section OnHandles

-- The equations of `perform` are derived here, once for all of the proofs below.
attribute [local simp] perform

theorem perform_release :
    a.perform (.release h) = a.access h fun p => ⟨.point p, a.retire h, []⟩ := by
  simp only [perform, release_eq, access]
  cases a.find? h <;> rfl

theorem perform_get : a.perform (.get h) = a.access h fun p => a.reading (.point p) := by
  simp only [perform, get, access]
  cases a.find? h <;> rfl

theorem perform_set (p : Point) :
    a.perform (.set h p) = a.access h fun _ => ⟨.done, a.put h p, []⟩ := by
  simp only [perform, set, update_eq, access]
  cases a.find? h <;> rfl

theorem perform_getX : a.perform (.getX h) = a.access h fun p => a.reading (.coordinate p.x) := by
  simp only [perform, getX, get, access]
  cases a.find? h <;> rfl

theorem perform_getY : a.perform (.getY h) = a.access h fun p => a.reading (.coordinate p.y) := by
  simp only [perform, getY, get, access]
  cases a.find? h <;> rfl

theorem perform_setX (x : Int32) :
    a.perform (.setX h x) = a.access h fun p => ⟨.done, a.put h { p with x }, []⟩ := by
  simp only [perform, setX, update_eq, access]
  cases a.find? h <;> rfl

theorem perform_setY (y : Int32) :
    a.perform (.setY h y) = a.access h fun p => ⟨.done, a.put h { p with y }, []⟩ := by
  simp only [perform, setY, update_eq, access]
  cases a.find? h <;> rfl

theorem perform_distance : a.perform (.distance h k) =
    a.access h fun p => a.access k fun q => a.reading (.distance (p.distance q)) := by
  simp only [perform, distance, get, access]
  cases a.find? h with
  | none => rfl
  | some p => cases a.find? k <;> rfl

end OnHandles

/-! ## Slots after a change -/

@[simp] theorem getElem?_slots_put (p : Point) (i : Nat) : (a.put h p).slots[i]? =
    if h.index.toNat = i then a.slots[i]?.map fun s => { s with point := some p }
    else a.slots[i]? := by
  simp only [put, Array.getElem?_modify]

@[simp] theorem getElem?_slots_retire (i : Nat) : (a.retire h).slots[i]? =
    if h.index.toNat = i then a.slots[i]?.map Slot.retire else a.slots[i]? := by
  simp only [retire, Array.getElem?_modify]

@[simp] theorem getElem?_slots_clear (i : Nat) :
    a.clear.slots[i]? = a.slots[i]?.map Slot.vacate := by
  simp only [clear, Array.getElem?_map]

@[simp] theorem size_slots_put (p : Point) : (a.put h p).slots.size = a.slots.size :=
  Array.size_modify

@[simp] theorem size_slots_retire : (a.retire h).slots.size = a.slots.size := Array.size_modify

@[simp] theorem size_slots_clear : a.clear.slots.size = a.slots.size := Array.size_map ..

section Allocating

theorem perform_allocate_of_full {a : Arena} (full : a.isFull = true) :
    a.perform .allocate = ⟨.exhausted, a, []⟩ := by
  simp [perform, full]

theorem perform_allocate_of_room {a : Arena} (room : a.isFull = false) : a.perform .allocate =
    ⟨.handle a.allocate.handle, a.allocate.arena, a.allocate.events⟩ := by
  simp [perform, room]

variable {a} {index : UInt32} {rest : List UInt32}

/-- Only an allocation from a full arena panics. -/
theorem answer_eq_exhausted_iff {c : Command} :
    (a.perform c).answer = .exhausted ↔ c = .allocate ∧ a.isFull = true := by
  cases c with
  | allocate => cases hfull : a.isFull <;> simp [perform, hfull]
  | release h => cases hr : a.release h <;> simp [perform, hr]
  | get h => cases hr : a.get h <;> simp [perform, reading, Answer.ofResult, hr]
  | getX h => cases hr : a.getX h <;> simp [perform, reading, Answer.ofResult, hr]
  | getY h => cases hr : a.getY h <;> simp [perform, reading, Answer.ofResult, hr]
  | set h p => cases hr : a.set h p <;> simp [perform, writing, hr]
  | setX h x => cases hr : a.setX h x <;> simp [perform, writing, hr]
  | setY h y => cases hr : a.setY h y <;> simp [perform, writing, hr]
  | distance h k => cases hr : a.distance h k <;> simp [perform, reading, Answer.ofResult, hr]
  | contains | size | isEmpty | clear => simp [perform, reading]

/-- An allocation uses the slot on top of the stack of vacant ones, in its present generation. -/
theorem allocate_of_free_cons (hf : a.free = index :: rest) : a.allocate =
    ⟨.pack index (a.generationAt index), true,
      { a.put (.pack index (a.generationAt index)) .origin with
        free := rest, live := a.live + 1 }⟩ := by
  simp [allocate, hf, put]

/-- An allocation adds a slot if no slot is vacant. -/
theorem allocate_of_free_nil (hf : a.free = []) : a.allocate =
    ⟨.pack (.ofNat a.slots.size) 1, false, ⟨a.slots.push .fresh, [], a.live + 1⟩⟩ := by
  simp [allocate, hf, Slot.fresh]

end Allocating

/-! ## Effects -/

/-- The handle whose point a command may change, if there is one. -/
def Command.target? : Command → Option Handle
  | .release h | .set h _ | .setX h _ | .setY h _ => some h
  | _ => none

/-- What a command on an arena can come to. -/
inductive Effect (a : Arena) : Command → Outcome → Prop
  /-- An allocation adds a point. -/
  | allocate (room : a.isFull = false) :
    Effect a .allocate ⟨.handle a.allocate.handle, a.allocate.arena, a.allocate.events⟩
  /-- An allocation panics. -/
  | exhausted (full : a.isFull = true) : Effect a .allocate ⟨.exhausted, a, []⟩
  /-- A live point is retired. -/
  | release {h : Handle} {p : Point} (hp : a.find? h = some p) :
    Effect a (.release h) ⟨.point p, a.retire h, []⟩
  /-- A live point gets another value. -/
  | put {c : Command} {h : Handle} {p : Point} (target : c.target? = some h)
    (keeps : c ≠ .release h) (hp : a.find? h = some p) (q : Point) :
    Effect a c ⟨.done, a.put h q, []⟩
  /-- All points are retired. -/
  | clear : Effect a .clear ⟨.done, a.clear, []⟩
  /-- Nothing changes. -/
  | read {c : Command} {answer : Answer} (notAllocate : c ≠ .allocate) (notClear : c ≠ .clear)
    (dead : ∀ h, c = .release h → a.find? h = none) (noHandle : ∀ h, answer ≠ .handle h) :
    Effect a c (a.reading answer)

variable {a h} in
/-- A command on a handle is refused or has the effect that it has on the point there. -/
theorem Effect.access {c : Command} {f : Point → Outcome} (notAllocate : c ≠ .allocate)
    (notClear : c ≠ .clear) (on : ∀ k, c = .release k → k = h)
    (hf : ∀ p, a.find? h = some p → Effect a c (f p)) : Effect a c (a.access h f) := by
  cases hp : a.find? h with
  | none =>
    rw [access_of_none hp]
    exact .read notAllocate notClear (fun k e => on k e ▸ hp) nofun
  | some p =>
    rw [access_of_some hp]
    exact hf p hp

/-- **Every command has one of these effects.** -/
theorem perform_effect (c : Command) : Effect a c (a.perform c) := by
  cases c with
  | allocate =>
    cases room : a.isFull with
    | true =>
      rw [perform_allocate_of_full room]
      exact .exhausted room
    | false =>
      rw [perform_allocate_of_room room]
      exact .allocate room
  | release h =>
    rw [perform_release]
    exact .access nofun nofun (fun k e => Command.release.inj e.symm) fun p hp => .release hp
  | get h =>
    rw [perform_get]
    exact .access nofun nofun nofun fun p _ => .read nofun nofun nofun nofun
  | set h q =>
    rw [perform_set]
    exact .access nofun nofun nofun fun p hp => .put (c := .set h q) rfl nofun hp q
  | getX h =>
    rw [perform_getX]
    exact .access nofun nofun nofun fun p _ => .read nofun nofun nofun nofun
  | getY h =>
    rw [perform_getY]
    exact .access nofun nofun nofun fun p _ => .read nofun nofun nofun nofun
  | setX h x =>
    rw [perform_setX]
    exact .access nofun nofun nofun fun p hp => .put (c := .setX h x) rfl nofun hp _
  | setY h y =>
    rw [perform_setY]
    exact .access nofun nofun nofun fun p hp => .put (c := .setY h y) rfl nofun hp _
  | distance h k =>
    rw [perform_distance]
    exact .access nofun nofun nofun fun p _ =>
      .access nofun nofun nofun fun q _ => .read nofun nofun nofun nofun
  | clear => exact .clear
  | contains | size | isEmpty => exact .read nofun nofun nofun nofun

variable {a} in
/-- A command reports nothing but the reuse of a slot. -/
theorem eq_slotReused_of_mem_events {c : Command} {e : Event} (h : e ∈ (a.perform c).events) :
    ∃ k, e = .slotReused k := by
  have effect := a.perform_effect c
  revert h
  generalize a.perform c = o at effect
  intro h
  cases effect with
  | allocate room =>
    unfold Allocation.events at h
    split at h
    next => exact ⟨_, List.mem_singleton.1 h⟩
    next => cases h
  | exhausted | release | put | clear | read => cases h

/-- The slots that a command retires, in order. -/
def retired (a : Arena) : Command → List Nat
  | .release h => if a.contains h then [h.index.toNat] else []
  | .clear => a.occupied
  | _ => []

/-- A change of an arena, with the slots that it retires. -/
inductive Move (a : Arena) : List Nat → Arena → Prop
  /-- Nothing changes. -/
  | stay : Move a [] a
  /-- A point is added. -/
  | allocate (room : a.isFull = false) : Move a [] a.allocate.arena
  /-- A live point gets another value. -/
  | put {h : Handle} (live : (a.find? h).isSome) (p : Point) : Move a [] (a.put h p)
  /-- A live point is retired. -/
  | retire {h : Handle} (live : (a.find? h).isSome) : Move a [h.index.toNat] (a.retire h)
  /-- All live points are retired. -/
  | clear : Move a a.occupied a.clear

variable {a} in
theorem Effect.move {c : Command} {o : Outcome} (e : Effect a c o) :
    Move a (a.retired c) o.arena := by
  cases e with
  | allocate room => exact .allocate room
  | exhausted full => exact .stay
  | @release h p hp =>
    have live := Option.isSome_of_eq_some hp
    have hr : a.retired (.release h) = [h.index.toNat] := if_pos live
    rw [hr]
    exact .retire live
  | put target keeps hp q =>
    have hr : a.retired c = [] := by
      cases c with
      | release k => exact absurd (congrArg Command.release (Option.some.inj target)) keeps
      | clear => cases target
      | _ => rfl
    rw [hr]
    exact .put (Option.isSome_of_eq_some hp) q
  | clear => exact .clear
  | read notAllocate notClear dead noHandle =>
    have hr : a.retired c = [] := by
      cases c with
      | release k => exact if_neg (Option.not_isSome_iff_eq_none.2 (dead k rfl))
      | clear => exact absurd rfl notClear
      | _ => rfl
    rw [hr]
    exact .stay

/-- **Every command is a move.** -/
theorem perform_move (c : Command) : Move a (a.retired c) (a.perform c).arena :=
  (a.perform_effect c).move

/-- An arena gives back no slots. -/
theorem Move.size_slots_le {retired : List Nat} {b : Arena} (m : Move a retired b) :
    a.slots.size ≤ b.slots.size := by
  cases m with
  | stay => exact Nat.le_refl _
  | allocate =>
    cases hf : a.free with
    | nil =>
      rw [allocate_of_free_nil hf]
      simp
    | cons index rest =>
      rw [allocate_of_free_cons hf]
      exact Nat.le_of_eq (size_slots_put ..).symm
  | put live p => exact Nat.le_of_eq (size_slots_put ..).symm
  | retire live => exact Nat.le_of_eq (size_slots_retire ..).symm
  | clear => exact Nat.le_of_eq (size_slots_clear ..).symm

end Arena

end PointBridge
