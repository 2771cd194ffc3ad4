import Mathlib.Data.Finmap
import PointBridge.Proofs.Arena.Find

/-!
# An arena is a map from handles to points

`PointMap` is a finite map from handles to points, on which every command has its obvious meaning
(`PointMap.perform`); only the handle of an allocation is left open. `PointMap.Run` says which
answers a list of commands may get. The answers of an arena are such answers
(`answers_run_pointMap`): stale, forged and null handles are refused, slots that are used again
neither revive nor disturb a handle, and the count of live points is the number of keys.
-/

namespace PointBridge

open Arena (Command Answer maxSlots)

/-! ## The map -/

/-- A finite map from handles to points. -/
abbrev PointMap := Finmap fun _ : Handle => Point

namespace PointMap

/-- Go on with the point under a handle; the command is refused if there is none. -/
def access (m : PointMap) (h : Handle) (f : Point → Answer × PointMap) : Answer × PointMap :=
  match m.lookup h with
  | some p => f p
  | none => (.refused (.invalidHandle h), m)

/-- The number of points in the map. -/
def size (m : PointMap) : Nat := m.keys.card

/-- The answer to a command, and the map afterwards. An allocation binds the handle `fresh`. -/
def perform (m : PointMap) (fresh : Handle) : Command → Answer × PointMap
  | .allocate => (.handle fresh, m.insert fresh .origin)
  | .release h => m.access h fun p => (.point p, m.erase h)
  | .get h => m.access h fun p => (.point p, m)
  | .set h p => m.access h fun _ => (.done, m.insert h p)
  | .getX h => m.access h fun p => (.coordinate p.x, m)
  | .getY h => m.access h fun p => (.coordinate p.y, m)
  | .setX h x => m.access h fun p => (.done, m.insert h ⟨x, p.y⟩)
  | .setY h y => m.access h fun p => (.done, m.insert h ⟨p.x, y⟩)
  | .distance h k => m.access h fun p => m.access k fun q => (.distance (p.distance q), m)
  | .contains h => (.flag (decide (h ∈ m)), m)
  | .size => (.count m.size, m)
  | .isEmpty => (.flag (decide (m.size = 0)), m)
  | .clear => (.done, ∅)

/-- The answers that a list of commands may get from a map. An allocation binds a handle that is
not a key, and there is no answer to it only if no index is left for a key. -/
inductive Run : PointMap → List Command → List Answer → Prop
  /-- No command gets no answer. -/
  | done (m : PointMap) : Run m [] []
  /-- The answer to a command, and then those from the map after it. -/
  | perform {m : PointMap} (fresh : Handle) {c : Command} {cs : List Command}
    {answers : List Answer} (room : c = .allocate → fresh ∉ m ∧ m.size < maxSlots)
    (rest : Run (m.perform fresh c).2 cs answers) :
    Run m (c :: cs) ((m.perform fresh c).1 :: answers)
  /-- An allocation ends in a panic and changes nothing. -/
  | exhausted {m : PointMap} {cs : List Command} {answers : List Answer}
    (full : m.size = maxSlots) (rest : Run m cs answers) :
    Run m (.allocate :: cs) (.exhausted :: answers)

end PointMap

/-! ## Arenas that represent maps -/

namespace Arena

/-- Each handle finds in the arena what the map holds under it, and the arena counts the keys. -/
structure Represents (a : Arena) (m : PointMap) : Prop where
  consistent : a.Consistent
  find?_eq : ∀ h, a.find? h = m.lookup h
  live_eq : a.live = m.size

namespace Represents

variable {a : Arena} {m : PointMap} {h : Handle}

protected theorem empty : Arena.empty.Represents ∅ where
  consistent := .empty
  find?_eq h := by simp [find?, Arena.empty]
  live_eq := rfl

theorem live_iff (r : a.Represents m) : (a.find? h).isSome ↔ h ∈ m := by
  rw [r.find?_eq, Finmap.lookup_isSome]

theorem put (r : a.Represents m) (live : (a.find? h).isSome) (p : Point) :
    (a.put h p).Represents (m.insert h p) where
  consistent := r.consistent.put live p
  find?_eq k := by
    rw [find?_put live]
    split
    next e => rw [e, Finmap.lookup_insert]
    next e => rw [Finmap.lookup_insert_of_ne _ e, r.find?_eq]
  live_eq := by
    have hkeys : (m.insert h p).keys = m.keys := by
      ext k
      simp only [Finmap.mem_keys, Finmap.mem_insert]
      exact or_iff_right_of_imp fun e => e ▸ r.live_iff.1 live
    change a.live = _
    rw [r.live_eq, PointMap.size, PointMap.size, hkeys]

theorem retire (r : a.Represents m) (live : (a.find? h).isSome) :
    (a.retire h).Represents (m.erase h) where
  consistent := r.consistent.retire live
  find?_eq k := by
    rw [find?_retire live]
    split
    next e => rw [e, Finmap.lookup_erase]
    next e => rw [Finmap.lookup_erase_ne e, r.find?_eq]
  live_eq := by
    change a.live - 1 = _
    rw [r.live_eq, PointMap.size, PointMap.size, Finmap.keys_erase,
      Finset.card_erase_of_mem (Finmap.mem_keys.2 (r.live_iff.1 live))]

theorem clear (r : a.Represents m) : a.clear.Represents ∅ where
  consistent := r.consistent.clear
  find?_eq k := by rw [find?_clear, Finmap.lookup_empty]
  live_eq := rfl

theorem live_allocate (a : Arena) : a.allocate.arena.live = a.live + 1 := by
  cases hf : a.free with
  | nil => rw [allocate_of_free_nil hf]
  | cons index rest => rw [allocate_of_free_cons hf]

theorem allocate_handle_notMem (r : a.Represents m) (room : a.isFull = false) :
    a.allocate.handle ∉ m := by
  rw [← r.live_iff, r.consistent.find?_allocate_handle room]
  exact Bool.false_ne_true

theorem allocate (r : a.Represents m) (room : a.isFull = false) :
    a.allocate.arena.Represents (m.insert a.allocate.handle .origin) where
  consistent := r.consistent.move (.allocate room)
  find?_eq k := by
    rw [r.consistent.find?_allocate room]
    split
    next e => rw [e, Finmap.lookup_insert]
    next e => rw [Finmap.lookup_insert_of_ne _ e, r.find?_eq]
  live_eq := by
    have hkeys : (m.insert a.allocate.handle .origin).keys = insert a.allocate.handle m.keys := by
      ext k
      simp only [Finmap.mem_keys, Finmap.mem_insert, Finset.mem_insert]
    rw [live_allocate, r.live_eq, PointMap.size, PointMap.size, hkeys,
      Finset.card_insert_of_notMem (mt Finmap.mem_keys.1 (r.allocate_handle_notMem room))]

/-! ## Commands -/

/-- The outcome of a command on the arena is that of a command on the map. -/
def Matches (o : Outcome) (answer : Answer × PointMap) : Prop :=
  o.answer = answer.1 ∧ o.arena.Represents answer.2

theorem reading (r : a.Represents m) (answer : Answer) : Matches (a.reading answer) (answer, m) :=
  ⟨rfl, r⟩

/-- A handle is refused by both or goes on with the same point in both. -/
theorem access (r : a.Represents m) {f : Point → Outcome} {g : Point → Answer × PointMap}
    (hf : ∀ p, a.find? h = some p → Matches (f p) (g p)) :
    Matches (a.access h f) (m.access h g) := by
  unfold PointMap.access
  cases hp : a.find? h with
  | none =>
    rw [access_of_none hp, ← r.find?_eq, hp]
    exact r.reading _
  | some p =>
    rw [access_of_some hp, ← r.find?_eq, hp]
    exact hf p hp

/-- Every command that adds no point has the same outcome in both. -/
theorem perform (r : a.Represents m) {c : Command} (hc : c ≠ .allocate) (fresh : Handle) :
    Matches (a.perform c) (m.perform fresh c) := by
  cases c with
  | allocate => exact absurd rfl hc
  | release h =>
    rw [perform_release]
    exact r.access fun p hp => ⟨rfl, r.retire (Option.isSome_of_eq_some hp)⟩
  | get h =>
    rw [perform_get]
    exact r.access fun p _ => r.reading _
  | set h p =>
    rw [perform_set]
    exact r.access fun q hq => ⟨rfl, r.put (Option.isSome_of_eq_some hq) p⟩
  | getX h =>
    rw [perform_getX]
    exact r.access fun p _ => r.reading _
  | getY h =>
    rw [perform_getY]
    exact r.access fun p _ => r.reading _
  | setX h x =>
    rw [perform_setX]
    exact r.access fun q hq => ⟨rfl, r.put (Option.isSome_of_eq_some hq) _⟩
  | setY h y =>
    rw [perform_setY]
    exact r.access fun q hq => ⟨rfl, r.put (Option.isSome_of_eq_some hq) _⟩
  | distance h k =>
    rw [perform_distance]
    exact r.access fun p _ => r.access fun q _ => r.reading _
  | contains h =>
    refine ⟨congrArg Answer.flag ?_, r⟩
    rw [Bool.eq_iff_iff, decide_eq_true_iff]
    exact r.live_iff
  | size => exact ⟨congrArg Answer.count r.live_eq, r⟩
  | isEmpty =>
    refine ⟨congrArg Answer.flag ?_, r⟩
    rw [Bool.eq_iff_iff, decide_eq_true_iff, ← r.live_eq]
    exact beq_iff_eq
  | clear => exact ⟨rfl, r.clear⟩

/-! ## Runs -/

/-- The answers of an arena are answers that the map may give. -/
theorem run (r : a.Represents m) (cs : List Command) : PointMap.Run m cs (a.answers cs) := by
  induction cs generalizing a m with
  | nil => exact .done m
  | cons c cs ih =>
    by_cases hc : c = .allocate
    · subst hc
      cases hroom : a.isFull with
      | true =>
        have hfull : m.size = maxSlots := by
          have hsize := r.consistent.size_le
          have hsum := r.consistent.free_length_add_live
          have hnot : ¬ a.live < maxSlots := by simp [← r.consistent.isFull_eq_false_iff, hroom]
          rw [← r.live_eq]
          omega
        rw [answers, perform_allocate_of_full hroom]
        exact .exhausted hfull (ih r)
      | false =>
        have hlt := r.consistent.isFull_eq_false_iff.1 hroom
        rw [r.live_eq] at hlt
        rw [answers, perform_allocate_of_room hroom]
        exact .perform a.allocate.handle
          (fun _ => ⟨r.allocate_handle_notMem hroom, hlt⟩) (ih (r.allocate hroom))
    · have hm := r.perform hc default
      rw [answers, hm.1]
      exact .perform default (fun e => absurd e hc) (ih hm.2)

end Represents

/-- **An arena answers like a map.** The answers of a new arena, made with or without room, to any
commands with any handles are answers of the empty map: an allocation gives a handle that is not a
key and binds it to the origin, and every other command answers what the map holds. -/
theorem answers_run_pointMap (cs : List Command) :
    PointMap.Run ∅ cs (Arena.empty.answers cs) ∧
      ∀ room, PointMap.Run ∅ cs ((Arena.withCapacity room).answers cs) :=
  ⟨Represents.empty.run cs, fun _ => Represents.empty.run cs⟩

end Arena

end PointBridge
