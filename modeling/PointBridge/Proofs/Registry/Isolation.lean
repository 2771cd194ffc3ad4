import PointBridge.Proofs.Registry.World

/-!
# Clients do not disturb each other

Which slot an allocation uses depends on what all clients did before, so a client gets other
handles in another schedule. What it sees does not depend on that: it is what it sees on a memory
of its own (`seenBy_eq`), and so what it sees alone (`seenBy_eq_alone`).

The invariant is `Sound`. The handles of all clients differ, and each is taken for the retirements
that are still to come: no allocation gives it again, be it freed or not. So a call changes a point
of the client that makes it, and no other memory (`Sound.memory_step_of_ne`). That there is room
for a client alone follows from the room for all clients, since its points are among theirs
(`peak_le`, `OwnedBy.roomy`).
-/

namespace PointBridge

open Client

/-! ## One client and the arena -/

namespace Client

section OneClient

variable {a : Arena} {own : List Handle}

theorem find?_resolve (ha : a.Consistent) (r : Ref) :
    a.find? (r.resolve own) = Memory.find (own.map a.find?) r := by
  cases r with
  | null => exact ha.find?_null
  | own k =>
    simp only [Ref.resolve, Memory.find, List.getD_eq_getElem?_getD, List.getElem?_map]
    cases own[k]? with
    | none => exact ha.find?_null
    | some h => rfl

variable (nodup : own.Nodup) (null : .null ∉ own)
include nodup null

theorem nameOf_resolve (f : Handle → Option Point) (r : Ref) :
    nameOf own (r.resolve own) = Memory.name (own.map f) r := by
  cases r with
  | null => exact if_neg null
  | own k =>
    simp only [Memory.name, List.length_map, nameOf]
    rcases Nat.lt_or_ge k own.length with hk | hk
    · rw [Ref.resolve_of_lt hk, if_pos (List.getElem_mem hk), if_pos hk, nodup.idxOf_getElem]
    · rw [Ref.resolve_of_le hk, if_neg null, if_neg (Nat.not_lt.2 hk)]

theorem map_update_resolve (f : Handle → Option Point) (value : Option Point) (r : Ref) :
    own.map (Function.update f (r.resolve own) value) = Memory.put (own.map f) value r := by
  rw [nodup.map_update]
  cases r with
  | null => exact if_neg null
  | own k =>
    simp only [Memory.put]
    rcases Nat.lt_or_ge k own.length with hk | hk
    · rw [Ref.resolve_of_lt hk, if_pos (List.getElem_mem hk), nodup.idxOf_getElem]
    · rw [Ref.resolve_of_le hk, if_neg null, List.set_eq_of_length_le (by simpa using hk)]

theorem map_find?_retire {r : Ref} {p : Point} (hp : a.find? (r.resolve own) = some p) :
    own.map (a.retire (r.resolve own)).find? = Memory.put (own.map a.find?) none r := by
  rw [← map_update_resolve nodup null]
  refine List.map_congr_left fun k _ => ?_
  rw [Arena.find?_retire (Option.isSome_of_eq_some hp), Function.update_apply]

theorem map_find?_put {r : Ref} {p : Point} (hp : a.find? (r.resolve own) = some p) (q : Point) :
    own.map (a.put (r.resolve own) q).find? = Memory.put (own.map a.find?) (some q) r := by
  rw [← map_update_resolve nodup null]
  refine List.map_congr_left fun k _ => ?_
  rw [Arena.find?_put (Option.isSome_of_eq_some hp), Function.update_apply]

end OneClient

/-- What a client sees of an outcome, and what its handles find then. -/
def Shows (own : List Handle) (o : Arena.Outcome) (s : Seen × Memory) : Prop :=
  Seen.of own (.ok o.answer) = s.1 ∧ own.map o.arena.find? = s.2

section OneClient

variable {a : Arena} {own : List Handle} (ha : a.Consistent) (nodup : own.Nodup)
  (null : .null ∉ own)
include ha nodup null

/-- A client is refused, or goes on, as on its memory. -/
theorem Shows.access {r : Ref} {f : Point → Arena.Outcome} {g : Point → Seen × Memory}
    (hf : ∀ p, a.find? (r.resolve own) = some p → Shows own (f p) (g p)) :
    Shows own (a.access (r.resolve own) f) (Memory.access (own.map a.find?) r g) := by
  unfold Memory.access
  rw [← find?_resolve ha]
  cases hp : a.find? (r.resolve own) with
  | none =>
    rw [Arena.access_of_none hp]
    exact ⟨congrArg Seen.refused (nameOf_resolve nodup null _ r), rfl⟩
  | some p =>
    rw [Arena.access_of_some hp]
    exact hf p hp

/-- Every call but an allocation shows a client what it shows on its memory. -/
theorem shows_perform {c : Call} (hc : c ≠ .allocate) :
    Shows own (a.perform (c.resolve own).command) (Memory.step (own.map a.find?) c) := by
  cases c with
  | allocate => exact absurd rfl hc
  | free r =>
    simp only [Call.resolve, Registry.Call.command]
    rw [Arena.perform_release]
    exact Shows.access ha nodup null fun p hp => ⟨rfl, map_find?_retire nodup null hp⟩
  | getX r =>
    simp only [Call.resolve, Registry.Call.command]
    rw [Arena.perform_getX]
    exact Shows.access ha nodup null fun p _ => ⟨rfl, rfl⟩
  | getY r =>
    simp only [Call.resolve, Registry.Call.command]
    rw [Arena.perform_getY]
    exact Shows.access ha nodup null fun p _ => ⟨rfl, rfl⟩
  | setX r x =>
    simp only [Call.resolve, Registry.Call.command]
    rw [Arena.perform_setX]
    exact Shows.access ha nodup null fun p hp => ⟨rfl, map_find?_put nodup null hp _⟩
  | setY r y =>
    simp only [Call.resolve, Registry.Call.command]
    rw [Arena.perform_setY]
    exact Shows.access ha nodup null fun p hp => ⟨rfl, map_find?_put nodup null hp _⟩
  | distance r s =>
    simp only [Call.resolve, Registry.Call.command]
    rw [Arena.perform_distance]
    exact Shows.access ha nodup null fun p _ =>
      Shows.access ha nodup null fun q _ => ⟨rfl, rfl⟩

end OneClient

/-- An allocation shows a client its next number, and the origin there. -/
theorem shows_allocate {a : Arena} {own : List Handle} (ha : a.Consistent)
    (room : a.isFull = false) (fresh : a.allocate.handle ∉ own) :
    Shows (own ++ [a.allocate.handle]) (a.perform .allocate)
      (Memory.step (own.map a.find?) .allocate) := by
  rw [Arena.perform_allocate_of_room room]
  constructor
  · have hname : nameOf (own ++ [a.allocate.handle]) a.allocate.handle = .own own.length := by
      unfold nameOf
      rw [if_pos (by simp), List.idxOf_append_of_notMem fresh]
      simp
    simp only [Seen.of, Memory.step, hname, List.length_map]
  · rw [List.map_append, List.map_singleton, ha.find?_allocate room, if_pos rfl]
    refine congrArg (· ++ [some Point.origin]) (List.map_congr_left fun k hk => ?_)
    have hne : k ≠ a.allocate.handle := fun e => fresh (e ▸ hk)
    rw [ha.find?_allocate room, if_neg hne]

end Client

namespace World

variable {ι : Type} {w : World ι} {i j : ι} {c : Call} {h : Handle}

variable [DecidableEq ι]

/-! ## The handles of all clients -/

/-- The handles of the clients are sound if so many retirements of each slot are to come: all are
taken for that long, none is null and none was given twice. -/
structure Sound (w : World ι) (left : Nat → Nat) : Prop where
  consistent : w.arena.Consistent
  quiet : w.bridge.alarm = none
  left_lt : ∀ slot, left slot < Slot.generationCount
  taken : ∀ i, ∀ h ∈ w.handles i, w.arena.Taken (left h.index.toNat) h
  null_notMem : ∀ i, .null ∉ w.handles i
  nodup : ∀ i, (w.handles i).Nodup
  eq_of_mem : ∀ i j h, h ∈ w.handles i → h ∈ w.handles j → i = j

namespace Sound

variable {left : Nat → Nat} (s : w.Sound left) (room : w.arena.isFull = false)
include s room

omit [DecidableEq ι] in
/-- No client has the handle that an allocation gives. -/
theorem notMem_of_answer (given : (w.arena.perform (w.command j c)).answer = .handle h) (i : ι) :
    h ∉ w.handles i := by
  obtain ⟨-, -, hk⟩ := Arena.answer_eq_handle_iff.1 given
  exact fun hm => (s.taken i h hm).allocate_handle_ne s.consistent room hk

/-- **A call keeps the handles sound** for the retirements that are left after it. -/
theorem step {left' : Nat → Nat} (hleft : ∀ slot,
    left slot = (w.arena.retired (w.command j c)).count slot + left' slot) :
    (w.step j c).2.Sound left' := by
  have hlt : ∀ slot, left' slot < Slot.generationCount := fun slot => by
    have := s.left_lt slot
    rw [hleft] at this
    omega
  have ha : (w.step j c).2.arena.Consistent := by
    rw [arena_step s.quiet]
    exact s.consistent.perform _
  refine ⟨ha, quiet_step s.quiet, hlt, fun i h hm => ?_, fun i hm => ?_, fun i => ?_,
    fun i k h hi hk => ?_⟩
  · rcases (mem_handles_step s.quiet room).1 hm with old | ⟨-, given⟩
    · have m := w.arena.perform_move (w.command j c)
      have := (s.taken i h old).move s.consistent m (by rw [hleft]; omega)
      rwa [hleft, Nat.add_sub_cancel_left, ← arena_step s.quiet] at this
    · refine ha.taken_of_live ?_ (hlt _)
      rw [arena_step s.quiet]
      exact (s.consistent.live_perform_iff _ h).2 (.inl given)
  · rcases (mem_handles_step s.quiet room).1 hm with old | ⟨-, given⟩
    · exact s.null_notMem i old
    · have live := (s.consistent.live_perform_iff _ Handle.null).2 (.inl given)
      exact Option.not_isSome_iff_eq_none.2 (s.consistent.perform _).find?_null live
  · rw [(step_eq s.quiet fun _ => room).2, Function.update_apply]
    split
    next =>
      cases hk : (w.arena.perform (w.command j c)).answer.handle? with
      | none => simpa using s.nodup j
      | some k =>
        have fresh := s.notMem_of_answer room (Arena.handle?_eq_some_iff.1 hk) j
        exact (s.nodup j).append (List.nodup_singleton k) (List.disjoint_singleton.2 fresh)
    next => exact s.nodup i
  · rcases (mem_handles_step s.quiet room).1 hi with old | ⟨rfl, given⟩ <;>
      rcases (mem_handles_step s.quiet room).1 hk with old' | ⟨rfl, given'⟩
    · exact s.eq_of_mem i k h old old'
    · exact absurd old (s.notMem_of_answer room given' i)
    · exact absurd old' (s.notMem_of_answer room given k)
    · rfl

/-- The memory of a client is as it was after a call of another one. -/
theorem memory_step_of_ne (hij : i ≠ j) : (w.step j c).2.memory i = w.memory i := by
  unfold memory
  rw [(step_eq s.quiet fun _ => room).2, Function.update_of_ne hij, arena_step s.quiet]
  refine List.map_congr_left fun h hm => ?_
  by_cases hc : w.command j c = .allocate
  · rw [hc, Arena.perform_allocate_of_room room, s.consistent.find?_allocate room, if_neg]
    rintro rfl
    refine s.notMem_of_answer (j := j) (c := c) room ?_ i hm
    rw [hc, Arena.perform_allocate_of_room room]
  · refine Arena.find?_perform_of_target_ne hc command_ne_clear fun ht => ?_
    rcases target_command ht with rfl | hj
    · exact s.null_notMem i hm
    · exact hij (s.eq_of_mem i j h hm hj)

/-- **A client sees of its call what it sees on its memory.** -/
theorem step_self : (w.step j c).1 = ((w.memory j).step c).1 ∧
    (w.step j c).2.memory j = ((w.memory j).step c).2 := by
  obtain ⟨hseen, hhandles⟩ := step_eq (j := j) (c := c) s.quiet fun _ => room
  have shows : Shows (w.handles j ++ (w.arena.perform (w.command j c)).answer.handle?.toList)
      (w.arena.perform (w.command j c)) ((w.memory j).step c) := by
    by_cases hc : c = .allocate
    · subst hc
      have given : (w.arena.perform .allocate).answer = .handle w.arena.allocate.handle := by
        rw [Arena.perform_allocate_of_room room]
      have fresh := s.notMem_of_answer (j := j) (c := .allocate) room given j
      change Shows (_ ++ (w.arena.perform .allocate).answer.handle?.toList)
        (w.arena.perform .allocate) _
      rw [given]
      exact shows_allocate s.consistent room fresh
    · have none : (w.arena.perform (w.command j c)).answer.handle? = none :=
        Option.eq_none_iff_forall_ne_some.2 fun k given =>
          Arena.answer_ne_handle (mt command_eq_allocate_iff.1 hc)
            (Arena.handle?_eq_some_iff.1 given)
      rw [none, Option.toList_none, List.append_nil]
      exact shows_perform s.consistent (s.nodup j) (s.null_notMem j) hc
  refine ⟨hseen.trans shows.1, ?_⟩
  unfold memory
  rw [hhandles, Function.update_self, arena_step s.quiet]
  exact shows.2

end Sound

/-! ## Schedules -/

/-- The arena is not full at any point of a schedule. -/
def Roomy (w : World ι) : List (ι × Call) → Prop
  | [] => True
  | (j, c) :: rest => w.arena.isFull = false ∧ Roomy (w.step j c).2 rest

/-- The handles are sound for the retirements of a schedule. -/
def SoundFor (w : World ι) (schedule : List (ι × Call)) : Prop :=
  w.Sound fun slot => (w.retirements schedule).count slot

theorem SoundFor.step {rest : List (ι × Call)} (s : w.SoundFor ((j, c) :: rest))
    (room : w.arena.isFull = false) : (w.step j c).2.SoundFor rest :=
  Sound.step s room fun slot => by rw [retirements, List.count_append]

theorem callsOf_cons (i j : ι) (c : Call) (rest : List (ι × Call)) :
    callsOf i ((j, c) :: rest) = if j = i then c :: callsOf i rest else callsOf i rest := by
  unfold callsOf
  rw [List.filterMap_cons]
  by_cases e : j = i <;> simp [e]

theorem callsOf_alone (i : ι) (program : List Call) : callsOf i (alone i program) = program := by
  unfold callsOf alone
  simp [List.filterMap_map]

/-- **What a client sees of a schedule is what it sees on its memory**, whatever the other clients
do. -/
theorem seenBy_eq (i : ι) {schedule : List (ι × Call)} (s : w.SoundFor schedule)
    (room : w.Roomy schedule) :
    w.seenBy i schedule = (w.memory i).seen (callsOf i schedule) := by
  induction schedule generalizing w with
  | nil => rfl
  | cons e rest ih =>
    obtain ⟨j, c⟩ := e
    obtain ⟨here, later⟩ := room
    have ih := ih (s.step here) later
    rw [callsOf_cons]
    simp only [seenBy]
    split
    next e =>
      subst e
      obtain ⟨hseen, hmemory⟩ := Sound.step_self (j := j) (c := c) s here
      rw [Memory.seen, hseen, ih, hmemory]
    next e => rw [ih, Sound.memory_step_of_ne s here (Ne.symm e)]

/-! ## Room -/

theorem size_slots_le_after (quiet : w.bridge.alarm = none) (schedule : List (ι × Call)) :
    w.arena.slots.size ≤ (w.after schedule).arena.slots.size := by
  induction schedule generalizing w with
  | nil => exact Nat.le_refl _
  | cons e rest ih =>
    refine Nat.le_trans ?_ (ih (quiet_step (j := e.1) (c := e.2) quiet))
    rw [arena_step quiet]
    exact (w.arena.perform_move _).size_slots_le

/-- If there are indices left after a schedule, then there is room all along. -/
theorem roomy_of_size_lt (ha : w.arena.Consistent) (quiet : w.bridge.alarm = none)
    {schedule : List (ι × Call)}
    (hlt : (w.after schedule).arena.slots.size < Arena.maxSlots) : w.Roomy schedule := by
  induction schedule generalizing w with
  | nil => trivial
  | cons e rest ih =>
    obtain ⟨j, c⟩ := e
    refine ⟨ha.isFull_eq_false_iff.2 ?_, ih ?_ (quiet_step quiet) hlt⟩
    · have hle := size_slots_le_after quiet ((j, c) :: rest)
      have hsum := ha.free_length_add_live
      omega
    · rw [arena_step quiet]
      exact ha.perform _

theorem size_map_find? (a : Arena) (own : List Handle) :
    Memory.size (own.map a.find?) = (own.filter fun h => (a.find? h).isSome).length := by
  rw [Memory.size, List.countP_map, List.countP_eq_length_filter]
  rfl

omit [DecidableEq ι] in
/-- A client has no more points than there are slots. -/
theorem Sound.size_memory_le_slots {left : Nat → Nat} (s : w.Sound left) (i : ι) :
    (w.memory i).size ≤ w.arena.slots.size := by
  have hlive : (w.memory i).size ≤ w.arena.live := by
    unfold memory
    rw [size_map_find?]
    exact s.consistent.length_le_live ((s.nodup i).filter _) fun h hm => (List.mem_filter.1 hm).2
  have hsum := s.consistent.free_length_add_live
  omega

/-- The points of a client take no more slots than there are in the end. -/
theorem peak_le (i : ι) {schedule : List (ι × Call)} (s : w.SoundFor schedule)
    (room : w.Roomy schedule) :
    (w.memory i).peak (callsOf i schedule) ≤ (w.after schedule).arena.slots.size := by
  induction schedule generalizing w with
  | nil => exact s.size_memory_le_slots i
  | cons e rest ih =>
    obtain ⟨j, c⟩ := e
    obtain ⟨here, later⟩ := room
    have ih := ih (s.step here) later
    rw [callsOf_cons]
    split
    next e =>
      subst e
      rw [(Sound.step_self s here).2] at ih
      refine Nat.max_le.2 ⟨?_, ih⟩
      exact Nat.le_trans (s.size_memory_le_slots j) (size_slots_le_after s.quiet ((j, c) :: rest))
    next e =>
      rw [Sound.memory_step_of_ne s here (Ne.symm e)] at ih
      exact ih

/-! ## A client alone -/

/-- All live points belong to one client. -/
def OwnedBy (w : World ι) (i : ι) : Prop :=
  ∀ h : Handle, (w.arena.find? h).isSome → h ∈ w.handles i

theorem OwnedBy.step {left : Nat → Nat} (owned : w.OwnedBy i) (s : w.Sound left)
    (room : w.arena.isFull = false) : (w.step i c).2.OwnedBy i := by
  intro h live
  rw [arena_step s.quiet] at live
  rw [mem_handles_step s.quiet room]
  rcases (s.consistent.live_perform_iff _ h).1 live with given | ⟨old, -⟩
  · exact .inr ⟨rfl, given⟩
  · exact .inl (owned h old)

omit [DecidableEq ι] in
theorem OwnedBy.live_le {left : Nat → Nat} (owned : w.OwnedBy i) (s : w.Sound left) :
    w.arena.live ≤ (w.memory i).size := by
  unfold memory
  rw [size_map_find?]
  exact s.consistent.live_le_length fun h live => List.mem_filter.2 ⟨owned h live, live⟩

/-- Alone, a client finds room as long as its own points do not take all indices. -/
theorem OwnedBy.roomy {program : List Call} (owned : w.OwnedBy i)
    (s : w.SoundFor (alone i program)) (hlt : (w.memory i).peak program < Arena.maxSlots) :
    w.Roomy (alone i program) := by
  induction program generalizing w with
  | nil => trivial
  | cons c rest ih =>
    obtain ⟨hsize, hpeak⟩ := Nat.max_lt.1 hlt
    have room := s.consistent.isFull_eq_false_iff.2 (Nat.lt_of_le_of_lt (owned.live_le s) hsize)
    refine ⟨room, ih (owned.step s room) (s.step room) ?_⟩
    rwa [(Sound.step_self s room).2]

/-! ## Isolation -/

theorem soundFor_start {b : Bridge} (ha : b.registry.arena.Consistent) (quiet : b.alarm = none)
    {schedule : List (ι × Call)} (bound : ∀ slot,
      ((start b : World ι).retirements schedule).count slot < Slot.generationCount) :
    (start b : World ι).SoundFor schedule where
  consistent := ha
  quiet := quiet
  left_lt := bound
  taken _ _ hm := absurd hm List.not_mem_nil
  null_notMem _ := List.not_mem_nil
  nodup _ := List.nodup_nil
  eq_of_mem _ _ _ hm := absurd hm List.not_mem_nil

/-- **Clients do not disturb each other.** Take any schedule of calls, that is any interleaving of
the programs of any number of clients, on a quiet bridge with any arena that commands can reach,
such that there are fewer slots than indices in the end. Then each client sees what it sees alone
on a new registry, if in neither run a slot is retired so often that its generations repeat. The
run alone needs that as well: without the others, a client may come back to one slot more often. -/
theorem seenBy_eq_alone (b : Bridge) (schedule : List (ι × Call)) (i : ι)
    (reachable : b.registry.arena.Reachable) (quiet : b.alarm = none)
    (room : ((start b).after schedule).arena.slots.size < 2 ^ 32)
    (bound : ∀ slot, ((start b).retirements schedule).count slot < 2 ^ 32 - 1)
    (boundAlone : ∀ slot,
      ((start {}).retirements (alone i (callsOf i schedule))).count slot < 2 ^ 32 - 1) :
    (start b).seenBy i schedule = (start {}).seenBy i (alone i (callsOf i schedule)) := by
  have s := soundFor_start reachable.consistent quiet bound
  have s' := soundFor_start (b := {}) .empty rfl boundAlone
  have roomy := roomy_of_size_lt s.consistent s.quiet room
  have owned : (start {} : World ι).OwnedBy i := fun h live => by
    simp [start, arena, Arena.find?, Arena.empty] at live
  have hpeak := Nat.lt_of_le_of_lt (peak_le i s roomy) room
  rw [seenBy_eq i s roomy, seenBy_eq i s' (owned.roomy s' hpeak), callsOf_alone]
  rfl

/-- Two clients on a registry that was cleared before. The second one is given the slot that the
first one freed, and the handle of the first one is refused for it as it is alone. -/
theorem seenBy_eq_alone_of_reused_slot :
    let b : Bridge :=
      { registry := { arena := Arena.empty.performAll [.allocate, .clear], poisoned := true } }
    let schedule : List (Bool × Call) :=
      [(false, .allocate), (true, .allocate), (false, .setX (.own 0) 3), (false, .free (.own 0)),
        (true, .allocate), (true, .setX (.own 1) 4), (false, .getX (.own 0)),
        (true, .distance (.own 0) (.own 1))]
    b.registry.arena.Reachable ∧ b.alarm = none ∧
      ((start b).after schedule).arena.slots.size < 2 ^ 32 ∧
      (∀ slot, ((start b).retirements schedule).count slot < 2 ^ 32 - 1) ∧
      (∀ slot, ((start {}).retirements
        (alone false (callsOf false schedule))).count slot < 2 ^ 32 - 1) ∧
      (start b).seenBy false schedule =
        [.handle (.own 0), .answer .done, .answer (.point ⟨3, 0⟩), .refused (.own 0)] ∧
      (start b).seenBy false schedule =
        (start {}).seenBy false (alone false (callsOf false schedule)) := by
  intro b schedule
  have reachable : b.registry.arena.Reachable :=
    Arena.Reachable.empty.performAll [.allocate, .clear]
  have room : ((start b).after schedule).arena.slots.size < 2 ^ 32 := by decide +kernel
  have bound : ∀ slot, ((start b).retirements schedule).count slot < 2 ^ 32 - 1 := by
    intro slot
    have hlen : ((start b).retirements schedule).length = 1 := by decide +kernel
    exact Nat.lt_of_le_of_lt (hlen ▸ List.count_le_length) (by decide)
  have boundAlone : ∀ slot, ((start {}).retirements
      (alone false (callsOf false schedule))).count slot < 2 ^ 32 - 1 := by
    intro slot
    have hlen : ((start {}).retirements
      (alone false (callsOf false schedule))).length = 1 := by decide +kernel
    exact Nat.lt_of_le_of_lt (hlen ▸ List.count_le_length) (by decide)
  exact ⟨reachable, rfl, room, bound, boundAlone, by decide +kernel,
    seenBy_eq_alone b schedule false reachable rfl room bound boundAlone⟩

/-- Where another client keeps the slot that was freed, a client goes through the generations of the
next slot, and its first handle stays refused. -/
theorem revisit_among_others (n : Nat) :
    let schedule : List (Bool × Call) :=
      [(false, .allocate), (false, .free (.own 0)), (true, .allocate)] ++
        alone false (revisit 1 (n + 1))
    ((start {}).after schedule).arena.slots.size = 2 ∧
      (start {}).retirements schedule = 0 :: List.replicate (n + 1) 1 ∧
      ((start {}).seenBy false schedule).getLast? = some (.refused (.own 0)) := by
  intro schedule
  -- the first round adds the slot that the others find on offer
  let first : List (Bool × Call) := [(false, .allocate), (false, .free (.own 0)), (true, .allocate),
    (false, .allocate), (false, .free (.own 1))]
  have parts : schedule = first ++ alone false (revisit 2 n) := rfl
  obtain ⟨w, hw⟩ : ∃ w : World Bool, (start {}).after first = w := ⟨_, rfl⟩
  have quiet : w.bridge.alarm = none := by rw [← hw]; decide +kernel
  have o : w.arena.Offers 1 2 := by rw [← hw]; exact ⟨by decide +kernel, by decide +kernel⟩
  have own : w.handles false = [.pack 0 1, .pack 1 1] := by rw [← hw]; decide +kernel
  have size : w.arena.slots.size = 2 := by rw [← hw]; decide +kernel
  have dead : w.arena.find? (.pack 0 1) = none := by rw [← hw]; decide +kernel
  have retired : (start {}).retirements first = [0, 1] := by decide +kernel
  obtain ⟨arena, retirements, own', seen⟩ := after_revisit quiet o own n (k := 2) rfl
  have last := o.renew (Slot.nextGeneration^[n] 2)
  rw [parts, after_append, retirements_append, seenBy_append, hw, arena, retired, retirements,
    List.getLast?_append, seen]
  refine ⟨?_, rfl, ?_⟩
  · rw [Arena.allocate_of_free_cons last.free_eq]
    simp [Arena.put, Arena.renew, size]
  · rw [Arena.getX, Arena.get, last.find?_allocate_of_ne (by decide), o.find?_renew, dead]
    exact congrArg (fun name => some (Seen.refused name)) (nameOf_cons _ _)

/-- Alone, a client goes on with the slot that it freed, and comes back to its first handle. -/
theorem revisit_alone {n : Nat} (all : n + 1 = Slot.generationCount) :
    ((start {}).seenBy false (alone false (.allocate :: .free (.own 0) :: revisit 1 n))).getLast? =
      some (.answer (.coordinate 0)) := by
  let first : List (Bool × Call) := alone false [.allocate, .free (.own 0)]
  obtain ⟨w, hw⟩ : ∃ w : World Bool, (start {}).after first = w := ⟨_, rfl⟩
  have quiet : w.bridge.alarm = none := by rw [← hw]; decide +kernel
  have o : w.arena.Offers 0 2 := by rw [← hw]; exact ⟨by decide +kernel, by decide +kernel⟩
  have own : w.handles false = [.pack 0 1] := by rw [← hw]; decide +kernel
  obtain ⟨-, -, own', seen⟩ := after_revisit quiet o own n (k := 1) rfl
  have back : Slot.nextGeneration^[n] 2 = 1 := by
    have cycle := Slot.iterate_nextGeneration_generationCount (g := 1) (by decide)
    rwa [← all, Function.iterate_succ_apply] at cycle
  rw [back] at seen
  have found := (o.renew 1).find?_allocate
  have parts : alone false (.allocate :: .free (.own 0) :: revisit 1 n) =
    first ++ alone false (revisit 1 n) := rfl
  rw [parts, seenBy_append, hw, List.getLast?_append, seen, Arena.getX, Arena.get, found]
  rfl

/-- The second client takes the slot that the first one freed, and keeps it. The first one goes
through all but one of the generations of the next slot, allocates once more and looks at its first
point: it is refused. Alone it has gone through all generations of one slot, so that the last
allocation gives it its first handle again. -/
theorem generations_repeat_alone :
    let schedule : List (Bool × Call) :=
      [(false, .allocate), (false, .free (.own 0)), (true, .allocate)] ++
        alone false (revisit 1 (2 ^ 32 - 2))
    let b : Bridge := {}
    b.registry.arena.Reachable ∧ b.alarm = none ∧
      ((start b).after schedule).arena.slots.size < 2 ^ 32 ∧
      (∀ slot, ((start b).retirements schedule).count slot < 2 ^ 32 - 1) ∧
      ((start b).seenBy false schedule).getLast? = some (.refused (.own 0)) ∧
      ((start {}).seenBy false (alone false (callsOf false schedule))).getLast? =
        some (.answer (.coordinate 0)) ∧
      (start b).seenBy false schedule ≠
        (start {}).seenBy false (alone false (callsOf false schedule)) := by
  intro schedule b
  obtain ⟨size, retirements, seen⟩ := revisit_among_others (2 ^ 32 - 3)
  have room : ((start b).after schedule).arena.slots.size < 2 ^ 32 :=
    Nat.lt_of_le_of_lt (Nat.le_of_eq size) (by decide)
  have bound (slot : Nat) : ((start b).retirements schedule).count slot < 2 ^ 32 - 1 := by
    have count := congrArg (List.count slot) retirements
    rw [List.count_cons, List.count_replicate] at count
    refine Nat.lt_of_le_of_lt (Nat.le_of_eq count) ?_
    cases slot with
    | zero => decide
    | succ k => cases k <;> simp
  have calls : callsOf false schedule = .allocate :: .free (.own 0) :: revisit 1 (2 ^ 32 - 2) := by
    rw [callsOf_append, callsOf_alone]
    rfl
  have back : ((start {}).seenBy false (alone false (callsOf false schedule))).getLast? =
      some (.answer (.coordinate 0)) := by
    rw [calls]
    exact revisit_alone (by decide)
  refine ⟨.empty, rfl, room, bound, seen, back, fun same => ?_⟩
  cases seen.symm.trans ((congrArg List.getLast? same).trans back)

end World

end PointBridge
