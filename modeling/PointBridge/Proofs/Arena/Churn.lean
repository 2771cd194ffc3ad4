import PointBridge.Proofs.Arena.History

/-!
# Allocating and releasing in turn

A round is an allocation and the release of the handle that it gave. All rounds use the slot that
waits in front of the stack, and leave nothing changed but its generation
(`Offers.performAll_rounds`). Where no slot waits, the first round adds one and then is like a round
on an arena that had it already, vacant (`offering`), so that there is one induction for both cases.
`churning_touches_one_slot` puts this together, and `Consistent.churn_eq` says that `churn`, which
carries out rounds without their commands, comes to the same.
-/

namespace PointBridge

namespace Arena

/-! ## Rounds -/

/-- An allocation and the release of the handle that it gives, if it gives one. -/
def round (a : Arena) : List Command :=
  .allocate :: (a.perform .allocate).answer.handle?.toList.map .release

/-- Several rounds, one after the other. -/
def rounds (a : Arena) : Nat → List Command
  | 0 => []
  | n + 1 => a.round ++ (a.performAll a.round).rounds n

theorem round_of_full {a : Arena} (full : a.isFull = true) : a.round = [.allocate] := by
  rw [round, perform_allocate_of_full full]
  rfl

theorem round_of_room {a : Arena} (room : a.isFull = false) :
    a.round = [.allocate, .release a.allocate.handle] := by
  rw [round, perform_allocate_of_room room]
  rfl

/-! ## A slot that waits in front -/

/-- A slot waits in front of the stack, in a generation: an allocation takes it next. -/
structure Offers (a : Arena) (i g : UInt32) : Prop where
  free_eq : a.free = i :: a.free.tail
  slot_eq : a.slots[i.toNat]? = some ⟨g, none⟩

section Offering

variable {a : Arena} {i g : UInt32}

theorem renew_renew (a : Arena) (i g g' : UInt32) : (a.renew i g).renew i g' = a.renew i g' := by
  simp [renew]

namespace Offers

variable (o : a.Offers i g)
include o

theorem lt_size : i.toNat < a.slots.size := (Array.getElem?_eq_some_iff.1 o.slot_eq).1

theorem isFull_eq : a.isFull = false := by
  rw [isFull, o.free_eq]
  rfl

theorem renew (g' : UInt32) : (a.renew i g').Offers i g' where
  free_eq := o.free_eq
  slot_eq := by simp [Arena.renew, o.lt_size]

theorem renew_self : a.renew i g = a := by
  have same : a.slots.setIfInBounds i.toNat ⟨g, none⟩ = a.slots := by
    apply Array.ext_getElem?
    intro j
    rw [Array.getElem?_setIfInBounds]
    split
    next hj => rw [← hj, if_pos o.lt_size, o.slot_eq]
    next => rfl
  rw [Arena.renew, same]

/-- No handle notices the generation of a vacant slot. -/
theorem find?_renew (g' : UInt32) (h : Handle) : (a.renew i g').find? h = a.find? h := by
  by_cases hi : i = h.index
  · subst hi
    rw [find?_of_isVacant ⟨_, o.slot_eq, rfl⟩, find?_of_isVacant ⟨_, (o.renew g').slot_eq, rfl⟩]
  · apply find?_congr
    exact Array.getElem?_setIfInBounds_ne fun e => hi (UInt32.toNat_inj.1 e)

theorem allocate_handle : a.allocate.handle = .pack i g := by
  rw [allocate_of_free_cons o.free_eq]
  simp [generationAt, o.slot_eq]

/-- The point of the allocation in a round is the origin. -/
theorem find?_allocate : a.allocate.arena.find? (.pack i g) = some .origin := by
  have hg : a.generationAt i = g := by simp [generationAt, o.slot_eq]
  rw [find?_eq_some_iff, allocate_of_free_cons o.free_eq, getElem?_slots_put, hg]
  simp [o.slot_eq]

/-- Handles of other slots find what they found. -/
theorem find?_allocate_of_ne {h : Handle} (hi : h.index ≠ i) :
    a.allocate.arena.find? h = a.find? h := by
  have ne : i.toNat ≠ h.index.toNat := fun e => hi (UInt32.toNat_inj.1 e).symm
  rw [allocate_of_free_cons o.free_eq]
  apply find?_congr
  rw [getElem?_slots_put, Handle.index_pack, if_neg ne]

/-- Allocated and retired, the slot waits in front again, in the next generation. -/
theorem retire_allocate :
    a.allocate.arena.retire (.pack i g) = a.renew i (Slot.nextGeneration g) := by
  have hslots : (a.allocate.arena.retire (.pack i g)).slots =
      (a.renew i (Slot.nextGeneration g)).slots := by
    apply Array.ext_getElem?
    intro j
    rw [allocate_of_free_cons o.free_eq, getElem?_slots_retire]
    simp only [getElem?_slots_put, Handle.index_pack, Arena.renew, Array.getElem?_setIfInBounds]
    split
    next hj =>
      rw [← hj, o.slot_eq, if_pos o.lt_size]
      rfl
    next => rfl
  refine (Arena.mk.injEq ..).mpr ⟨hslots, ?_, ?_⟩
  · rw [allocate_of_free_cons o.free_eq, Handle.index_pack]
    exact o.free_eq.symm
  · rw [allocate_of_free_cons o.free_eq]
    exact Nat.add_sub_cancel ..

/-! ## One round -/

theorem round_eq : a.round = [.allocate, .release (.pack i g)] := by
  rw [round_of_room o.isFull_eq, o.allocate_handle]

/-- **A round changes the generation of one slot.** -/
theorem performAll_round : a.performAll a.round = a.renew i (Slot.nextGeneration g) := by
  rw [o.round_eq, performAll_cons, perform_allocate_of_room o.isFull_eq, performAll_cons,
    perform_release, access_of_some o.find?_allocate]
  exact o.retire_allocate

theorem answers_round : a.answers a.round = [.handle (.pack i g), .point .origin] := by
  rw [o.round_eq, answers, perform_allocate_of_room o.isFull_eq, answers, perform_release,
    access_of_some o.find?_allocate, o.allocate_handle]
  rfl

/-! ## Several rounds -/

/-- **Rounds change the generation of one slot**, once each. -/
theorem performAll_rounds (n : Nat) :
    a.performAll (a.rounds n) = a.renew i (Slot.nextGeneration^[n] g) := by
  induction n generalizing a g with
  | zero => exact o.renew_self.symm
  | succ n ih =>
    rw [rounds, performAll_append, o.performAll_round, ih (o.renew _), renew_renew,
      Function.iterate_succ_apply]

theorem answers_rounds (n : Nat) : a.answers (a.rounds n) = (List.range n).flatMap fun k =>
    [.handle (.pack i (Slot.nextGeneration^[k] g)), .point .origin] := by
  induction n generalizing a g with
  | zero => rfl
  | succ n ih =>
    rw [rounds, answers_append, o.answers_round, o.performAll_round, ih (o.renew _),
      List.range_succ_eq_map, List.flatMap_cons, List.flatMap_map]
    rfl

theorem issued_rounds (n : Nat) : a.issued (a.rounds n) =
    (List.range n).map fun k => .pack i (Slot.nextGeneration^[k] g) := by
  rw [issued, o.answers_rounds, List.filterMap_flatMap]
  rw [← List.flatMap_pure_eq_map]
  rfl

theorem eventsOf_round : a.eventsOf a.round = [.slotReused (.pack i g)] := by
  have reused : a.allocate.events = [.slotReused (.pack i g)] := by
    rw [Allocation.events, o.allocate_handle, allocate_of_free_cons o.free_eq]
    rfl
  rw [o.round_eq, eventsOf, perform_allocate_of_room o.isFull_eq, eventsOf, perform_release,
    access_of_some o.find?_allocate, reused]
  rfl

theorem eventsOf_rounds (n : Nat) : a.eventsOf (a.rounds n) =
    (List.range n).map fun k => .slotReused (.pack i (Slot.nextGeneration^[k] g)) := by
  induction n generalizing a g with
  | zero => rfl
  | succ n ih =>
    rw [rounds, eventsOf_append, o.eventsOf_round, o.performAll_round, ih (o.renew _),
      List.range_succ_eq_map, List.map_cons, List.map_map]
    rfl

end Offers

/-! ## Arenas where no slot waits -/

/-- The arena with a slot that waits. If there is none, one is added in its first generation. -/
def offering (a : Arena) : Arena :=
  match a.free with
  | [] => { a with slots := a.slots.push ⟨1, none⟩, free := [.ofNat a.slots.size] }
  | _ :: _ => a

theorem offering_of_free_nil (hf : a.free = []) : a.offering =
    { a with slots := a.slots.push ⟨1, none⟩, free := [.ofNat a.slots.size] } := by
  simp only [offering, hf]

theorem offering_of_free_cons {rest : List UInt32} (hf : a.free = i :: rest) : a.offering = a := by
  simp only [offering, hf]

theorem tail_free_offering (a : Arena) : a.offering.free.tail = a.free.tail := by
  cases hf : a.free with
  | nil => rw [offering_of_free_nil hf]; rfl
  | cons j rest => rw [offering_of_free_cons hf, hf]

theorem capacity_offering (a : Arena) :
    a.offering.capacity = a.capacity + if a.free = [] then 1 else 0 := by
  cases hf : a.free with
  | nil => rw [offering_of_free_nil hf, if_pos rfl, capacity, Array.size_push, capacity]
  | cons j rest => rw [offering_of_free_cons hf, if_neg nofun, Nat.add_zero]

theorem size_offering (a : Arena) : a.offering.size = a.size := by
  cases hf : a.free with
  | nil => rw [offering_of_free_nil hf]; rfl
  | cons j rest => rw [offering_of_free_cons hf]

theorem find?_offering (a : Arena) (h : Handle) : a.offering.find? h = a.find? h := by
  cases hf : a.free with
  | cons j rest => rw [offering_of_free_cons hf]
  | nil =>
    rw [offering_of_free_nil hf]
    by_cases hi : h.index.toNat = a.slots.size
    · have missing : a.find? h = none := find?_of_getElem?_none (by simp [hi])
      rw [missing]
      exact find?_of_isVacant ⟨⟨1, none⟩, by simp [hi], rfl⟩
    · apply find?_congr
      exact Array.getElem?_push.trans (if_neg hi)

variable (ha : a.Consistent) (room : a.isFull = false)

include room in
theorem toNat_ofNat_size (hf : a.free = []) : (UInt32.ofNat a.slots.size).toNat = a.slots.size := by
  have index := toNat_index_of_free_nil hf room
  rwa [allocate_of_free_nil hf, Handle.index_pack] at index

include ha room in
/-- The slot on offer: the one in front of the stack, or the first new one. -/
theorem Consistent.offers : ∃ i g, a.offering.Offers i g ∧
    (a.free = [] → i.toNat = a.capacity ∧ g = 1) ∧
    ∀ j rest, a.free = j :: rest → i = j ∧ a.slots[j.toNat]? = some ⟨g, none⟩ := by
  cases hf : a.free with
  | nil =>
    have index := toNat_ofNat_size room hf
    refine ⟨.ofNat a.slots.size, 1, ?_, fun _ => ⟨index, rfl⟩, nofun⟩
    rw [offering_of_free_nil hf]
    exact ⟨rfl, by simp [index]⟩
  | cons j rest =>
    obtain ⟨⟨g, p⟩, hs, rfl, -⟩ := ha.vacant_of_free_cons hf
    refine ⟨j, g, ?_, nofun, ?_⟩
    · rw [offering_of_free_cons hf]
      exact ⟨by rw [hf]; rfl, hs⟩
    · rintro _ _ ⟨⟩
      exact ⟨rfl, hs⟩

include room in
/-- An allocation does not tell whether its slot is new or was there before. -/
theorem allocate_offering : a.offering.isFull = false ∧
    a.offering.allocate.handle = a.allocate.handle ∧
    a.offering.allocate.arena = a.allocate.arena := by
  cases hf : a.free with
  | cons j rest => rw [offering_of_free_cons hf]; exact ⟨room, rfl, rfl⟩
  | nil =>
    have index := toNat_ofNat_size room hf
    rw [offering_of_free_nil hf, allocate_of_free_nil hf, allocate_of_free_cons rfl]
    refine ⟨rfl, by simp [generationAt, index], (Arena.mk.injEq ..).mpr ⟨?_, rfl, rfl⟩⟩
    apply Array.ext_getElem?
    intro j
    rw [getElem?_slots_put, Handle.index_pack, index]
    simp only [Array.getElem?_push, Slot.fresh]
    by_cases hj : j = a.slots.size <;> simp [hj, eq_comm]

include room in
/-- A slot that is new or was there before, allocated and retired, waits in front. -/
theorem retire_allocate_of_room (o : a.offering.Offers i g) : a.allocate.handle = .pack i g ∧
    a.allocate.arena.retire (.pack i g) = a.offering.renew i (Slot.nextGeneration g) := by
  obtain ⟨-, handle, arena⟩ := allocate_offering room
  rw [← handle, ← arena]
  exact ⟨o.allocate_handle, o.retire_allocate⟩

include room in
/-- So the first round does not tell, nor does any later one. -/
theorem rounds_offering (n : Nat) : a.offering.rounds (n + 1) = a.rounds (n + 1) ∧
    a.offering.performAll (a.offering.rounds (n + 1)) = a.performAll (a.rounds (n + 1)) ∧
    a.offering.answers (a.offering.rounds (n + 1)) = a.answers (a.rounds (n + 1)) := by
  obtain ⟨room', handle, arena⟩ := allocate_offering room
  have hround : a.offering.round = a.round := by
    rw [round_of_room room', round_of_room room, handle]
  have after (cs : List Command) :
      a.offering.performAll (.allocate :: cs) = a.performAll (.allocate :: cs) ∧
        a.offering.answers (.allocate :: cs) = a.answers (.allocate :: cs) := by
    simp only [performAll_cons, answers, perform_allocate_of_room room',
      perform_allocate_of_room room, handle, arena, and_self]
  have hrounds : a.offering.rounds (n + 1) = a.rounds (n + 1) := by
    rw [rounds, hround, round, (after _).1]
    rfl
  rw [hrounds]
  exact ⟨rfl, (after _).1, (after _).2⟩

end Offering

/-! ## Churning -/

section Churning

variable {a : Arena}

/-- Rounds come to nothing on a full arena. -/
theorem rounds_of_full (full : a.isFull = true) (n : Nat) : a.performAll (a.rounds n) = a ∧
    a.issued (a.rounds n) = [] ∧ a.eventsOf (a.rounds n) = [] := by
  have hperform := perform_allocate_of_full full
  have hround : a.performAll a.round = a := by
    rw [round_of_full full, performAll_cons, hperform]
    rfl
  induction n with
  | zero => exact ⟨rfl, rfl, rfl⟩
  | succ n ih =>
    obtain ⟨arena, issued, events⟩ := ih
    rw [rounds, performAll_append, eventsOf_append, hround, arena, events, round_of_full full,
      List.singleton_append, issued_cons, hperform, eventsOf, hperform]
    exact ⟨rfl, issued, rfl⟩

/-- A round allocates a point and retires it. -/
theorem Consistent.performAll_round (ha : a.Consistent) (room : a.isFull = false) :
    a.performAll a.round = a.allocate.arena.retire a.allocate.handle ∧
      a.eventsOf a.round = a.allocate.events := by
  have found : a.allocate.arena.find? a.allocate.handle = some .origin := by
    rw [ha.find?_allocate room, if_pos rfl]
  rw [round_of_room room, performAll_cons, eventsOf, perform_allocate_of_room room, performAll_cons,
    eventsOf, perform_release, access_of_some found]
  exact ⟨rfl, List.append_nil _⟩

/-- **Churning is rounds**, one after the other. -/
theorem Consistent.churn_eq (ha : a.Consistent) (n : Nat) :
    a.churn n = ((a.issued (a.rounds n)).getLast?, a.performAll (a.rounds n)) := by
  cases n with
  | zero => rfl
  | succ n =>
    cases room : a.isFull with
    | true =>
      obtain ⟨arena, issued, -⟩ := rounds_of_full room (n + 1)
      rw [churn, if_pos room, arena, issued]
      rfl
    | false =>
      obtain ⟨i, g, o, -, -⟩ := ha.offers room
      obtain ⟨-, arena, answers⟩ := rounds_offering room n
      obtain ⟨handle, retired⟩ := retire_allocate_of_room room o
      have issued : a.issued (a.rounds (n + 1)) = _ :=
        (congrArg (List.filterMap Answer.handle?) answers).symm.trans (o.issued_rounds (n + 1))
      rw [issued, ← arena, o.performAll_rounds, churn, if_neg (by rw [room]; exact nofun)]
      dsimp only
      rw [handle, retired, Handle.index_pack, Handle.generation_pack, renew_renew,
        Slot.generationAfter_eq, Slot.generationAfter_eq, List.range_succ, List.map_append,
        List.getLast?_append]
      rfl

/-- The events of churning are those of the rounds. -/
theorem Consistent.churnEvents_eq (ha : a.Consistent) (n : Nat) :
    a.churnEvents n = a.eventsOf (a.rounds n) := by
  cases room : a.isFull with
  | true => rw [churnEvents, if_pos room, (rounds_of_full room n).2.2]
  | false =>
    obtain ⟨i, g, o, -, -⟩ := ha.offers room
    obtain ⟨handle, retired⟩ := retire_allocate_of_room room o
    rw [churnEvents, if_neg (by rw [room]; exact nofun)]
    simp only [handle, Handle.index_pack, Handle.generation_pack, Slot.generationAfter_eq]
    cases hf : a.free with
    | cons j rest =>
      rw [offering_of_free_cons hf] at o
      rw [o.eventsOf_rounds, allocate_of_free_cons hf]
      rfl
    | nil =>
      have reused : a.allocate.reused = false := by rw [allocate_of_free_nil hf]
      rw [reused]
      cases n with
      | zero => rfl
      | succ n =>
        -- the first round uses a new slot, and the later ones find it on offer
        have silent : a.allocate.events = [] := by
          rw [Allocation.events, reused]
          rfl
        obtain ⟨arena, events⟩ := ha.performAll_round room
        rw [handle, retired] at arena
        rw [rounds, eventsOf_append, events, silent, arena, (o.renew _).eventsOf_rounds,
          List.range_succ_eq_map]
        simp [Function.iterate_succ_apply]

end Churning

/-- **Churning touches one slot.** Whatever arena is reached, all rounds of an allocation and a
release use one slot, the one in front of the stack or, if none waits, a new one behind all others.
They go through its generations from the present one on, below the last generation one by one. Each
release gives back the origin. Afterwards the size is as before, every handle finds what it found,
the rest of the stack is in its order, and there are as many slots as before or, if none waited, one
more. The next allocation uses the slot in the generation after the last round. (A full arena has
no slot for a round.) -/
theorem churning_touches_one_slot {a : Arena} (ha : a.Reachable) {n : Nat} (hn : 1 ≤ n) :
    (a.isFull = true → a.perform .allocate = ⟨.exhausted, a, []⟩) ∧
    (a.isFull = false → ∃ i g : UInt32,
      (a.free = [] → i.toNat = a.capacity ∧ g = 1) ∧
      (∀ j rest, a.free = j :: rest → i = j ∧ a.slots[j.toNat]? = some ⟨g, none⟩) ∧
      (g.toNat + n - 1 < 2 ^ 32 →
        let b := a.performAll (a.rounds n)
        a.answers (a.rounds n) = (List.range n).flatMap (fun k =>
          [.handle (.pack i (.ofNat (g.toNat + k))), .point .origin]) ∧
        b.size = a.size ∧
        (∀ h, b.get h = a.get h ∧ b.contains h = a.contains h) ∧
        b.free = i :: a.free.tail ∧
        b.capacity = a.capacity + (if a.free = [] then 1 else 0) ∧
        (b.perform .allocate).answer =
          .handle (.pack i (Slot.nextGeneration (.ofNat (g.toNat + n - 1)))))) := by
  refine ⟨perform_allocate_of_full, fun room => ?_⟩
  obtain ⟨i, g, o, new, waiting⟩ := ha.consistent.offers room
  refine ⟨i, g, new, waiting, fun bound => ?_⟩
  obtain ⟨n, rfl⟩ := Nat.exists_eq_add_of_le' hn
  obtain ⟨-, arena, answers⟩ := rounds_offering room n
  have after := o.renew (Slot.nextGeneration^[n + 1] g)
  rw [← arena, ← answers, o.performAll_rounds, o.answers_rounds]
  refine ⟨?_, ?_, fun h => ?_, ?_, ?_, ?_⟩
  · refine List.flatMap_congr fun k hk => ?_
    rw [Slot.iterate_nextGeneration_of_lt]
    have := List.mem_range.1 hk
    omega
  · exact a.size_offering
  · have same : (a.offering.renew i (Slot.nextGeneration^[n + 1] g)).find? h = a.find? h := by
      rw [o.find?_renew, find?_offering]
    rw [get, get, contains, contains, same]
    exact ⟨rfl, rfl⟩
  · rw [after.free_eq]
    exact congrArg _ a.tail_free_offering
  · rw [← a.capacity_offering]
    exact Array.size_setIfInBounds
  · rw [perform_allocate_of_room after.isFull_eq, after.allocate_handle,
      Function.iterate_succ_apply', Slot.iterate_nextGeneration_of_lt (by omega)]
    rfl

/-- The first of two points is released: three rounds use its slot, in the generations 2 to 4, and
the next allocation uses it in generation 5. -/
theorem churning_touches_a_released_slot :
    let a := Arena.empty.performAll [.allocate, .allocate, .release (.pack 0 1)]
    let b := a.performAll (a.rounds 3)
    a.Reachable ∧ 1 ≤ 3 ∧ a.isFull = false ∧ a.free = [0] ∧ a.capacity = 2 ∧
      (2 : UInt32).toNat + 3 - 1 < 2 ^ 32 ∧
      a.answers (a.rounds 3) = [.handle (.pack 0 2), .point .origin, .handle (.pack 0 3),
        .point .origin, .handle (.pack 0 4), .point .origin] ∧
      b.get (.pack 1 1) = a.get (.pack 1 1) ∧ b.free = [0] ∧ b.capacity = 2 ∧
      (b.perform .allocate).answer = .handle (.pack 0 5) := by
  intro a b
  have ha : a.Reachable := Reachable.empty.performAll _
  have room : a.isFull = false := by decide
  have free : a.free = [0] := by decide
  obtain ⟨i, g, -, waiting, run⟩ := (churning_touches_one_slot ha (by decide : 1 ≤ 3)).2 room
  obtain ⟨rfl, slot⟩ := waiting 0 [] free
  have released : a.slots[(0 : UInt32).toNat]? = some ⟨2, none⟩ := by decide
  obtain rfl : g = 2 := congrArg Slot.generation (Option.some.inj (slot.symm.trans released))
  obtain ⟨answers, -, others, stack, capacity, next⟩ := run (by decide)
  exact ⟨ha, by decide, room, free, by decide, by decide, answers, (others _).1, stack, capacity,
    next⟩

end Arena

end PointBridge
