import Mathlib.Data.List.Dedup
import PointBridge.Proofs.Arena.Taken

/-!
# The order in which slots are used again

The retirements of a run tell the handle that the next allocation gives
(`allocations_follow_retirements`). Its slot is the one that was retired last among those that hold
no point, and a new one if all hold a point; its generation counts how often the slot was retired.

`Records` is the invariant behind this: the stack of vacant slots and the generations of all slots
are functions of the retirements so far. A clearing enters there with the slots that it retires, in
ascending order, like releases of their points.
-/

namespace PointBridge

namespace Arena

/-! ## Slots by their retirements -/

instance (a : Arena) (i : Nat) : Decidable (a.IsVacant i) :=
  decidable_of_iff (∃ s ∈ a.slots[i]?, s.point = none) Iff.rfl

/-- A slot holds no point, and all slots that were retired after it hold one. -/
def LastRetired (a : Arena) (retired : List Nat) (i : Nat) : Prop :=
  a.IsVacant i ∧ ∃ before after, retired = before ++ i :: after ∧ ∀ j ∈ after, ¬ a.IsVacant j

/-- The retired slots that hold no point, each once, the one that was retired last in front. -/
def waiting (a : Arena) (retired : List Nat) : List Nat :=
  (retired.dedup.filter fun i => a.IsVacant i).reverse

section Waiting

variable {a b : Arena} {retired new : List Nat} {i : Nat}

theorem dedup_append_of_nodup (hnew : new.Nodup) :
    (retired ++ new).dedup = (retired.dedup.filter fun i => i ∉ new) ++ new := by
  induction retired with
  | nil => simpa using hnew.dedup
  | cons i retired ih =>
    by_cases hi : i ∈ retired
    · rw [List.cons_append, List.dedup_cons_of_mem (List.mem_append_left _ hi), ih,
        List.dedup_cons_of_mem hi]
    · rw [List.dedup_cons_of_notMem hi, List.cons_append]
      by_cases hn : i ∈ new
      · rw [List.dedup_cons_of_mem (List.mem_append_right _ hn), ih]
        simp [hn]
      · rw [List.dedup_cons_of_notMem (by simp [hi, hn]), ih]
        simp [hn]

theorem waiting_congr (vacant : ∀ j, b.IsVacant j ↔ a.IsVacant j) :
    b.waiting retired = a.waiting retired := by
  simp only [waiting, vacant]

/-- A slot that is used again does not wait any longer. -/
theorem waiting_allocate {index : UInt32} {rest : List UInt32} (hf : a.free = index :: rest) :
    a.allocate.arena.waiting retired =
      (a.waiting retired).filter fun j => j ≠ index.toNat := by
  have vacant (j : Nat) : a.allocate.arena.IsVacant j ↔ j ≠ index.toNat ∧ a.IsVacant j := by
    rw [allocate_of_free_cons hf]
    exact (isVacant_put _ j).trans (by rw [Handle.index_pack])
  simp only [waiting, vacant, List.filter_reverse, List.filter_filter, Bool.decide_and]

/-- Newly retired slots wait in front of those that waited before. -/
theorem waiting_append (hnew : new.Nodup) (held : ∀ j ∈ new, ¬ a.IsVacant j)
    (vacant : ∀ j, b.IsVacant j ↔ j ∈ new ∨ a.IsVacant j) :
    b.waiting (retired ++ new) = new.reverse ++ a.waiting retired := by
  have all : new.filter (fun j => b.IsVacant j) = new :=
    List.filter_eq_self.2 fun j hj => by simp [vacant, hj]
  have others : ∀ j, (decide (b.IsVacant j) && decide (j ∉ new)) = decide (a.IsVacant j) := by
    intro j
    rw [← Bool.decide_and, decide_eq_decide, vacant]
    constructor
    · rintro ⟨hj | hj, hn⟩
      · exact absurd hj hn
      · exact hj
    · intro hj
      exact ⟨.inr hj, fun hn => held j hn hj⟩
  unfold waiting
  rw [dedup_append_of_nodup hnew, List.filter_append, List.filter_filter, all,
    List.reverse_append]
  simp only [others]

/-- The last one that is left of a list without repetition stands behind all others that count. -/
theorem exists_append_of_filter_dedup {p : Nat → Prop} [DecidablePred p] {l front : List Nat}
    (h : (l.dedup.filter fun j => p j) = front ++ [i]) :
    ∃ before after, l = before ++ i :: after ∧ ∀ j ∈ after, ¬ p j := by
  induction l generalizing front with
  | nil => simp at h
  | cons j l ih =>
    have later {front : List Nat} (h : (l.dedup.filter fun j => p j) = front ++ [i]) :
        ∃ before after, j :: l = before ++ i :: after ∧ ∀ k ∈ after, ¬ p k := by
      obtain ⟨before, after, rfl, hafter⟩ := ih h
      exact ⟨j :: before, after, rfl, hafter⟩
    by_cases hj : j ∈ l
    · rw [List.dedup_cons_of_mem hj] at h
      exact later h
    rw [List.dedup_cons_of_notMem hj] at h
    by_cases hp : p j
    · rw [List.filter_cons_of_pos (by simpa using hp)] at h
      cases front with
      | nil =>
        obtain ⟨rfl, hnone⟩ := List.cons.inj h
        refine ⟨[], l, rfl, fun k hk => ?_⟩
        simpa using List.filter_eq_nil_iff.1 hnone k (List.mem_dedup.2 hk)
      | cons k front => exact later (List.cons.inj h).2
    · rw [List.filter_cons_of_neg (by simpa using hp)] at h
      exact later h

/-- The slot that waits in front was retired last. -/
theorem lastRetired_of_waiting {rest : List Nat} (h : a.waiting retired = i :: rest) :
    a.LastRetired retired i := by
  rw [waiting, List.reverse_eq_cons_iff] at h
  have hi : i ∈ retired.dedup.filter fun j => a.IsVacant j := by simp [h]
  exact ⟨by simpa using (List.mem_filter.1 hi).2, exists_append_of_filter_dedup h⟩

end Waiting

/-! ## What an arena keeps of its retirements -/

/-- The slots of an arena are as these retirements, in this order, have left them: the stack holds
those that wait, and the generation of a slot counts its retirements. -/
structure Records (a : Arena) (retired : List Nat) : Prop where
  lt_size : ∀ i ∈ retired, i < a.slots.size
  free_eq : a.free.map UInt32.toNat = a.waiting retired
  generation_eq : ∀ (i : Nat) (s : Slot), a.slots[i]? = some s →
    s.generation = Slot.nextGeneration^[retired.count i] 1

section Steps

variable {a b : Arena} {retired new : List Nat}

theorem Move.lt_size (m : Move a new b) : ∀ i ∈ new, i < a.slots.size := by
  cases m with
  | retire live => simpa using lt_size_of_live live
  | clear => exact fun i hi => (mem_occupied_iff.1 hi).1
  | stay | allocate | put => exact nofun

/-- A slot that was not there before is in its first generation. -/
theorem Move.generation_of_new (m : Move a new b) {i : Nat} {s : Slot} (none : a.slots[i]? = none)
    (hs : b.slots[i]? = some s) : s.generation = 1 := by
  cases m with
  | stay => simp [none] at hs
  | allocate room =>
    cases hf : a.free with
    | nil =>
      rw [allocate_of_free_nil hf, Array.getElem?_push, none] at hs
      split at hs
      next => exact congrArg Slot.generation (Option.some.inj hs).symm
      next => cases hs
    | cons index rest =>
      rw [allocate_of_free_cons hf] at hs
      simp [none] at hs
  | put | retire | clear => simp [none] at hs

namespace Records

variable (r : a.Records retired) (ha : a.Consistent)
include r

theorem lt_size_move (m : Move a new b) : ∀ i ∈ retired ++ new, i < b.slots.size := by
  intro i hi
  refine Nat.lt_of_lt_of_le ?_ m.size_slots_le
  exact (List.mem_append.1 hi).elim (r.lt_size i) (m.lt_size i)

include ha

theorem free_allocate : a.allocate.arena.free.map UInt32.toNat =
    a.allocate.arena.waiting retired := by
  cases hf : a.free with
  | nil =>
    have same : a.allocate.arena.waiting retired = a.waiting retired := by
      rw [allocate_of_free_nil hf]
      exact waiting_congr fun j => isVacant_push_fresh j [] _
    rw [same, ← r.free_eq, hf, allocate_of_free_nil hf]
  | cons index rest =>
    have hn := List.Nodup.map toNat_injective ha.free_nodup
    rw [hf, List.map_cons, List.nodup_cons] at hn
    rw [waiting_allocate hf, ← r.free_eq, hf, allocate_of_free_cons hf, List.map_cons,
      List.filter_cons_of_neg (by simp)]
    refine (List.filter_eq_self.2 fun j hj => ?_).symm
    have hne : j ≠ index.toNat := fun e => hn.1 (e ▸ hj)
    simpa using hne

theorem free_clear : a.clear.free.map UInt32.toNat =
    a.clear.waiting (retired ++ a.occupied) := by
  have vacant (j : Nat) : a.clear.IsVacant j ↔ j ∈ a.occupied ∨ a.IsVacant j := by
    rw [isVacant_clear, mem_occupied_iff]
    constructor
    · intro hj
      exact (em (a.IsVacant j)).elim .inr fun hv => .inl ⟨hj, hv⟩
    · intro hj
      exact hj.elim And.left IsVacant.lt_size
  rw [waiting_append a.nodup_occupied (fun j hj => (mem_occupied_iff.1 hj).2) vacant,
    Consistent.free_clear, List.map_append, List.map_reverse, ha.map_toNat_occupied, r.free_eq]

theorem free_move (m : Move a new b) : b.free.map UInt32.toNat = b.waiting (retired ++ new) := by
  cases m with
  | stay => rw [List.append_nil, r.free_eq]
  | allocate room =>
    rw [List.append_nil]
    exact r.free_allocate ha
  | @put h live p =>
    have vacant (j : Nat) : (a.put h p).IsVacant j ↔ a.IsVacant j := by
      rw [isVacant_put, and_iff_right_iff_imp]
      rintro hv rfl
      exact not_isVacant_of_live live hv
    rw [List.append_nil, waiting_congr vacant]
    exact r.free_eq
  | @retire h live =>
    rw [waiting_append (List.nodup_singleton _) (by simpa using not_isVacant_of_live live)
      (by simpa using isVacant_retire live), ← r.free_eq]
    rfl
  | clear => exact r.free_clear ha

theorem generation_move (m : Move a new b) {i : Nat} {t : Slot} (ht : b.slots[i]? = some t) :
    t.generation = Slot.nextGeneration^[(retired ++ new).count i] 1 := by
  cases hs : a.slots[i]? with
  | none =>
    have hle : a.slots.size ≤ i := by simpa using hs
    have never : i ∉ retired ++ new := fun hi =>
      absurd ((List.mem_append.1 hi).elim (r.lt_size i) (m.lt_size i)) (Nat.not_lt.2 hle)
    rw [m.generation_of_new hs ht, List.count_eq_zero.2 never]
    rfl
  | some s =>
    obtain ⟨u, hu, hgen⟩ := m.exists_slot ha hs
    obtain rfl := Option.some.inj (hu.symm.trans ht)
    rw [List.count_append]
    rcases hgen with ⟨hc, hg, -⟩ | ⟨hc, rfl⟩
    · rw [hc, hg, r.generation_eq i s hs, Nat.add_zero]
    · rw [hc, Function.iterate_succ_apply', ← r.generation_eq i s hs]
      rfl

/-- **A move adds its retirements to the record.** -/
theorem move (m : Move a new b) : b.Records (retired ++ new) where
  lt_size := r.lt_size_move m
  free_eq := r.free_move ha m
  generation_eq _ _ := r.generation_move ha m

end Records

theorem records_empty : Arena.empty.Records [] where
  lt_size := nofun
  free_eq := rfl
  generation_eq i s hs := by simp [Arena.empty] at hs

theorem Records.performAll {cs : List Command} (r : a.Records retired) (ha : a.Consistent) :
    (a.performAll cs).Records (retired ++ a.retirements cs) := by
  induction cs generalizing a retired with
  | nil =>
    rw [retirements, List.append_nil]
    exact r
  | cons c cs ih =>
    rw [retirements, ← List.append_assoc]
    exact ih (r.move ha (a.perform_move c)) (ha.perform c)

end Steps

/-! ## Allocations -/

/-- Below the last generation, a slot is in the one behind as many as it had retirements. -/
theorem toNat_iterate_nextGeneration_one {r : Nat} (hr : r < Slot.generationCount) :
    (Slot.nextGeneration^[r] 1).toNat = 1 + r := by
  cases r with
  | zero => rfl
  | succ r =>
    rw [Slot.toNat_iterate_nextGeneration, UInt32.toNat_one, Nat.mod_eq_of_lt (by omega)]
    omega

/-- The slots that allocations use one after the other, if nothing is retired meanwhile. -/
def upcoming (a : Arena) : List Nat :=
  a.free.map UInt32.toNat ++ .range' a.capacity (maxSlots - a.capacity)

section Allocating

variable {a : Arena} {retired : List Nat}

theorem upcoming_of_full (full : a.isFull = true) : a.upcoming = [] := by
  simp only [isFull, Bool.and_eq_true, List.isEmpty_iff, decide_eq_true_eq] at full
  simp [upcoming, capacity, full.1, full.2]

/-- An allocation uses the first one of the upcoming slots. -/
theorem upcoming_of_room (room : a.isFull = false) :
    a.upcoming = a.allocate.handle.index.toNat :: a.allocate.arena.upcoming := by
  cases hf : a.free with
  | nil =>
    have hlt : a.slots.size < maxSlots := by simpa [isFull, hf] using room
    have hcount : maxSlots - a.slots.size = maxSlots - (a.slots.size + 1) + 1 := by omega
    rw [toNat_index_of_free_nil hf room]
    simp [upcoming, capacity, allocate_of_free_nil hf, hf, hcount, List.range'_succ]
  | cons index rest => simp [upcoming, capacity, allocate_of_free_cons hf, hf]

/-- **Allocations use the upcoming slots in their order**, as many as there are. -/
theorem map_index_issued_replicate (a : Arena) (n : Nat) :
    (a.issued (.replicate n .allocate)).map (·.index.toNat) = a.upcoming.take n := by
  induction n generalizing a with
  | zero => rfl
  | succ n ih =>
    rw [List.replicate_succ, issued_cons, List.map_append, ih]
    cases room : a.isFull with
    | true =>
      rw [perform_allocate_of_full room, upcoming_of_full room]
      simp [Answer.handle?]
    | false =>
      rw [perform_allocate_of_room room, upcoming_of_room room]
      simp [Answer.handle?]

/-- After a clearing the slots come first that it retired, the last one of them in front. -/
theorem Records.upcoming_clear (r : a.Records retired) (ha : a.Consistent) : a.clear.upcoming =
    a.occupied.reverse ++ a.waiting retired ++ .range' a.capacity (maxSlots - a.capacity) := by
  rw [upcoming, Consistent.free_clear, List.map_append, List.map_reverse, ha.map_toNat_occupied,
    r.free_eq, capacity, size_slots_clear, capacity]

/-- The generation of a new handle counts the retirements of its slot. -/
theorem Records.toNat_generation_allocate (r : a.Records retired) (ha : a.Consistent)
    (room : a.isFull = false)
    (bound : retired.count a.allocate.handle.index.toNat < Slot.generationCount) :
    a.allocate.handle.generation.toNat = 1 + retired.count a.allocate.handle.index.toNat := by
  have after := r.move ha (.allocate room)
  have hg := after.generation_eq _ _ (ha.getElem?_slots_allocate room).1
  rw [List.append_nil] at hg
  exact (congrArg UInt32.toNat hg).trans (toNat_iterate_nextGeneration_one bound)

/-- Where a slot is vacant, an allocation uses the one retired last and adds none. -/
theorem Records.allocate_of_vacant (r : a.Records retired) (ha : a.Consistent)
    (vacant : ∃ i, a.IsVacant i) : a.isFull = false ∧
      a.LastRetired retired a.allocate.handle.index.toNat ∧
      a.allocate.arena.capacity = a.capacity := by
  obtain ⟨i, hi⟩ := vacant
  cases hf : a.free with
  | nil => exact absurd ((ha.mem_free_map_iff i).2 hi) (by simp [hf])
  | cons index rest =>
    have hw := r.free_eq
    rw [hf, List.map_cons] at hw
    rw [allocate_of_free_cons hf]
    refine ⟨by simp [isFull, hf], ?_, size_slots_put ..⟩
    rw [Handle.index_pack]
    exact lastRetired_of_waiting hw.symm

/-- Where no slot is vacant, an allocation adds one, if an index is left for it. -/
theorem Consistent.allocate_of_no_vacant (ha : a.Consistent) (none : ∀ i, ¬ a.IsVacant i)
    (left : a.capacity < maxSlots) : a.isFull = false ∧
      a.allocate.handle.index.toNat = a.capacity ∧
      a.allocate.arena.capacity = a.capacity + 1 := by
  have hf : a.free = [] :=
    List.eq_nil_iff_forall_not_mem.2 fun i hi => none _ ((ha.mem_free_iff i).1 hi)
  have room : a.isFull = false := by simpa [isFull, hf, capacity] using left
  refine ⟨room, toNat_index_of_free_nil hf room, ?_⟩
  rw [allocate_of_free_nil hf, capacity, Array.size_push, capacity]

end Allocating

/-- **Allocations follow the retirements.** In a run from a new arena that retires no slot so often
that its generations repeat, an allocation uses the slot that was retired last among those that hold
no point. It adds a slot if all hold a point, and only then. The generation that it gives counts the
retirements of the slot. So allocations after a clearing use the slots that it retired, the last one
first, then those that waited before it, and then new ones. -/
theorem allocations_follow_retirements (cs : List Command)
    (bound : ∀ slot, (Arena.empty.retirements cs).count slot < 2 ^ 32 - 1) :
    let a := Arena.empty.performAll cs
    let retired := Arena.empty.retirements cs
    ((∃ i, a.IsVacant i) → ∃ h, (a.perform .allocate).answer = .handle h ∧
      a.LastRetired retired h.index.toNat ∧
      (a.perform .allocate).arena.capacity = a.capacity) ∧
    ((∀ i, ¬ a.IsVacant i) → a.capacity < 2 ^ 32 →
      ∃ h, (a.perform .allocate).answer = .handle h ∧ h.index.toNat = a.capacity ∧
        (a.perform .allocate).arena.capacity = a.capacity + 1) ∧
    (∀ h, (a.perform .allocate).answer = .handle h →
      h.generation.toNat = 1 + retired.count h.index.toNat) ∧
    ∀ n, ((a.perform .clear).arena.issued (.replicate n .allocate)).map (·.index.toNat) =
      (a.occupied.reverse ++ a.waiting retired ++
        .range' a.capacity (2 ^ 32 - a.capacity)).take n := by
  intro a retired
  have ha : a.Consistent := Consistent.empty.performAll cs
  have r : a.Records retired := records_empty.performAll Consistent.empty
  refine ⟨fun vacant => ?_, fun none left => ?_, fun h given => ?_, fun n => ?_⟩
  · obtain ⟨room, last, same⟩ := r.allocate_of_vacant ha vacant
    rw [perform_allocate_of_room room]
    exact ⟨_, rfl, last, same⟩
  · obtain ⟨room, index, more⟩ := ha.allocate_of_no_vacant none left
    rw [perform_allocate_of_room room]
    exact ⟨_, rfl, index, more⟩
  · obtain ⟨-, room, rfl⟩ := answer_eq_handle_iff.1 given
    exact r.toNat_generation_allocate ha room (bound _)
  · exact (map_index_issued_replicate a.clear n).trans (congrArg _ (r.upcoming_clear ha))

/-- The second of three points is released, and then the others are cleared: the next allocation
uses the slot of the third point, in its second generation, and three allocations after one more
clearing use the slots of the third, the first and the second point. -/
theorem allocations_follow_a_release_and_a_clearing :
    let cs : List Command := [.allocate, .allocate, .allocate, .release (.pack 1 1), .clear]
    let a := Arena.empty.performAll cs
    (∀ slot, (Arena.empty.retirements cs).count slot < 2 ^ 32 - 1) ∧
      Arena.empty.retirements cs = [1, 0, 2] ∧ (a.perform .allocate).answer = .handle (.pack 2 2) ∧
      a.LastRetired [1, 0, 2] 2 ∧ (2 : UInt32).toNat = 1 + [1, 0, 2].count 2 ∧
      ((a.perform .clear).arena.issued (.replicate 3 .allocate)).map (·.index.toNat) =
        [2, 0, 1] := by
  intro cs a
  have retired : Arena.empty.retirements cs = [1, 0, 2] := by decide
  have bound : ∀ slot, (Arena.empty.retirements cs).count slot < 2 ^ 32 - 1 := by
    intro slot
    rw [retired]
    exact Nat.lt_of_le_of_lt List.count_le_length (by decide)
  obtain ⟨reused, -, counted, cleared⟩ := allocations_follow_retirements cs bound
  have given : (a.perform .allocate).answer = .handle (.pack 2 2) := by decide +kernel
  obtain ⟨h, answered, last, -⟩ := reused ⟨2, by decide +kernel⟩
  obtain rfl : h = .pack 2 2 := Answer.handle.inj (answered.symm.trans given)
  rw [retired] at last
  have count := counted _ given
  rw [retired] at count
  exact ⟨bound, retired, given, last, count, (cleared 3).trans (by decide +kernel)⟩

end Arena

end PointBridge
