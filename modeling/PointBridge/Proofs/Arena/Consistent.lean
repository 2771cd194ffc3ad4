import Mathlib.Data.List.Nodup
import Mathlib.Data.List.Perm.Subperm
import PointBridge.Proofs.Arena.Moves

/-!
# The state of an arena is consistent

An arena keeps three accounts of which slots hold a point: the slots themselves, the stack of
vacant indices and the number of live points. `Consistent` says that they agree. A new arena is
consistent and every move keeps it so (`Consistent.move`), hence every arena that commands can
reach is (`Reachable.consistent`).
-/

namespace PointBridge

namespace Arena

/-! ## The invariant -/

/-- Whether there is a slot at an index, without a point. -/
def IsVacant (a : Arena) (i : Nat) : Prop := ∃ s, a.slots[i]? = some s ∧ s.point = none

/-- The accounts that an arena keeps of its slots agree: there is an index for every slot, the
vacant slots wait and no others, each once, all others count as live, and generation 0 belongs to
none. -/
structure Consistent (a : Arena) : Prop where
  size_le : a.slots.size ≤ maxSlots
  free_nodup : a.free.Nodup
  mem_free_iff : ∀ i : UInt32, i ∈ a.free ↔ a.IsVacant i.toNat
  free_length_add_live : a.free.length + a.live = a.slots.size
  one_le_generation : ∀ (i : Nat) (s : Slot), a.slots[i]? = some s → 1 ≤ s.generation

section Vacancy

variable {a : Arena} {h : Handle}

theorem IsVacant.lt_size {i : Nat} (hv : a.IsVacant i) : i < a.slots.size := by
  obtain ⟨s, hs, -⟩ := hv
  exact (Array.getElem?_eq_some_iff.1 hs).1

theorem not_isVacant_of_live (live : (a.find? h).isSome) : ¬ a.IsVacant h.index.toNat := by
  rintro ⟨s, hs, hp⟩
  obtain ⟨t, ht, -, hq⟩ := find?_isSome_iff.1 live
  rw [hs, Option.some.injEq] at ht
  subst ht
  simp [hp] at hq

theorem lt_size_of_live (live : (a.find? h).isSome) : h.index.toNat < a.slots.size := by
  obtain ⟨s, hs, -⟩ := find?_isSome_iff.1 live
  exact (Array.getElem?_eq_some_iff.1 hs).1

theorem isVacant_put (p : Point) (i : Nat) :
    (a.put h p).IsVacant i ↔ i ≠ h.index.toNat ∧ a.IsVacant i := by
  unfold IsVacant
  rw [getElem?_slots_put]
  split
  next hi =>
    subst hi
    simp only [ne_eq, not_true_eq_false, false_and, iff_false]
    rintro ⟨s, hs, hp⟩
    obtain ⟨t, -, rfl⟩ := Option.map_eq_some_iff.1 hs
    simp at hp
  next hi => simp [Ne.symm hi]

theorem isVacant_push_fresh (i : Nat) (free : List UInt32) (live : Nat) :
    (⟨a.slots.push .fresh, free, live⟩ : Arena).IsVacant i ↔ a.IsVacant i := by
  unfold IsVacant
  rw [Array.getElem?_push]
  split
  next hi => simp [hi, Slot.fresh]
  next => rfl

theorem isVacant_retire (live : (a.find? h).isSome) (i : Nat) :
    (a.retire h).IsVacant i ↔ i = h.index.toNat ∨ a.IsVacant i := by
  unfold IsVacant
  rw [getElem?_slots_retire]
  split
  next hi =>
    subst hi
    obtain ⟨s, hs, -⟩ := find?_isSome_iff.1 live
    exact ⟨fun _ => .inl rfl, fun _ => ⟨s.retire, by rw [hs]; rfl, rfl⟩⟩
  next hi => simp [Ne.symm hi]

theorem isVacant_clear (i : Nat) : a.clear.IsVacant i ↔ i < a.slots.size := by
  constructor
  · intro hv
    simpa using hv.lt_size
  · intro hi
    refine ⟨a.slots[i].vacate, by rw [getElem?_slots_clear, Array.getElem?_eq_getElem hi]; rfl, ?_⟩
    unfold Slot.vacate Slot.isOccupied
    split
    next => rfl
    next ho => simpa using ho

theorem isVacant_iff_any {i : Nat} (hi : i < a.slots.size) :
    a.IsVacant i ↔ a.slots[i]?.any Slot.isOccupied = false := by
  unfold IsVacant
  rw [Array.getElem?_eq_getElem hi]
  simp [Slot.isOccupied]

theorem mem_occupied_iff {i : Nat} : i ∈ a.occupied ↔ i < a.slots.size ∧ ¬ a.IsVacant i := by
  unfold occupied
  rw [List.mem_filter, List.mem_range, and_congr_right_iff]
  intro hi
  rw [isVacant_iff_any hi, Bool.not_eq_false]

theorem nodup_occupied (a : Arena) : a.occupied.Nodup := List.nodup_range.filter _

end Vacancy

/-! ## Counting slots -/

theorem toNat_injective : Function.Injective UInt32.toNat := fun _ _ => UInt32.toNat_inj.1

/-- Indices below `n` without repetition are at most `n`. -/
theorem length_le_of_nodup {l : List UInt32} {n : Nat} (hl : l.Nodup)
    (hn : ∀ i ∈ l, i.toNat < n) : l.length ≤ n := by
  have hm : (l.map UInt32.toNat).Nodup := List.Nodup.map toNat_injective hl
  have hs : l.map UInt32.toNat ⊆ List.range n := by
    intro j hj
    obtain ⟨i, hi, rfl⟩ := List.mem_map.1 hj
    exact List.mem_range.2 (hn i hi)
  simpa using (hm.subperm hs).length_le

namespace Consistent

variable {a : Arena} {h : Handle}

theorem toNat_ofNat (ha : a.Consistent) {i : Nat} (hi : i < a.slots.size) :
    (UInt32.ofNat i).toNat = i :=
  UInt32.toNat_ofNat_of_lt' (Nat.lt_of_lt_of_le hi ha.size_le)

theorem mem_free_map_iff (ha : a.Consistent) (i : Nat) :
    i ∈ a.free.map UInt32.toNat ↔ a.IsVacant i := by
  rw [List.mem_map]
  constructor
  · rintro ⟨j, hj, rfl⟩
    exact (ha.mem_free_iff j).1 hj
  · intro hv
    have e := ha.toNat_ofNat hv.lt_size
    exact ⟨.ofNat i, (ha.mem_free_iff _).2 (by rwa [e]), e⟩

/-- A live handle is not among the indices that wait. -/
theorem index_notMem_free (ha : a.Consistent) (live : (a.find? h).isSome) : h.index ∉ a.free :=
  fun hm => not_isVacant_of_live live ((ha.mem_free_iff _).1 hm)

/-- Where a handle is live, the number of live points is not zero. -/
theorem live_pos (ha : a.Consistent) (live : (a.find? h).isSome) : 0 < a.live := by
  have hn : (h.index :: a.free).Nodup :=
    List.nodup_cons.2 ⟨ha.index_notMem_free live, ha.free_nodup⟩
  have hl : (h.index :: a.free).length ≤ a.slots.size := by
    apply length_le_of_nodup hn
    intro i hi
    rcases List.mem_cons.1 hi with rfl | hi
    · exact lt_size_of_live live
    · exact ((ha.mem_free_iff i).1 hi).lt_size
  have hsum := ha.free_length_add_live
  rw [List.length_cons] at hl
  omega

/-- The number of live points is that of the occupied slots. -/
theorem length_occupied (ha : a.Consistent) : a.occupied.length = a.live := by
  have hperm : (a.free.map UInt32.toNat).Perm
      ((List.range a.slots.size).filter fun i => !a.slots[i]?.any Slot.isOccupied) := by
    apply (List.perm_ext_iff_of_nodup
      (List.Nodup.map toNat_injective ha.free_nodup) (List.nodup_range.filter _)).2
    intro i
    rw [ha.mem_free_map_iff, List.mem_filter, List.mem_range]
    constructor
    · intro hv
      exact ⟨hv.lt_size, by simpa using (isVacant_iff_any hv.lt_size).1 hv⟩
    · rintro ⟨hi, ho⟩
      exact (isVacant_iff_any hi).2 (by simpa using ho)
  have hlen := hperm.length_eq
  have hsplit := List.length_eq_length_filter_add (l := List.range a.slots.size)
    fun i => a.slots[i]?.any Slot.isOccupied
  have hsum := ha.free_length_add_live
  rw [List.length_map] at hlen
  rw [List.length_range] at hsplit
  unfold occupied
  omega

/-- An arena is full when as many points are live as indices can tell apart. -/
theorem isFull_eq_false_iff (ha : a.Consistent) : a.isFull = false ↔ a.live < maxSlots := by
  have hsum := ha.free_length_add_live
  have hsize := ha.size_le
  unfold isFull
  cases hf : a.free with
  | nil =>
    rw [hf, List.length_nil] at hsum
    simp only [List.isEmpty_nil, Bool.true_and, decide_eq_false_iff_not]
    omega
  | cons index rest =>
    rw [hf, List.length_cons] at hsum
    simp only [List.isEmpty_cons, Bool.false_and, true_iff]
    omega

theorem countP_eq_length_occupied (a : Arena) :
    a.slots.countP Slot.isOccupied = a.occupied.length := by
  -- both sides count the slots that are occupied, one over the slots and one over their indices
  have hmap : a.slots.toList.map Slot.isOccupied =
      (List.range a.slots.size).map fun i => a.slots[i]?.any Slot.isOccupied := by
    apply List.ext_getElem (by simp)
    intro i h₁ h₂
    have hi : i < a.slots.size := by simpa using h₁
    simp [hi]
  calc a.slots.countP Slot.isOccupied
      = (a.slots.toList.map Slot.isOccupied).countP id := by
        rw [List.countP_map, Array.countP_toList]
        rfl
    _ = a.occupied.length := by
        rw [hmap, List.countP_map, occupied, List.countP_eq_length_filter]
        rfl

/-! ## Moves keep the invariant -/

protected theorem empty : Arena.empty.Consistent where
  size_le := Nat.zero_le _
  free_nodup := List.nodup_nil
  mem_free_iff i := by simp [Arena.empty, IsVacant]
  free_length_add_live := rfl
  one_le_generation i s hs := by simp [Arena.empty] at hs

theorem one_le_generation_put (ha : a.Consistent) (p : Point) (i : Nat) (s : Slot)
    (hs : (a.put h p).slots[i]? = some s) : 1 ≤ s.generation := by
  rw [getElem?_slots_put] at hs
  split at hs
  next =>
    obtain ⟨t, ht, rfl⟩ := Option.map_eq_some_iff.1 hs
    exact ha.one_le_generation i t ht
  next => exact ha.one_le_generation i s hs

theorem put (ha : a.Consistent) (live : (a.find? h).isSome) (p : Point) :
    (a.put h p).Consistent where
  size_le := by simpa using ha.size_le
  free_nodup := ha.free_nodup
  mem_free_iff i := by
    rw [isVacant_put, ← ha.mem_free_iff i]
    refine ⟨fun hi => ⟨fun e => ?_, hi⟩, And.right⟩
    exact ha.index_notMem_free live (UInt32.toNat_inj.1 e ▸ hi)
  free_length_add_live := by
    rw [size_slots_put]
    exact ha.free_length_add_live
  one_le_generation := ha.one_le_generation_put p

/-- A vacant slot that is used again leaves the stack. -/
theorem allocate_reuse (ha : a.Consistent) {index : UInt32} {rest : List UInt32}
    (hf : a.free = index :: rest) : a.allocate.arena.Consistent := by
  have hn := ha.free_nodup
  rw [hf, List.nodup_cons] at hn
  rw [allocate_of_free_cons hf]
  exact
    { size_le := by simpa using ha.size_le
      free_nodup := hn.2
      mem_free_iff := fun i => by
        change i ∈ rest ↔ (a.put _ _).IsVacant i.toNat
        rw [isVacant_put, ← ha.mem_free_iff i, hf, Handle.index_pack, List.mem_cons, Ne,
          UInt32.toNat_inj]
        constructor
        · intro hi
          exact ⟨fun e => hn.1 (e ▸ hi), .inr hi⟩
        · rintro ⟨hne, e | hi⟩
          · exact absurd e hne
          · exact hi
      free_length_add_live := by
        have hsum := ha.free_length_add_live
        rw [hf, List.length_cons] at hsum
        simp only [size_slots_put]
        omega
      one_le_generation := ha.one_le_generation_put _ }

/-- Where no slot is vacant and an index is left, one more slot may be added. -/
theorem allocate_grow (ha : a.Consistent) (hf : a.free = []) (room : a.isFull = false) :
    a.allocate.arena.Consistent := by
  have hlt : a.slots.size < maxSlots := by simpa [isFull, hf] using room
  rw [allocate_of_free_nil hf]
  exact
    { size_le := by
        rw [Array.size_push]
        exact hlt
      free_nodup := List.nodup_nil
      mem_free_iff := fun i => by
        rw [isVacant_push_fresh, ← ha.mem_free_iff i, hf]
      free_length_add_live := by
        have hsum := ha.free_length_add_live
        rw [hf] at hsum
        simpa using hsum
      one_le_generation := fun i s hs => by
        rw [Array.getElem?_push] at hs
        split at hs
        next =>
          cases hs
          decide
        next => exact ha.one_le_generation i s hs }

theorem retire (ha : a.Consistent) (live : (a.find? h).isSome) : (a.retire h).Consistent where
  size_le := by simpa using ha.size_le
  free_nodup := List.nodup_cons.2 ⟨ha.index_notMem_free live, ha.free_nodup⟩
  mem_free_iff i := by
    rw [isVacant_retire live, ← ha.mem_free_iff i, UInt32.toNat_inj]
    exact List.mem_cons
  free_length_add_live := by
    have hpos := ha.live_pos live
    have hsum := ha.free_length_add_live
    simp only [Arena.retire, List.length_cons, Array.size_modify]
    omega
  one_le_generation i s hs := by
    rw [getElem?_slots_retire] at hs
    split at hs
    next =>
      obtain ⟨t, -, rfl⟩ := Option.map_eq_some_iff.1 hs
      exact Slot.one_le_nextGeneration _
    next => exact ha.one_le_generation i s hs

theorem free_clear (a : Arena) :
    a.clear.free = (a.occupied.map UInt32.ofNat).reverse ++ a.free := by
  simp [Arena.clear]

theorem mem_occupied_map_iff (ha : a.Consistent) (i : UInt32) :
    i ∈ a.occupied.map UInt32.ofNat ↔ i.toNat ∈ a.occupied := by
  rw [List.mem_map]
  constructor
  · rintro ⟨j, hj, rfl⟩
    rwa [ha.toNat_ofNat (mem_occupied_iff.1 hj).1]
  · intro hi
    exact ⟨i.toNat, hi, UInt32.ofNat_toNat⟩

theorem map_toNat_occupied (ha : a.Consistent) :
    (a.occupied.map UInt32.ofNat).map UInt32.toNat = a.occupied := by
  rw [List.map_map]
  refine (List.map_congr_left fun i hi => ?_).trans (List.map_id _)
  exact ha.toNat_ofNat (mem_occupied_iff.1 hi).1

theorem nodup_occupied_map (ha : a.Consistent) : (a.occupied.map UInt32.ofNat).Nodup := by
  refine List.Nodup.map_on ?_ a.nodup_occupied
  intro i hi j hj e
  rw [← ha.toNat_ofNat (mem_occupied_iff.1 hi).1, e, ha.toNat_ofNat (mem_occupied_iff.1 hj).1]

theorem clear (ha : a.Consistent) : a.clear.Consistent where
  size_le := by simpa using ha.size_le
  free_nodup := by
    rw [free_clear]
    refine (List.nodup_reverse.2 ha.nodup_occupied_map).append ha.free_nodup ?_
    intro i hi hf
    rw [List.mem_reverse, ha.mem_occupied_map_iff] at hi
    exact (mem_occupied_iff.1 hi).2 ((ha.mem_free_iff i).1 hf)
  mem_free_iff i := by
    rw [isVacant_clear, free_clear, List.mem_append, List.mem_reverse, ha.mem_occupied_map_iff,
      mem_occupied_iff, ha.mem_free_iff]
    constructor
    · rintro (⟨hi, -⟩ | hv)
      · exact hi
      · exact hv.lt_size
    · intro hi
      by_cases hv : a.IsVacant i.toNat
      · exact .inr hv
      · exact .inl ⟨hi, hv⟩
  free_length_add_live := by
    have hlen := ha.length_occupied
    have hsum := ha.free_length_add_live
    rw [free_clear, List.length_append, List.length_reverse, List.length_map, size_slots_clear]
    change _ + 0 = _
    omega
  one_le_generation i s hs := by
    rw [getElem?_slots_clear] at hs
    obtain ⟨t, ht, rfl⟩ := Option.map_eq_some_iff.1 hs
    unfold Slot.vacate
    split
    next => exact Slot.one_le_nextGeneration _
    next => exact ha.one_le_generation i t ht

/-- **Every move keeps an arena consistent.** -/
theorem move (ha : a.Consistent) {retired : List Nat} {b : Arena} (m : Move a retired b) :
    b.Consistent := by
  cases m with
  | stay => exact ha
  | allocate room =>
    cases hf : a.free with
    | nil => exact ha.allocate_grow hf room
    | cons index rest => exact ha.allocate_reuse hf
  | put live p => exact ha.put live p
  | retire live => exact ha.retire live
  | clear => exact ha.clear

theorem perform (ha : a.Consistent) (c : Command) : (a.perform c).arena.Consistent :=
  ha.move (a.perform_move c)

theorem performAll (ha : a.Consistent) (cs : List Command) : (a.performAll cs).Consistent := by
  induction cs generalizing a with
  | nil => exact ha
  | cons c cs ih => exact ih (ha.perform c)

end Consistent

/-! ## Reachable arenas -/

/-- An arena that commands lead to from a new one, made with or without room. -/
inductive Reachable : Arena → Prop
  /-- A new arena. -/
  | empty : Reachable .empty
  /-- A new arena with room for some points. -/
  | withCapacity (room : Nat) : Reachable (.withCapacity room)
  /-- An arena after a command. -/
  | perform {a : Arena} (reached : Reachable a) (c : Command) : Reachable (a.perform c).arena

theorem Reachable.performAll {a : Arena} (ha : a.Reachable) (cs : List Command) :
    (a.performAll cs).Reachable := by
  induction cs generalizing a with
  | nil => exact ha
  | cons c cs ih => exact ih (ha.perform c)

theorem Reachable.consistent {a : Arena} (ha : a.Reachable) : a.Consistent := by
  induction ha with
  | empty => exact .empty
  | withCapacity room => exact .empty
  | perform _ c ih => exact ih.perform c

/-- **The accounts of a reachable arena agree, and no operation on it fails inside.** The vacant
slots wait on the stack, each once, and the others count as live; no slot is in generation 0. So an
allocation finds a vacant slot on top of the stack, a release never counts below zero, and where a
slot is found for writing there is a point in it. -/
theorem Reachable.accounts_agree {a : Arena} (ha : a.Reachable) :
    (a.free.Nodup ∧
      (∀ i : Nat, i ∈ a.free.map UInt32.toNat ↔ ∃ s, a.slots[i]? = some s ∧ s.point = none) ∧
      (∀ i ∈ a.free, i.toNat < a.slots.size) ∧
      a.live = a.slots.countP Slot.isOccupied ∧
      a.free.length + a.live = a.slots.size ∧
      ∀ s ∈ a.slots, 1 ≤ s.generation) ∧
    (∀ index rest, a.free = index :: rest →
      ∃ s, a.slots[index.toNat]? = some s ∧ s.point = none) ∧
    ∀ h s, a.liveSlot? h = some s → 0 < a.live ∧ s.point ≠ none := by
  have hc := ha.consistent
  refine ⟨⟨hc.free_nodup, hc.mem_free_map_iff, ?_, ?_, hc.free_length_add_live, ?_⟩, ?_, ?_⟩
  · intro i hi
    exact ((hc.mem_free_iff i).1 hi).lt_size
  · rw [Consistent.countP_eq_length_occupied, hc.length_occupied]
  · intro s hs
    obtain ⟨i, hi⟩ := Array.mem_iff_getElem?.1 hs
    exact hc.one_le_generation i s hi
  · intro index rest hf
    exact (hc.mem_free_iff index).1 (by simp [hf])
  · intro h s hs
    rw [liveSlot?_eq, Option.map_eq_some_iff] at hs
    obtain ⟨p, hp, rfl⟩ := hs
    have live : (a.find? h).isSome := Option.isSome_of_eq_some hp
    exact ⟨hc.live_pos live, by simp⟩

/-- One of three points is released, the others are cleared and one slot is used again: then two
slots wait and one point is live. -/
theorem accounts_agree_after_clear :
    let a := Arena.empty.performAll
      [.allocate, .allocate, .allocate, .release (.pack 1 1), .clear, .allocate]
    a.Reachable ∧ a.free = [0, 1] ∧ a.live = 1 ∧ a.free.Nodup ∧
      a.live = a.slots.countP Slot.isOccupied ∧ a.free.length + a.live = a.slots.size :=
  have ha := Reachable.empty.performAll
    [.allocate, .allocate, .allocate, .release (.pack 1 1), .clear, .allocate]
  have agree := ha.accounts_agree.1
  ⟨ha, by decide, by decide, agree.1, agree.2.2.2.1, agree.2.2.2.2.1⟩

end Arena

end PointBridge
