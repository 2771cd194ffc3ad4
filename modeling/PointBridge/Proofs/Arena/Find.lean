import PointBridge.Proofs.Arena.Consistent

/-!
# What handles find after a move

Seen through `Arena.find?`, an arena is a map from handles to points: putting a value, retiring,
clearing and allocating change it at one handle or at all, and leave every other handle alone
(`find?_perform_of_target_ne`). The handle of an allocation found nothing before. The number of
live points is that of the handles that find one.
-/

namespace PointBridge

namespace Arena

variable {a : Arena} {h : Handle}

theorem find?_of_getElem? {s : Slot} (hs : a.slots[h.index.toNat]? = some s) :
    a.find? h = if s.generation = h.generation then s.point else none := by
  unfold find?
  rw [hs]
  by_cases hg : s.generation = h.generation <;> simp [Option.filter, hg]

theorem find?_of_getElem?_none (hs : a.slots[h.index.toNat]? = none) : a.find? h = none := by
  unfold find?
  rw [hs]
  rfl

/-- A handle with an index whose slot changes finds the new content if it has the generation of
the new slot. All other handles find what they found before. -/
theorem find?_of_change {b : Arena} {i : UInt32} {s : Slot}
    (hs : b.slots[i.toNat]? = some s)
    (hother : ∀ j : Nat, j ≠ i.toNat → b.slots[j]? = a.slots[j]?)
    (hold : ∀ k : Handle, k.index = i → k.generation ≠ s.generation → a.find? k = none)
    (k : Handle) : b.find? k = if k = .pack i s.generation then s.point else a.find? k := by
  by_cases hi : k.index = i
  · have hk : s.generation = k.generation ↔ k = .pack i s.generation := by
      constructor
      · intro e
        exact Handle.eq_of_halves (by simp [hi]) (by simp [e])
      · intro e
        simpa using congrArg Handle.generation e.symm
    rw [find?_of_getElem? (h := k) (hi ▸ hs)]
    split
    next e => rw [if_pos (hk.1 e)]
    next e => rw [if_neg (mt hk.2 e), hold k hi (Ne.symm e)]
  · have hne : k ≠ .pack i s.generation := by
      rintro rfl
      simp at hi
    rw [if_neg hne]
    exact find?_congr (hother _ fun e => hi (UInt32.toNat_inj.1 e))

/-- Only one handle with the index of a live one is live. -/
theorem find?_of_live_of_ne (live : (a.find? h).isSome) {k : Handle} (hi : k.index = h.index)
    (hne : k.generation ≠ h.generation) : a.find? k = none := by
  obtain ⟨s, hs, hg, -⟩ := find?_isSome_iff.1 live
  rw [find?_of_getElem? (h := k) (hi ▸ hs), if_neg]
  exact fun e => hne (e.symm.trans hg)

theorem find?_put (live : (a.find? h).isSome) (p : Point) (k : Handle) :
    (a.put h p).find? k = if k = h then some p else a.find? k := by
  obtain ⟨s, hs, hg, -⟩ := find?_isSome_iff.1 live
  have hnew : (a.put h p).slots[h.index.toNat]? = some ⟨h.generation, some p⟩ := by
    rw [getElem?_slots_put, if_pos rfl, hs, ← hg]
    rfl
  have hother : ∀ j : Nat, j ≠ h.index.toNat → (a.put h p).slots[j]? = a.slots[j]? := by
    intro j hj
    rw [getElem?_slots_put, if_neg (Ne.symm hj)]
  rw [find?_of_change hnew hother fun k hi hk => find?_of_live_of_ne live hi hk,
    Handle.pack_index_generation]

theorem find?_of_isVacant (hv : a.IsVacant h.index.toNat) : a.find? h = none := by
  by_contra hne
  exact not_isVacant_of_live (Option.isSome_iff_ne_none.2 hne) hv

theorem find?_retire (live : (a.find? h).isSome) (k : Handle) :
    (a.retire h).find? k = if k = h then none else a.find? k := by
  by_cases hi : k.index = h.index
  · have hv : (a.retire h).IsVacant k.index.toNat := (isVacant_retire live _).2 (.inl (by rw [hi]))
    rw [find?_of_isVacant hv]
    split
    next => rfl
    next hne => exact (find?_of_live_of_ne live hi fun hg => hne (Handle.eq_of_halves hi hg)).symm
  · rw [if_neg fun e => hi (congrArg Handle.index e)]
    apply find?_congr
    rw [getElem?_slots_retire, if_neg fun e => hi (UInt32.toNat_inj.1 e).symm]

theorem find?_clear (k : Handle) : a.clear.find? k = none := by
  by_cases hi : k.index.toNat < a.slots.size
  · exact find?_of_isVacant ((isVacant_clear _).2 hi)
  · exact find?_of_getElem?_none (by simpa using hi)

/-- Null finds nothing, as no slot is in generation 0. -/
theorem Consistent.find?_null (ha : a.Consistent) : a.find? .null = none := by
  cases hs : a.slots[Handle.null.index.toNat]? with
  | none => exact find?_of_getElem?_none hs
  | some s =>
    rw [find?_of_getElem? hs, if_neg]
    intro e
    have hg := ha.one_le_generation _ s hs
    rw [e, Handle.generation_null] at hg
    exact absurd hg (by decide)

/-! ## Other handles -/

/-- **A command leaves other handles alone**, unless it allocates or clears. -/
theorem find?_perform_of_target_ne {c : Command} {k : Handle} (hc : c ≠ .allocate)
    (hcl : c ≠ .clear) (ht : c.target? ≠ some k) : (a.perform c).arena.find? k = a.find? k := by
  generalize hperf : a.perform c = o
  cases hperf ▸ a.perform_effect c with
  | allocate | exhausted => exact absurd rfl hc
  | release hp =>
    exact (find?_retire (Option.isSome_of_eq_some hp) k).trans
      (if_neg fun e => ht (congrArg some e.symm))
  | @put c h p target keeps hp q =>
    have hne : k ≠ h := fun e => ht (e ▸ target)
    exact (find?_put (Option.isSome_of_eq_some hp) q k).trans (if_neg hne)
  | clear => exact absurd rfl hcl
  | read => rfl

/-! ## Allocations -/

section Allocating

variable {index : UInt32} {rest : List UInt32}

/-- The slot on top of the stack is vacant; a new point goes there in its generation. -/
theorem Consistent.vacant_of_free_cons (ha : a.Consistent) (hf : a.free = index :: rest) :
    ∃ s, a.slots[index.toNat]? = some s ∧ s.point = none ∧
      a.allocate.handle = .pack index s.generation := by
  obtain ⟨s, hs, hp⟩ := (ha.mem_free_iff index).1 (by simp [hf])
  refine ⟨s, hs, hp, ?_⟩
  rw [allocate_of_free_cons hf]
  simp [generationAt, hs]

/-- A slot that is added gets the first index that is not in use. -/
theorem toNat_index_of_free_nil (hf : a.free = []) (room : a.isFull = false) :
    a.allocate.handle.index.toNat = a.slots.size := by
  have hlt : a.slots.size < maxSlots := by simpa [isFull, hf] using room
  rw [allocate_of_free_nil hf, Handle.index_pack, UInt32.toNat_ofNat_of_lt' hlt]

variable (ha : a.Consistent) (room : a.isFull = false)
include ha room

/-- The slot of an allocation holds the origin in the generation of its handle, and no handle with
its index found anything before. -/
theorem Consistent.getElem?_slots_allocate :
    a.allocate.arena.slots[a.allocate.handle.index.toNat]? =
        some ⟨a.allocate.handle.generation, some .origin⟩ ∧
      (∀ j : Nat, j ≠ a.allocate.handle.index.toNat →
        a.allocate.arena.slots[j]? = a.slots[j]?) ∧
      ∀ k : Handle, k.index = a.allocate.handle.index → a.find? k = none := by
  cases hf : a.free with
  | nil =>
    have hi := toNat_index_of_free_nil hf room
    refine ⟨?_, fun j hj => ?_, fun k hk => find?_of_getElem?_none ?_⟩
    · rw [hi, allocate_of_free_nil hf]
      simp [Slot.fresh]
    · rw [hi] at hj
      rw [allocate_of_free_nil hf, Array.getElem?_push, if_neg hj]
    · rw [hk, hi]
      simp
  | cons index rest =>
    obtain ⟨s, hs, hp, hh⟩ := ha.vacant_of_free_cons hf
    have hslots : a.allocate.arena.slots = (a.put a.allocate.handle .origin).slots := by
      rw [allocate_of_free_cons hf]
    have hi : a.allocate.handle.index = index := by rw [hh, Handle.index_pack]
    rw [hslots]
    refine ⟨?_, fun j hj => ?_, fun k hk => find?_of_isVacant ?_⟩
    · rw [getElem?_slots_put, if_pos rfl, hi, hs, hh, Handle.generation_pack]
      rfl
    · rw [getElem?_slots_put, if_neg (Ne.symm hj)]
    · rw [hk, hi]
      exact ⟨s, hs, hp⟩

/-- The handle of an allocation found nothing before. -/
theorem Consistent.find?_allocate_handle : a.find? a.allocate.handle = none :=
  (ha.getElem?_slots_allocate room).2.2 _ rfl

/-- An allocation binds its handle to the origin and leaves all others alone. -/
theorem Consistent.find?_allocate (k : Handle) :
    a.allocate.arena.find? k = if k = a.allocate.handle then some .origin else a.find? k := by
  obtain ⟨hs, hother, hold⟩ := ha.getElem?_slots_allocate room
  rw [find?_of_change hs hother fun k hi _ => hold k hi, Handle.pack_index_generation]

/-- The handle of an allocation is not null. -/
theorem Consistent.one_le_generation_allocate : 1 ≤ a.allocate.handle.generation :=
  (ha.move (.allocate room)).one_le_generation _ _ (ha.getElem?_slots_allocate room).1

end Allocating

/-! ## Live handles and live points -/

section Counting

variable {hs : List Handle}

/-- Live handles differ in their indices. -/
theorem eq_of_live_of_index_eq {k : Handle} (hlive : (a.find? h).isSome)
    (klive : (a.find? k).isSome) (hi : h.index = k.index) : h = k := by
  refine Handle.eq_of_halves hi (by_contra fun hg => ?_)
  rw [find?_of_live_of_ne klive hi hg] at hlive
  exact Bool.false_ne_true hlive

/-- There are at least as many live points as live handles in a list without repetition. -/
theorem Consistent.length_le_live (ha : a.Consistent) (nodup : hs.Nodup)
    (live : ∀ k ∈ hs, (a.find? k).isSome) : hs.length ≤ a.live := by
  have hm : (hs.map fun k => k.index.toNat).Nodup := by
    refine List.Nodup.map_on (fun k hk l hl e => ?_) nodup
    exact eq_of_live_of_index_eq (live k hk) (live l hl) (UInt32.toNat_inj.1 e)
  have hsub : (hs.map fun k => k.index.toNat) ⊆ a.occupied := by
    intro i hi
    obtain ⟨k, hk, rfl⟩ := List.mem_map.1 hi
    exact mem_occupied_iff.2 ⟨lt_size_of_live (live k hk), not_isVacant_of_live (live k hk)⟩
  rw [← ha.length_occupied]
  simpa using (hm.subperm hsub).length_le

/-- There are at most as many live points as handles in a list of all live ones. -/
theorem Consistent.live_le_length (ha : a.Consistent)
    (all : ∀ k : Handle, (a.find? k).isSome → k ∈ hs) : a.live ≤ hs.length := by
  have hsub : a.occupied ⊆ hs.map fun k => k.index.toNat := by
    intro i hi
    obtain ⟨hlt, hv⟩ := mem_occupied_iff.1 hi
    have e := ha.toNat_ofNat hlt
    have hs' := Array.getElem?_eq_getElem hlt
    refine List.mem_map.2 ⟨.pack (.ofNat i) a.slots[i].generation, all _ ?_, by simpa using e⟩
    refine find?_isSome_iff.2 ⟨a.slots[i], by simp [e], by simp, ?_⟩
    exact Option.isSome_iff_ne_none.2 fun hp => hv ⟨_, hs', hp⟩
  rw [← ha.length_occupied]
  simpa using (a.nodup_occupied.subperm hsub).length_le

end Counting

end Arena

end PointBridge
