import PointBridge.Proofs.Arena.Live

/-!
# Handles in the course of a run

A slot shows a new generation after each retirement, and no generation twice before it has gone
through all of them. So a run that retires no slot that often never allocates a handle twice
(`Consistent.nodup_issued`), whatever arena it starts from, and a handle that was released or
cleared stays dead (`Consistent.find?_performAll_of_ended`).

The invariant behind this is `Taken`: within so many retirements of its slot, the generation of a
handle belongs to nothing but the point that the handle names now.
-/

namespace PointBridge

namespace Arena

/-! ## A slot after a move -/

section Slots

variable {a b : Arena} {retired : List Nat}

theorem mem_occupied_iff_isOccupied {i : Nat} {s : Slot} (hs : a.slots[i]? = some s) :
    i ∈ a.occupied ↔ s.isOccupied := by
  have hi := (Array.getElem?_eq_some_iff.1 hs).1
  rw [mem_occupied_iff, isVacant_iff_any hi, hs]
  simp [hi]

/-- An allocation leaves the generation of a slot as it is. -/
theorem Consistent.generation_allocate (ha : a.Consistent) (room : a.isFull = false) {s : Slot}
    (hs : a.slots[a.allocate.handle.index.toNat]? = some s) :
    s.generation = a.allocate.handle.generation := by
  cases hf : a.free with
  | nil =>
    have hi := (Array.getElem?_eq_some_iff.1 hs).1
    rw [toNat_index_of_free_nil hf room] at hi
    exact absurd hi (Nat.lt_irrefl _)
  | cons index rest =>
    obtain ⟨t, ht, -, hh⟩ := ha.vacant_of_free_cons hf
    rw [hh, Handle.index_pack, ht, Option.some.injEq] at hs
    rw [hh, Handle.generation_pack, hs]

/-- **What a move does to one slot.** Either the slot keeps its generation and does not lose its
point, or it is retired, once. -/
theorem Move.exists_slot (ha : a.Consistent) (m : Move a retired b) {i : Nat} {s : Slot}
    (hs : a.slots[i]? = some s) :
    ∃ t, b.slots[i]? = some t ∧
      (retired.count i = 0 ∧ t.generation = s.generation ∧ (s.point.isSome → t.point.isSome) ∨
        retired.count i = 1 ∧ t = s.retire) := by
  cases m with
  | stay => exact ⟨s, hs, .inl ⟨rfl, rfl, id⟩⟩
  | allocate room =>
    obtain ⟨hnew, hother, -⟩ := ha.getElem?_slots_allocate room
    by_cases hi : i = a.allocate.handle.index.toNat
    · subst hi
      exact ⟨_, hnew, .inl ⟨rfl, (ha.generation_allocate room hs).symm, fun _ => rfl⟩⟩
    · exact ⟨s, (hother i hi).trans hs, .inl ⟨rfl, rfl, id⟩⟩
  | @put h live p =>
    by_cases hi : h.index.toNat = i
    · refine ⟨{ s with point := some p }, ?_, .inl ⟨rfl, rfl, fun _ => rfl⟩⟩
      rw [getElem?_slots_put, if_pos hi, hs]
      rfl
    · exact ⟨s, by rw [getElem?_slots_put, if_neg hi, hs], .inl ⟨rfl, rfl, id⟩⟩
  | @retire h live =>
    by_cases hi : h.index.toNat = i
    · refine ⟨s.retire, ?_, .inr ⟨by simp [hi], rfl⟩⟩
      rw [getElem?_slots_retire, if_pos hi, hs]
      rfl
    · refine ⟨s, by rw [getElem?_slots_retire, if_neg hi, hs], .inl ⟨?_, rfl, id⟩⟩
      simp [hi]
  | clear =>
    refine ⟨s.vacate, by rw [getElem?_slots_clear, hs]; rfl, ?_⟩
    have hmem := mem_occupied_iff_isOccupied hs
    unfold Slot.vacate
    split
    next ho => exact .inr ⟨List.count_eq_one_of_mem a.nodup_occupied (hmem.2 ho), rfl⟩
    next ho => exact .inl ⟨List.count_eq_zero.2 (mt hmem.1 ho), rfl, id⟩

end Slots

/-! ## Taken handles -/

/-- Within `n` retirements of its slot, the generation of a handle comes up only now, if at all,
and then the slot holds a point. -/
def Taken (a : Arena) (n : Nat) (h : Handle) : Prop :=
  ∃ s, a.slots[h.index.toNat]? = some s ∧
    ∀ r ≤ n, Slot.nextGeneration^[r] s.generation = h.generation → r = 0 ∧ s.point.isSome

section Taking

variable {a b : Arena} {retired : List Nat} {n : Nat} {h : Handle}

/-- A live handle is taken for as long as generations do not repeat. -/
theorem Consistent.taken_of_live (ha : a.Consistent) (live : (a.find? h).isSome)
    (hn : n < Slot.generationCount) : a.Taken n h := by
  obtain ⟨s, hs, hg, hp⟩ := find?_isSome_iff.1 live
  refine ⟨s, hs, fun r hr e => ⟨?_, hp⟩⟩
  by_contra h0
  rw [← hg] at e
  exact Slot.iterate_nextGeneration_ne (ha.one_le_generation _ _ hs) (Nat.pos_of_ne_zero h0)
    (by omega) e

/-- A move keeps a handle taken for the retirements of its slot that are left. -/
theorem Taken.move (t : a.Taken n h) (ha : a.Consistent) (m : Move a retired b)
    (hn : retired.count h.index.toNat ≤ n) : b.Taken (n - retired.count h.index.toNat) h := by
  obtain ⟨s, hs, hfree⟩ := t
  obtain ⟨u, hu, ⟨hc, hg, hp⟩ | ⟨hc, rfl⟩⟩ := m.exists_slot ha hs
  · refine ⟨u, hu, fun r hr e => ?_⟩
    rw [hg] at e
    obtain ⟨h0, hlive⟩ := hfree r (by omega) e
    exact ⟨h0, hp hlive⟩
  · refine ⟨s.retire, hu, fun r hr e => ?_⟩
    have := (hfree (r + 1) (by omega) (by rwa [Function.iterate_succ_apply])).1
    omega

/-- An allocation does not give a handle that is taken. -/
theorem Taken.allocate_handle_ne (t : a.Taken n h) (ha : a.Consistent) (room : a.isFull = false) :
    a.allocate.handle ≠ h := by
  rintro rfl
  obtain ⟨s, hs, hfree⟩ := t
  have hg := ha.generation_allocate room hs
  have live : (a.find? a.allocate.handle).isSome :=
    find?_isSome_iff.2 ⟨s, hs, hg, (hfree 0 (Nat.zero_le n) hg).2⟩
  exact Option.not_isSome_iff_eq_none.2 (ha.find?_allocate_handle room) live

end Taking

/-! ## Runs -/

/-- The slots that a list of commands retires, in order. -/
def retirements (a : Arena) : List Command → List Nat
  | [] => []
  | c :: cs => a.retired c ++ retirements (a.perform c).arena cs

/-- The handles that a list of commands allocates, in order. -/
def issued (a : Arena) (cs : List Command) : List Handle := (a.answers cs).filterMap Answer.handle?

theorem performAll_cons (a : Arena) (c : Command) (cs : List Command) :
    a.performAll (c :: cs) = (a.perform c).arena.performAll cs := rfl

theorem performAll_append (a : Arena) (cs ds : List Command) :
    a.performAll (cs ++ ds) = (a.performAll cs).performAll ds := List.foldl_append

theorem retirements_append (a : Arena) (cs ds : List Command) :
    a.retirements (cs ++ ds) = a.retirements cs ++ (a.performAll cs).retirements ds := by
  induction cs generalizing a with
  | nil => rfl
  | cons c cs ih =>
    rw [List.cons_append, retirements, ih, retirements, List.append_assoc]
    rfl

section Runs

variable {a : Arena} {c : Command} {cs : List Command} {h : Handle} {n : Nat}

theorem issued_cons (a : Arena) (c : Command) (cs : List Command) :
    a.issued (c :: cs) = (a.perform c).answer.handle?.toList ++ (a.perform c).arena.issued cs := by
  unfold issued
  rw [answers, List.filterMap_cons]
  cases (a.perform c).answer.handle? <;> rfl

theorem mem_issued_cons : h ∈ a.issued (c :: cs) ↔
    (a.perform c).answer = .handle h ∨ h ∈ (a.perform c).arena.issued cs := by
  rw [issued_cons, List.mem_append, Option.mem_toList, handle?_eq_some_iff]

theorem count_retirements_cons (a : Arena) (c : Command) (cs : List Command) (i : Nat) :
    (a.retirements (c :: cs)).count i =
      (a.retired c).count i + ((a.perform c).arena.retirements cs).count i := by
  rw [retirements, List.count_append]

/-! ## Handles are given once -/

/-- A taken handle is not given again. -/
theorem Taken.notMem_issued (t : a.Taken n h) (ha : a.Consistent)
    (hn : (a.retirements cs).count h.index.toNat ≤ n) : h ∉ a.issued cs := by
  induction cs generalizing a n with
  | nil => exact List.not_mem_nil
  | cons c cs ih =>
    rw [count_retirements_cons] at hn
    rw [mem_issued_cons, not_or]
    refine ⟨fun e => ?_, ih (t.move ha (a.perform_move c) (by omega)) (ha.perform c) (by omega)⟩
    obtain ⟨-, room, hk⟩ := answer_eq_handle_iff.1 e
    exact t.allocate_handle_ne ha room hk

/-- **No handle is given twice** in a run that retires no slot so often that its generations
repeat. -/
theorem Consistent.nodup_issued (ha : a.Consistent)
    (hn : ∀ i, (a.retirements cs).count i < Slot.generationCount) : (a.issued cs).Nodup := by
  induction cs generalizing a with
  | nil => exact List.nodup_nil
  | cons c cs ih =>
    have hrest : ∀ i, ((a.perform c).arena.retirements cs).count i < Slot.generationCount := by
      intro i
      have := hn i
      rw [count_retirements_cons] at this
      omega
    rw [issued_cons]
    cases hk : (a.perform c).answer.handle? with
    | none => exact ih (ha.perform c) hrest
    | some k =>
      have live := (ha.live_perform_iff c k).2 (.inl (handle?_eq_some_iff.1 hk))
      have taken := (ha.perform c).taken_of_live live (hrest k.index.toNat)
      refine List.nodup_cons.2 ⟨?_, ih (ha.perform c) hrest⟩
      exact taken.notMem_issued (ha.perform c) (Nat.le_refl _)

/-- A handle that is neither live nor may come back soon stays taken. -/
theorem Taken.performAll (t : a.Taken n h) (ha : a.Consistent)
    (hn : (a.retirements cs).count h.index.toNat ≤ n) :
    (a.performAll cs).Taken (n - (a.retirements cs).count h.index.toNat) h := by
  induction cs generalizing a n with
  | nil => exact t
  | cons c cs ih =>
    rw [count_retirements_cons] at hn ⊢
    rw [← Nat.sub_sub, performAll_cons]
    exact ih (t.move ha (a.perform_move c) (by omega)) (ha.perform c) (by omega)

/-- A taken handle that is dead is dead after the next command. -/
theorem Taken.find?_perform (t : a.Taken n h) (ha : a.Consistent) (dead : a.find? h = none) :
    (a.perform c).arena.find? h = none := by
  by_contra hne
  rcases (ha.live_perform_iff c h).1 (Option.isSome_iff_ne_none.2 hne) with e | ⟨live, -⟩
  · obtain ⟨-, room, hk⟩ := answer_eq_handle_iff.1 e
    exact t.allocate_handle_ne ha room hk
  · exact Option.not_isSome_iff_eq_none.2 dead live

/-- A taken handle that is dead stays dead. -/
theorem Taken.find?_performAll (t : a.Taken n h) (ha : a.Consistent) (dead : a.find? h = none)
    (hn : (a.retirements cs).count h.index.toNat ≤ n) : (a.performAll cs).find? h = none := by
  induction cs generalizing a n with
  | nil => exact dead
  | cons c cs ih =>
    rw [count_retirements_cons] at hn
    rw [performAll_cons]
    exact ih (t.move ha (a.perform_move c) (by omega)) (ha.perform c) (t.find?_perform ha dead)
      (by omega)

/-- A handle that was given is taken from then on. -/
theorem Consistent.taken_of_mem_issued (ha : a.Consistent) (given : h ∈ a.issued cs)
    (hn : (a.retirements cs).count h.index.toNat + n < Slot.generationCount) :
    (a.performAll cs).Taken n h := by
  induction cs generalizing a with
  | nil => exact absurd given List.not_mem_nil
  | cons c cs ih =>
    rw [count_retirements_cons] at hn
    rw [performAll_cons]
    rcases mem_issued_cons.1 given with e | hrest
    · have live := (ha.live_perform_iff c h).2 (.inl e)
      have now := (ha.perform c).taken_of_live (h := h)
        (n := ((a.perform c).arena.retirements cs).count h.index.toNat + n) live (by omega)
      have later : ((a.perform c).arena.performAll cs).Taken _ h :=
        now.performAll (ha.perform c) (by omega)
      rwa [Nat.add_sub_cancel_left] at later
    · exact ih (ha.perform c) hrest (by omega)

/-- **A handle that was given and then released or cleared is dead for good**, in a run that does
not retire its slot so often that the generations repeat. -/
theorem Consistent.find?_performAll_of_ended {past later : List Command} (ha : a.Consistent)
    (given : h ∈ a.issued past) (hc : c = .release h ∨ c = .clear)
    (hn : (a.retirements (past ++ c :: later)).count h.index.toNat < Slot.generationCount) :
    (a.performAll (past ++ c :: later)).find? h = none := by
  have hpast := ha.performAll past
  rw [retirements_append, List.count_append] at hn
  have taken := ha.taken_of_mem_issued given hn
  rw [count_retirements_cons] at taken
  rw [performAll_append, performAll_cons]
  exact (taken.move hpast (Arena.perform_move _ c) (by omega)).find?_performAll (hpast.perform c)
    (hpast.find?_perform_of_ends hc) (by omega)

/-- The null handle is never given, as no slot is in generation 0. -/
theorem Consistent.null_notMem_issued (ha : a.Consistent) : .null ∉ a.issued cs := by
  induction cs generalizing a with
  | nil => exact List.not_mem_nil
  | cons c cs ih =>
    rw [mem_issued_cons, not_or]
    refine ⟨fun e => ?_, ih (ha.perform c)⟩
    obtain ⟨-, room, hk⟩ := answer_eq_handle_iff.1 e
    have hg := ha.one_le_generation_allocate room
    rw [hk, Handle.generation_null] at hg
    exact absurd hg (by decide)

end Runs

end Arena

end PointBridge
