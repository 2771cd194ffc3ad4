import PointBridge.Proofs.Arena.History

/-!
# Clearing releases every point

A clearing passes over the slots once and sets the count of live points to zero. It leaves the
arena that releases of all live points leave, one after the other in the order of their slots
(`clearing_releases_each`): the same slots, the same stack and the same count. So nothing that
happens later tells the two apart.

Releases of several live handles retire their slots (`performAll_releases`), whatever the stack
holds; for the handles of all live points these are the slots that a clearing retires
(`Consistent.clear_eq_foldl_retire`).
-/

namespace PointBridge

namespace Arena

/-! ## The handles of the live points -/

/-- The handles of the live points, in ascending order of their slots. -/
def handles (a : Arena) : List Handle :=
  a.occupied.map fun i => .pack (.ofNat i) (a.generationAt (.ofNat i))

section Handles

variable {a : Arena} {h : Handle}

theorem map_index_handles (a : Arena) :
    a.handles.map (·.index) = a.occupied.map UInt32.ofNat := by
  simp [handles]

theorem Consistent.map_toNat_index_handles (ha : a.Consistent) :
    a.handles.map (·.index.toNat) = a.occupied := by
  rw [← ha.map_toNat_occupied, ← map_index_handles, List.map_map]
  rfl

theorem Consistent.mem_handles_iff (ha : a.Consistent) :
    h ∈ a.handles ↔ (a.find? h).isSome := by
  unfold handles
  rw [List.mem_map]
  constructor
  · rintro ⟨i, hi, rfl⟩
    obtain ⟨hlt, hv⟩ := mem_occupied_iff.1 hi
    have hs := Array.getElem?_eq_getElem hlt
    have hp : a.slots[i].point ≠ none := fun e => hv ⟨_, hs, e⟩
    refine find?_isSome_iff.2 ⟨a.slots[i], ?_, ?_, Option.isSome_iff_ne_none.2 hp⟩
    · rw [Handle.index_pack, ha.toNat_ofNat hlt, hs]
    · simp [generationAt, ha.toNat_ofNat hlt, hs]
  · intro live
    obtain ⟨s, hs, hg, -⟩ := find?_isSome_iff.1 live
    refine ⟨h.index.toNat,
      mem_occupied_iff.2 ⟨lt_size_of_live live, not_isVacant_of_live live⟩, ?_⟩
    rw [UInt32.ofNat_toNat]
    refine Handle.eq_of_halves (Handle.index_pack ..) ?_
    simp [generationAt, hs, hg]

theorem pairwise_occupied (a : Arena) : a.occupied.Pairwise (· < ·) :=
  List.pairwise_lt_range.filter _

theorem Consistent.pairwise_handles (ha : a.Consistent) :
    a.handles.Pairwise fun h k => h.index < k.index := by
  have hp := a.pairwise_occupied
  rw [← ha.map_toNat_index_handles, List.pairwise_map] at hp
  exact hp

theorem Consistent.nodup_handles (ha : a.Consistent) : a.handles.Nodup :=
  ha.pairwise_handles.imp fun hlt e => UInt32.ne_of_lt hlt (congrArg Handle.index e)

end Handles

/-! ## Releasing several points -/

section Releasing

variable {a : Arena} {hs : List Handle}

/-- Releases of live points, each named once, succeed and retire the slots one after the other. -/
theorem performAll_releases (live : ∀ h ∈ hs, (a.find? h).isSome) (nodup : hs.Nodup) :
    a.performAll (hs.map .release) = hs.foldl retire a ∧
      a.eventsOf (hs.map .release) = [] ∧
      List.Forall₂ (fun h answer => ∃ p, a.find? h = some p ∧ answer = .point p) hs
        (a.answers (hs.map .release)) := by
  induction hs generalizing a with
  | nil => exact ⟨rfl, rfl, .nil⟩
  | cons h hs ih =>
    obtain ⟨hlive, others⟩ := List.forall_mem_cons.1 live
    obtain ⟨hnot, nodup⟩ := List.nodup_cons.1 nodup
    obtain ⟨p, hp⟩ := Option.isSome_iff_exists.1 hlive
    have first : a.perform (.release h) = ⟨.point p, a.retire h, []⟩ := by
      rw [perform_release, access_of_some hp]
    have same : ∀ k ∈ hs, (a.retire h).find? k = a.find? k := by
      intro k hk
      have hne : k ≠ h := fun e => hnot (e ▸ hk)
      rw [find?_retire hlive, if_neg hne]
    obtain ⟨state, silent, told⟩ := ih (fun k hk => (same k hk).symm ▸ others k hk) nodup
    rw [List.map_cons, performAll_cons, answers, eventsOf, first]
    refine ⟨state, silent, .cons ⟨p, hp, rfl⟩ ?_⟩
    refine ((List.forall₂_and_left _ _).2 ⟨same, told⟩).imp ?_
    rintro k answer ⟨e, q, hq, rfl⟩
    exact ⟨q, e.symm.trans hq, rfl⟩

theorem free_foldl_retire (a : Arena) (hs : List Handle) :
    (hs.foldl retire a).free = (hs.map (·.index)).reverse ++ a.free := by
  induction hs generalizing a with
  | nil => rfl
  | cons h hs ih =>
    rw [List.foldl_cons, ih, List.map_cons, List.reverse_cons, List.append_assoc]
    rfl

theorem live_foldl_retire (a : Arena) (hs : List Handle) :
    (hs.foldl retire a).live = a.live - hs.length := by
  induction hs generalizing a with
  | nil => rfl
  | cons h hs ih =>
    rw [List.foldl_cons, ih, List.length_cons, Nat.add_comm, ← Nat.sub_sub]
    rfl

theorem getElem?_slots_foldl_retire (nodup : (hs.map (·.index.toNat)).Nodup) (i : Nat) :
    (hs.foldl retire a).slots[i]? =
      if i ∈ hs.map (·.index.toNat) then a.slots[i]?.map Slot.retire else a.slots[i]? := by
  induction hs generalizing a with
  | nil => simp
  | cons h hs ih =>
    rw [List.map_cons, List.nodup_cons] at nodup
    rw [List.foldl_cons, ih nodup.2, getElem?_slots_retire, List.map_cons]
    by_cases hi : h.index.toNat = i
    · subst hi
      simp [nodup.1]
    · simp [hi, Ne.symm hi]

/-- **A clearing retires the slots of all live handles**, like the releases of these. -/
theorem Consistent.clear_eq_foldl_retire (ha : a.Consistent) :
    a.clear = a.handles.foldl Arena.retire a := by
  have slots : a.clear.slots = (a.handles.foldl Arena.retire a).slots := by
    apply Array.ext_getElem?
    intro i
    rw [getElem?_slots_clear, getElem?_slots_foldl_retire (by
      rw [ha.map_toNat_index_handles]
      exact a.nodup_occupied), ha.map_toNat_index_handles]
    cases hs : a.slots[i]? with
    | none => simp
    | some s =>
      simp only [mem_occupied_iff_isOccupied hs, Option.map_some, Slot.vacate]
      split <;> rfl
  have free : a.clear.free = (a.handles.foldl Arena.retire a).free := by
    rw [free_clear, free_foldl_retire, map_index_handles]
  have live : a.clear.live = (a.handles.foldl Arena.retire a).live := by
    rw [live_foldl_retire, handles, List.length_map, ha.length_occupied, Nat.sub_self]
    rfl
  calc a.clear
      = ⟨a.clear.slots, a.clear.free, a.clear.live⟩ := rfl
    _ = a.handles.foldl Arena.retire a := by rw [slots, free, live]

/-! ## Clearing and releasing -/

/-- **A clearing releases every point.** The handles of all live points can be released one after
the other, in ascending order of their slots; each release answers the point, and in the end the
arena is the one that a clearing leaves. So whatever commands come later, handles that they allocate
included, they get the same answers and lead to the same arena. -/
theorem clearing_releases_each (ha : a.Reachable) :
    let releases := a.handles.map Command.release
    (∀ h, h ∈ a.handles ↔ a.contains h = true) ∧
    a.handles.Pairwise (fun h k => h.index < k.index) ∧
    List.Forall₂ (fun h answer => ∃ p, a.get h = .ok p ∧ answer = .point p) a.handles
      (a.answers releases) ∧
    a.performAll releases = (a.perform .clear).arena ∧
    ∀ later,
      a.answers (releases ++ later) = a.answers releases ++ (a.answers (.clear :: later)).tail ∧
      a.eventsOf (releases ++ later) = a.eventsOf (.clear :: later) ∧
      a.performAll (releases ++ later) = a.performAll (.clear :: later) := by
  intro releases
  have hc := ha.consistent
  obtain ⟨state, silent, told⟩ :=
    performAll_releases (fun _ => hc.mem_handles_iff.1) hc.nodup_handles
  have state : a.performAll releases = (a.perform .clear).arena :=
    state.trans hc.clear_eq_foldl_retire.symm
  refine ⟨fun h => hc.mem_handles_iff, hc.pairwise_handles, ?_, state, fun later => ⟨?_, ?_, ?_⟩⟩
  · refine told.imp ?_
    rintro h answer ⟨p, hp, rfl⟩
    exact ⟨p, by rw [get, hp], rfl⟩
  · rw [answers_append, state]
    rfl
  · rw [eventsOf_append, state, silent]
    rfl
  · rw [performAll_append, state]
    rfl

/-- One of three points was released before: a clearing releases the other two, the first and then
the third. -/
theorem clearing_releases_two_of_three :
    let a := Arena.empty.performAll [.allocate, .allocate, .allocate, .release (.pack 1 1)]
    a.Reachable ∧ a.handles = [.pack 0 1, .pack 2 1] ∧
      a.performAll [.release (.pack 0 1), .release (.pack 2 1)] = (a.perform .clear).arena ∧
      (a.perform .clear).arena.free = [2, 0, 1] := by
  intro a
  have ha : a.Reachable := Reachable.empty.performAll _
  have names : a.handles = [.pack 0 1, .pack 2 1] := by decide +kernel
  obtain ⟨-, -, -, state, -⟩ := clearing_releases_each ha
  rw [names] at state
  exact ⟨ha, names, state, by decide +kernel⟩

end Releasing

end Arena

end PointBridge
