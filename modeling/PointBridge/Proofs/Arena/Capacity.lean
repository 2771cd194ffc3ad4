import Mathlib.Data.List.Infix
import Mathlib.Order.Bounds.Basic
import PointBridge.Proofs.Arena.Taken

/-!
# Capacity is the greatest number of live points

An arena adds a slot only when every slot holds a point, and it never gives one back. So in a run
from a new arena the number of slots is the greatest number of points that were live at once
(`isGreatest_capacity`), and every other allocation reused a slot and reported it
(`length_eventsOf_add_capacity`). Both are put together in `capacity_is_peak`.
-/

namespace PointBridge

open Trace (Event)

namespace Arena

variable {a b : Arena}

/-! ## One command -/

/-- **An arena grows only with its live points.** -/
theorem Move.capacity_eq {retired : List Nat} (m : Move a retired b) (ha : a.Consistent) :
    b.capacity = max b.size a.capacity := by
  have fits : ∀ {c : Arena}, c.Consistent → c.size ≤ c.capacity := fun hc =>
    Nat.le_trans (Nat.le_add_left ..) (Nat.le_of_eq hc.free_length_add_live)
  -- where no slot is added, the live points have room in the slots that there are
  have unchanged (same : b.capacity = a.capacity) : b.capacity = max b.size a.capacity := by
    rw [← same, Nat.max_eq_right (fits (ha.move m))]
  cases m with
  | stay => exact unchanged rfl
  | allocate room =>
    cases hf : a.free with
    | nil =>
      have hsum := ha.free_length_add_live
      rw [hf, List.length_nil] at hsum
      rw [allocate_of_free_nil hf]
      simp only [capacity, size, Array.size_push]
      omega
    | cons index rest =>
      refine unchanged ?_
      rw [allocate_of_free_cons hf]
      exact size_slots_put ..
  | put live p => exact unchanged (size_slots_put ..)
  | retire live => exact unchanged (size_slots_retire ..)
  | clear => exact unchanged (size_slots_clear ..)

/-- An allocation reports the reuse of a slot or adds one; no other command does either. -/
theorem length_events_add_capacity (a : Arena) (c : Command) :
    (a.perform c).events.length + (a.perform c).arena.capacity =
      a.capacity + (a.perform c).answer.handle?.toList.length := by
  generalize hperf : a.perform c = o
  cases hperf ▸ a.perform_effect c with
  | allocate room =>
    cases hf : a.free with
    | nil => simp [allocate_of_free_nil hf, Allocation.events, Answer.handle?, capacity]
    | cons index rest =>
      simp [allocate_of_free_cons hf, Allocation.events, Answer.handle?, capacity, Nat.add_comm]
  | exhausted | release | put | clear => simp [Answer.handle?, capacity]
  | read _ _ _ noHandle => simp [reading, handle?_eq_none_iff.2 noHandle]

/-- An allocation gives a handle or panics. -/
theorem length_handle?_add_ite (a : Arena) (c : Command) :
    (a.perform c).answer.handle?.toList.length +
      (if (a.perform c).answer == .exhausted then 1 else 0) =
      if c == .allocate then 1 else 0 := by
  by_cases hc : c = .allocate
  · subst hc
    cases room : a.isFull with
    | true => simp [perform_allocate_of_full room, Answer.handle?]
    | false => simp [perform_allocate_of_room room, Answer.handle?]
  · have given : (a.perform c).answer.handle? = none :=
      handle?_eq_none_iff.2 fun _ => answer_ne_handle hc
    have panicked : (a.perform c).answer ≠ .exhausted :=
      fun e => hc (answer_eq_exhausted_iff.1 e).1
    simp [given, panicked, hc]

/-! ## Runs -/

theorem capacity_le_performAll (a : Arena) (cs : List Command) :
    a.capacity ≤ (a.performAll cs).capacity := by
  induction cs generalizing a with
  | nil => exact Nat.le_refl _
  | cons c cs ih => exact Nat.le_trans (a.perform_move c).size_slots_le (ih _)

/-- **The capacity is the greatest number of points that were live at once.** -/
theorem isGreatest_capacity (cs : List Command) :
    IsGreatest {n | ∃ past, past <+: cs ∧ (Arena.empty.performAll past).size = n}
      (Arena.empty.performAll cs).capacity := by
  induction cs using List.reverseRecOn with
  | nil =>
    refine ⟨⟨[], List.prefix_rfl, rfl⟩, ?_⟩
    rintro n ⟨past, hpast, rfl⟩
    rw [List.prefix_nil.1 hpast]
    exact Nat.le_refl _
  | append_singleton cs c ih =>
    have hc := Consistent.empty.performAll cs
    have grown := (perform_move (Arena.empty.performAll cs) c).capacity_eq hc
    have more : {n | ∃ past, past <+: cs ++ [c] ∧ (Arena.empty.performAll past).size = n} =
        insert (Arena.empty.performAll (cs ++ [c])).size
          {n | ∃ past, past <+: cs ∧ (Arena.empty.performAll past).size = n} := by
      ext n
      simp only [List.prefix_concat_iff, or_and_right, exists_or, exists_eq_left,
        Set.mem_ofPred_eq, Set.mem_insert_iff, eq_comm]
    rw [more, performAll_append]
    change IsGreatest _ ((Arena.empty.performAll cs).perform c).arena.capacity
    rw [grown]
    exact ih.insert _

/-- An allocation that does not add a slot reports that it reuses one. -/
theorem length_eventsOf_add_capacity (a : Arena) (cs : List Command) :
    (a.eventsOf cs).length + (a.performAll cs).capacity = a.capacity + (a.issued cs).length := by
  induction cs generalizing a with
  | nil => simp [eventsOf, issued, answers, performAll]
  | cons c cs ih =>
    have first := a.length_events_add_capacity c
    have rest := ih (a.perform c).arena
    rw [eventsOf, issued_cons, performAll_cons, List.length_append, List.length_append]
    omega

theorem length_issued_add_count (a : Arena) (cs : List Command) :
    (a.issued cs).length + (a.answers cs).count .exhausted = cs.count .allocate := by
  induction cs generalizing a with
  | nil => rfl
  | cons c cs ih =>
    have first := a.length_handle?_add_ite c
    have rest := ih (a.perform c).arena
    rw [issued_cons, answers, List.length_append, List.count_cons, List.count_cons]
    omega

/-- The commands of a run report nothing but the reuse of slots. -/
theorem message_of_mem_eventsOf {cs : List Command} {e : Event} (h : e ∈ a.eventsOf cs) :
    e.message = "Reusing point slot" := by
  induction cs generalizing a with
  | nil => cases h
  | cons c cs ih =>
    rcases List.mem_append.1 h with first | later
    · obtain ⟨k, rfl⟩ := eq_slotReused_of_mem_events first
      rfl
    · exact ih later

/-- **The capacity is the peak of the live points.** In a run from a new arena the number of slots
is the greatest number of points that were live at once. It never shrinks, and each slot waits or
holds a point. Of the allocations in the run, so many added a slot; each other one reported that it
reuses a slot. (An allocation that panics for want of an index is none of them.) -/
theorem capacity_is_peak (cs : List Command) :
    let a := Arena.empty.performAll cs
    IsGreatest {n | ∃ past, past <+: cs ∧ (Arena.empty.performAll past).size = n} a.capacity ∧
    (∀ past, past <+: cs → (Arena.empty.performAll past).capacity ≤ a.capacity) ∧
    a.free.length + a.size = a.capacity ∧
    (Arena.empty.eventsOf cs).countP (·.message = "Reusing point slot") + a.capacity =
      (Arena.empty.issued cs).length ∧
    (Arena.empty.issued cs).length + (Arena.empty.answers cs).count .exhausted =
      cs.count .allocate := by
  refine ⟨isGreatest_capacity cs, ?_, ?_, ?_, length_issued_add_count _ cs⟩
  · rintro past ⟨later, rfl⟩
    rw [performAll_append]
    exact capacity_le_performAll _ later
  · exact (Consistent.empty.performAll cs).free_length_add_live
  · rw [List.countP_eq_length.2 fun e he => decide_eq_true (message_of_mem_eventsOf he),
      length_eventsOf_add_capacity]
    exact Nat.zero_add _

end Arena

end PointBridge
