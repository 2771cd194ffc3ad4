import PointBridge.Proofs.Arena.Find

/-!
# Which handles are live after a command

Only an allocation gives a handle, and only a release or a clearing takes one away. So the handles
that are live after a command are the one that it gives and those that were live before and that it
does not take away (`Consistent.live_perform_iff`).
-/

namespace PointBridge

namespace Arena

variable {a : Arena} {c : Command} {h : Handle}

/-! ## Handles in answers -/

/-- The handle that an answer gives, if it gives one. -/
def Answer.handle? : Answer → Option Handle
  | .handle h => some h
  | _ => none

theorem handle?_eq_some_iff {x : Answer} : x.handle? = some h ↔ x = .handle h := by
  cases x <;> simp [Answer.handle?]

theorem handle?_eq_none_iff {x : Answer} : x.handle? = none ↔ ∀ h, x ≠ .handle h := by
  cases x <;> simp [Answer.handle?]

/-- Only an allocation answers with a handle. -/
theorem answer_ne_handle (hc : c ≠ .allocate) : (a.perform c).answer ≠ .handle h := by
  generalize hperf : a.perform c = o
  cases hperf ▸ a.perform_effect c with
  | allocate | exhausted => exact absurd rfl hc
  | release | put | clear => nofun
  | read notAllocate notClear dead noHandle => exact noHandle h

theorem answer_eq_handle_iff : (a.perform c).answer = .handle h ↔
    c = .allocate ∧ a.isFull = false ∧ a.allocate.handle = h := by
  by_cases hc : c = .allocate
  · subst hc
    cases room : a.isFull with
    | true =>
      rw [perform_allocate_of_full room]
      simp
    | false =>
      rw [perform_allocate_of_room room]
      simp
  · exact iff_of_false (answer_ne_handle hc) fun e => hc e.1

/-! ## Live handles -/

/-- **Which handles are live after a command**: the one that it gave, and those that were live
before and are neither released nor cleared by it. -/
theorem Consistent.live_perform_iff (ha : a.Consistent) (c : Command) (h : Handle) :
    ((a.perform c).arena.find? h).isSome ↔
      (a.perform c).answer = .handle h ∨
        (a.find? h).isSome ∧ c ≠ .release h ∧ c ≠ .clear := by
  generalize hperf : a.perform c = o
  cases hperf ▸ a.perform_effect c with
  | allocate room =>
    rw [ha.find?_allocate room]
    by_cases e : h = a.allocate.handle
    · simp [e]
    · simp [e, Ne.symm e]
  | exhausted full => simp
  | @release k p hp =>
    rw [find?_retire (Option.isSome_of_eq_some hp)]
    by_cases e : h = k
    · simp [e]
    · simp [e, Ne.symm e]
  | @put c k p target keeps hp q =>
    have notClear : c ≠ .clear := by
      rintro rfl
      cases target
    have notRelease : c ≠ .release h := by
      rintro rfl
      cases target
      exact keeps rfl
    rw [find?_put (Option.isSome_of_eq_some hp)]
    by_cases e : h = k
    · simp [e, hp, notClear, e ▸ notRelease]
    · simp [e, notClear, notRelease]
  | clear =>
    rw [find?_clear]
    simp
  | read notAllocate notClear dead noHandle =>
    by_cases e : c = .release h
    · simp [reading, e, dead h e, noHandle]
    · simp [reading, e, notClear, noHandle]

/-- A release and a clearing leave the handle dead. -/
theorem Consistent.find?_perform_of_ends (ha : a.Consistent) (hc : c = .release h ∨ c = .clear) :
    (a.perform c).arena.find? h = none := by
  by_contra hne
  rcases (ha.live_perform_iff c h).1 (Option.isSome_iff_ne_none.2 hne) with e | ⟨-, hrel, hclear⟩
  · refine answer_ne_handle (fun hall => ?_) e
    subst hall
    exact hc.elim nofun nofun
  · exact hc.elim hrel hclear

end Arena

end PointBridge
