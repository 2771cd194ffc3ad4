import Mathlib.Data.List.Induction
import PointBridge.Proofs.Arena.Taken

/-!
# Histories of runs

A history is a list of commands with the answers to them. In a run from a new arena, the history
alone says which handles are live: those that an allocation gave and that were neither released nor
cleared since (`live_performAll_iff`). If the run retires no slot so often that its generations
repeat, each handle is given and released once at most, and is dead from then on
(`handle_lifetimes`).
-/

namespace PointBridge

namespace Arena

/-! ## Histories -/

/-- A list of commands with the answers to them. -/
def history (a : Arena) (cs : List Command) : List (Command × Answer) := cs.zip (a.answers cs)

/-- Some allocation gave the handle, and since then neither was it released nor the arena
cleared. -/
def Outstanding (past : List (Command × Answer)) (h : Handle) : Prop :=
  ∃ before after, past = before ++ (.allocate, .handle h) :: after ∧
    ∀ e ∈ after, e.1 ≠ .release h ∧ e.1 ≠ .clear

/-- The handle that a command released, if its answer says so. -/
def releasedBy : Command × Answer → Option Handle
  | (.release h, .point _) => some h
  | _ => none

/-- The handles that a list of commands releases, in order. -/
def released (a : Arena) (cs : List Command) : List Handle := (a.history cs).filterMap releasedBy

theorem answers_append (a : Arena) (cs ds : List Command) :
    a.answers (cs ++ ds) = a.answers cs ++ (a.performAll cs).answers ds := by
  induction cs generalizing a with
  | nil => rfl
  | cons c cs ih =>
    rw [List.cons_append, answers, ih, answers]
    rfl

theorem eventsOf_append (a : Arena) (cs ds : List Command) :
    a.eventsOf (cs ++ ds) = a.eventsOf cs ++ (a.performAll cs).eventsOf ds := by
  induction cs generalizing a with
  | nil => rfl
  | cons c cs ih =>
    rw [List.cons_append, eventsOf, ih, eventsOf, List.append_assoc]
    rfl

theorem length_answers (a : Arena) (cs : List Command) : (a.answers cs).length = cs.length := by
  induction cs generalizing a with
  | nil => rfl
  | cons c cs ih => rw [answers, List.length_cons, ih, List.length_cons]

section Histories

variable {a : Arena} {c : Command} {cs : List Command} {h : Handle} {n : Nat}

theorem outstanding_append_singleton {past : List (Command × Answer)} {e : Command × Answer} :
    Outstanding (past ++ [e]) h ↔
      e = (.allocate, .handle h) ∨ Outstanding past h ∧ e.1 ≠ .release h ∧ e.1 ≠ .clear := by
  constructor
  · rintro ⟨before, after, heq, hafter⟩
    rcases List.eq_nil_or_concat after with rfl | ⟨after, last, rfl⟩
    · exact .inl (List.singleton_inj.1 (List.append_inj' heq rfl).2)
    · rw [List.concat_eq_append, ← List.cons_append, ← List.append_assoc] at heq
      obtain ⟨rfl, hlast⟩ := List.append_inj' heq rfl
      cases hlast
      refine .inr ⟨⟨before, after, rfl, fun x hx => hafter x (by simp [hx])⟩, ?_⟩
      exact hafter e (by simp)
  · rintro (rfl | ⟨⟨before, after, rfl, hafter⟩, he⟩)
    · exact ⟨past, [], rfl, nofun⟩
    · refine ⟨before, after ++ [e], by simp, fun x hx => ?_⟩
      rcases List.mem_append.1 hx with hx | hx
      · exact hafter x hx
      · rw [List.mem_singleton.1 hx]
        exact he

theorem history_append_singleton (a : Arena) (cs : List Command) (c : Command) :
    a.history (cs ++ [c]) = a.history cs ++ [(c, ((a.performAll cs).perform c).answer)] := by
  unfold history
  rw [answers_append, List.zip_append (length_answers a cs).symm]
  rfl

/-- **Liveness is history.** A handle is live in a run from a new arena if an allocation gave it
and since then neither was it released nor the arena cleared. -/
theorem live_performAll_iff (cs : List Command) (h : Handle) :
    ((Arena.empty.performAll cs).find? h).isSome ↔ Outstanding (Arena.empty.history cs) h := by
  induction cs using List.reverseRecOn with
  | nil =>
    refine iff_of_false (by simp [find?, Arena.empty, performAll]) ?_
    rintro ⟨before, after, heq, -⟩
    exact absurd heq (by simp [history])
  | append_singleton cs c ih =>
    have hc := Consistent.empty.performAll cs
    rw [performAll_append, history_append_singleton, outstanding_append_singleton, ← ih]
    change (((Arena.empty.performAll cs).perform c).arena.find? h).isSome ↔ _
    rw [hc.live_perform_iff c h]
    refine or_congr ⟨fun e => ?_, fun e => congrArg Prod.snd e⟩ Iff.rfl
    rw [e, (answer_eq_handle_iff.1 e).1]

theorem releasedBy_eq_some_iff :
    releasedBy (c, (a.perform c).answer) = some h ↔ c = .release h ∧ (a.find? h).isSome := by
  cases c with
  | release k =>
    rw [perform_release]
    cases hp : a.find? k with
    | none =>
      rw [access_of_none hp]
      refine iff_of_false nofun ?_
      rintro ⟨e, live⟩
      cases e
      exact Option.not_isSome_iff_eq_none.2 hp live
    | some p =>
      rw [access_of_some hp]
      simp only [releasedBy, Option.some.injEq, Command.release.injEq]
      exact ⟨fun e => ⟨e, by rw [← e, hp]; rfl⟩, And.left⟩
  | _ => exact iff_of_false nofun nofun

theorem released_cons (a : Arena) (c : Command) (cs : List Command) :
    a.released (c :: cs) =
      (releasedBy (c, (a.perform c).answer)).toList ++ (a.perform c).arena.released cs := by
  unfold released history
  rw [answers, List.zip_cons_cons, List.filterMap_cons]
  cases releasedBy (c, (a.perform c).answer) <;> rfl

/-- A taken handle that is dead is not released again. -/
theorem Taken.notMem_released (t : a.Taken n h) (ha : a.Consistent) (dead : a.find? h = none)
    (hn : (a.retirements cs).count h.index.toNat ≤ n) : h ∉ a.released cs := by
  induction cs generalizing a n with
  | nil => exact List.not_mem_nil
  | cons c cs ih =>
    rw [count_retirements_cons] at hn
    rw [released_cons, List.mem_append, Option.mem_toList, not_or]
    constructor
    · intro e
      exact Option.not_isSome_iff_eq_none.2 dead (releasedBy_eq_some_iff.1 e).2
    · exact ih (t.move ha (a.perform_move c) (by omega)) (ha.perform c) (t.find?_perform ha dead)
        (by omega)

/-- **No handle is released twice** in a run that retires no slot so often that its generations
repeat. -/
theorem Consistent.nodup_released (ha : a.Consistent)
    (hn : ∀ i, (a.retirements cs).count i < Slot.generationCount) : (a.released cs).Nodup := by
  induction cs generalizing a with
  | nil => exact List.nodup_nil
  | cons c cs ih =>
    have hsum := count_retirements_cons a c cs
    have hrest := ih (ha.perform c) fun i => Nat.lt_of_le_of_lt (by rw [hsum]; omega) (hn i)
    rw [released_cons]
    cases hk : releasedBy (c, (a.perform c).answer) with
    | none => exact hrest
    | some k =>
      obtain ⟨rfl, live⟩ := releasedBy_eq_some_iff.1 hk
      refine List.nodup_cons.2 ⟨?_, hrest⟩
      have dead := ha.find?_perform_of_ends (c := .release k) (.inl rfl)
      have taken := (ha.taken_of_live live (hn k.index.toNat)).move ha
        (a.perform_move (.release k)) (by rw [hsum]; omega)
      exact taken.notMem_released (ha.perform _) dead (by rw [hsum]; omega)

/-- An outstanding handle was given. -/
theorem Outstanding.mem_issued (ho : Outstanding (a.history cs) h) : h ∈ a.issued cs := by
  obtain ⟨before, after, heq, -⟩ := ho
  have hmem : (Command.allocate, Answer.handle h) ∈ a.history cs := by simp [heq]
  exact List.mem_filterMap.2 ⟨_, (List.of_mem_zip hmem).2, rfl⟩

/-- **The lifetimes of handles.** In a run from a new arena that retires no slot so often that its
generations repeat, no handle is given twice and none is null. At each point of the run the live
handles are those that were given and neither released nor cleared since. So a handle that was
released or cleared is dead for good, none is released twice, and one that was never given is
dead. -/
theorem handle_lifetimes (cs : List Command)
    (bound : ∀ slot, (Arena.empty.retirements cs).count slot < 2 ^ 32 - 1) :
    (Arena.empty.issued cs).Nodup ∧
    (∀ h ∈ Arena.empty.issued cs, h ≠ .null) ∧
    (∀ past, past <+: cs → ∀ h, (Arena.empty.performAll past).contains h ↔
      Outstanding (Arena.empty.history past) h) ∧
    (∀ past c later, past ++ c :: later <+: cs → ∀ h ∈ Arena.empty.issued past,
      c = .release h ∨ c = .clear →
        (Arena.empty.performAll (past ++ c :: later)).contains h = false) ∧
    (Arena.empty.released cs).Nodup ∧
    ∀ past, past <+: cs → ∀ h ∉ Arena.empty.issued past,
      (Arena.empty.performAll past).contains h = false := by
  have hnew := Consistent.empty
  refine ⟨hnew.nodup_issued bound, ?_, fun past _ h => live_performAll_iff past h, ?_,
    hnew.nodup_released bound, ?_⟩
  · intro h given null
    exact hnew.null_notMem_issued (null ▸ given)
  · intro past c later hle h given hc
    obtain ⟨rest, rfl⟩ := hle
    have hn := bound h.index.toNat
    rw [retirements_append, List.count_append] at hn
    rw [contains, hnew.find?_performAll_of_ended given hc (by unfold Slot.generationCount; omega)]
    rfl
  · intro past _ h hnot
    rw [contains, Bool.eq_false_iff, Ne, live_performAll_iff]
    exact fun ho => hnot ho.mem_issued

/-- One slot is given three times, with a release and a clearing between: the three handles differ,
and only the last one is live. -/
theorem handle_lifetimes_of_one_slot :
    let cs : List Command := [.allocate, .release (.pack 0 1), .allocate, .clear, .allocate]
    (∀ slot, (Arena.empty.retirements cs).count slot < 2 ^ 32 - 1) ∧
      Arena.empty.issued cs = [.pack 0 1, .pack 0 2, .pack 0 3] ∧ (Arena.empty.issued cs).Nodup ∧
      ¬ (Arena.empty.performAll cs).contains (.pack 0 1) ∧
      ¬ (Arena.empty.performAll cs).contains (.pack 0 2) ∧
      Outstanding (Arena.empty.history cs) (.pack 0 3) := by
  intro cs
  have bound : ∀ slot, (Arena.empty.retirements cs).count slot < 2 ^ 32 - 1 := by
    intro slot
    have hlen : (Arena.empty.retirements cs).length = 2 := by decide
    exact Nat.lt_of_le_of_lt (hlen ▸ List.count_le_length) (by decide)
  obtain ⟨nodup, -, live, ended, -⟩ := handle_lifetimes cs bound
  have given : Arena.empty.issued cs = [.pack 0 1, .pack 0 2, .pack 0 3] := by decide +kernel
  have last : (Arena.empty.performAll cs).contains (.pack 0 3) := by decide +kernel
  refine ⟨bound, given, nodup, ?_, ?_, (live cs (List.prefix_refl cs) _).1 last⟩
  · rw [Bool.not_eq_true]
    exact ended [.allocate] (.release (.pack 0 1)) [.allocate, .clear, .allocate]
      (List.prefix_refl cs) _ (by decide) (.inl rfl)
  · rw [Bool.not_eq_true]
    exact ended [.allocate, .release (.pack 0 1), .allocate] .clear [.allocate]
      (List.prefix_refl cs) _ (by decide) (.inr rfl)

end Histories

end Arena

end PointBridge
