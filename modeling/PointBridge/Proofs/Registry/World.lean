import PointBridge.Proofs.Arena.Churn
import PointBridge.Proofs.Registry.Client

/-!
# Calls of several clients

Where there is room, a call of a client is a command to the arena (`World.step_eq`), which gives
the client one more handle if the command is an allocation. A client that allocates points and
frees each at once goes through the generations of one slot (`World.after_rounds`), which takes it
back to a generation that it had before if it goes on for long enough.
-/

namespace PointBridge

namespace Client

/-- A client that has obtained `k` handles allocates a point and frees it, a number of times. -/
def rounds (k : Nat) : Nat → List Call
  | 0 => []
  | n + 1 => .allocate :: .free (.own k) :: rounds (k + 1) n

/-- After such rounds it allocates once more, and looks at the first point that it was given. -/
def revisit (k n : Nat) : List Call := rounds k n ++ [.allocate, .getX (.own 0)]

theorem Ref.resolve_own (own : List Handle) (h : Handle) :
    (Ref.own own.length).resolve (own ++ [h]) = h := by
  rw [resolve_of_lt (by simp)]
  simp

theorem nameOf_cons (h : Handle) (own : List Handle) : nameOf (h :: own) h = .own 0 := by
  rw [nameOf, if_pos List.mem_cons_self, List.idxOf_cons_self]

end Client

open Client

namespace World

variable {ι : Type} {w : World ι} {i j : ι} {c : Call} {h : Handle}

/-! ## One call among several clients -/

theorem command_ne_clear : w.command j c ≠ .clear := by cases c <;> nofun

theorem command_eq_allocate_iff : w.command j c = .allocate ↔ c = .allocate := by
  cases c <;> simp [command, Call.resolve, Registry.Call.command]

/-- A call changes at most a point of the client that makes it. -/
theorem target_command (ht : (w.command j c).target? = some h) :
    h = .null ∨ h ∈ w.handles j := by
  cases c with
  | free r | setX r x | setY r y =>
    cases ht
    exact r.resolve_mem _
  | _ => cases ht

variable [DecidableEq ι]

theorem quiet_step (quiet : w.bridge.alarm = none) : (w.step j c).2.bridge.alarm = none :=
  (Registry.carryOut_call_snd quiet).1

theorem arena_step (quiet : w.bridge.alarm = none) :
    (w.step j c).2.arena = (w.arena.perform (w.command j c)).arena :=
  (Registry.carryOut_call_snd quiet).2

/-- Where an allocation finds room, a call is a command to the arena also for the client. -/
theorem step_eq (quiet : w.bridge.alarm = none) (room : c = .allocate → w.arena.isFull = false) :
    let answer := (w.arena.perform (w.command j c)).answer
    let own := w.handles j ++ answer.handle?.toList
    (w.step j c).1 = .of own (.ok answer) ∧
      (w.step j c).2.handles = Function.update w.handles j own := by
  have hroom (allocates : c.resolve (w.handles j) = .allocate) : w.arena.isFull = false := by
    refine room ?_
    cases c <;> first | rfl | cases allocates
  have hfst := Registry.carryOut_call_fst (c := c.resolve (w.handles j)) quiet hroom
  unfold step
  rcases hrun : w.bridge.carryOut (Registry.call (c.resolve (w.handles j))) with ⟨result, bridge⟩
  rw [hrun] at hfst
  obtain rfl : result = _ := hfst
  exact ⟨rfl, rfl⟩

theorem mem_handles_step (quiet : w.bridge.alarm = none) (room : w.arena.isFull = false) :
    h ∈ (w.step j c).2.handles i ↔
      h ∈ w.handles i ∨ i = j ∧ (w.arena.perform (w.command j c)).answer = .handle h := by
  rw [(step_eq quiet fun _ => room).2, Function.update_apply]
  split
  next e => rw [e, List.mem_append, Option.mem_toList, Arena.handle?_eq_some_iff, eq_self, true_and]
  next e => simp [e]

/-! ## Schedules in parts -/

section Parts

variable (w : World ι) (xs ys : List (ι × Call))

theorem after_append : w.after (xs ++ ys) = (w.after xs).after ys := List.foldl_append

theorem seenBy_append : w.seenBy i (xs ++ ys) = w.seenBy i xs ++ (w.after xs).seenBy i ys := by
  induction xs generalizing w with
  | nil => rfl
  | cons e rest ih =>
    obtain ⟨j, c⟩ := e
    have later := ih (w.step j c).2
    simp only [List.cons_append, seenBy]
    split
    next => rw [later, List.cons_append]; rfl
    next => exact later

theorem retirements_append :
    w.retirements (xs ++ ys) = w.retirements xs ++ (w.after xs).retirements ys := by
  induction xs generalizing w with
  | nil => rfl
  | cons e rest ih =>
    obtain ⟨j, c⟩ := e
    have later := ih (w.step j c).2
    rw [List.cons_append, retirements, retirements, later, List.append_assoc]
    rfl

theorem callsOf_append (i : ι) : callsOf i (xs ++ ys) = callsOf i xs ++ callsOf i ys :=
  List.filterMap_append

end Parts

/-! ## Rounds of one client -/

section Rounds

variable {slot g : UInt32}

/-- An allocation of a client takes the slot on offer. -/
theorem step_allocate (quiet : w.bridge.alarm = none) (o : w.arena.Offers slot g) :
    (w.step i .allocate).2.arena = w.arena.allocate.arena ∧
      (w.step i .allocate).2.handles i = w.handles i ++ [.pack slot g] := by
  have performed : w.arena.perform .allocate =
      ⟨.handle (.pack slot g), w.arena.allocate.arena, w.arena.allocate.events⟩ := by
    rw [Arena.perform_allocate_of_room o.isFull_eq, o.allocate_handle]
  have handles := (step_eq (j := i) (c := .allocate) quiet fun _ => o.isFull_eq).2
  have hcommand : w.command i .allocate = .allocate := rfl
  rw [arena_step quiet, handles, Function.update_self, hcommand, performed]
  exact ⟨rfl, rfl⟩

/-- **A round of a client takes the slot on offer to its next generation.** -/
theorem after_round (quiet : w.bridge.alarm = none) (o : w.arena.Offers slot g) :
    let round : List Call := [.allocate, .free (.own (w.handles i).length)]
    let w' := w.after (alone i round)
    w'.bridge.alarm = none ∧ w'.arena = w.arena.renew slot (Slot.nextGeneration g) ∧
      w'.handles i = w.handles i ++ [.pack slot g] ∧
      w.retirements (alone i round) = [slot.toNat] := by
  intro round w'
  let w₁ := (w.step i .allocate).2
  obtain ⟨allocated, own⟩ : w₁.arena = _ ∧ w₁.handles i = _ := step_allocate quiet o
  have quiet₁ : w₁.bridge.alarm = none := quiet_step quiet
  have command : w₁.command i (.free (.own (w.handles i).length)) = .release (.pack slot g) := by
    rw [command, own, Call.resolve, Ref.resolve_own]
    rfl
  have released : w₁.arena.perform (.release (.pack slot g)) =
      ⟨.point .origin, w.arena.renew slot (Slot.nextGeneration g), []⟩ := by
    rw [allocated, Arena.perform_release, Arena.access_of_some o.find?_allocate, o.retire_allocate]
  refine ⟨quiet_step quiet₁, ?_, ?_, ?_⟩
  · refine (arena_step quiet₁).trans ?_
    rw [command, released]
  · have handles := (step_eq (j := i) (c := .free (.own (w.handles i).length)) quiet₁ nofun).2
    rw [show w'.handles = _ from handles, Function.update_self, command, released, own]
    exact List.append_nil _
  · have live : w₁.arena.contains (.pack slot g) = true := by
      rw [allocated, Arena.contains, o.find?_allocate]
      rfl
    change [] ++ (w₁.arena.retired (w₁.command i _) ++ []) = _
    rw [command, Arena.retired, if_pos live, Handle.index_pack]
    rfl

/-- **Rounds of a client take the slot on offer through its generations**, and leave the client the
handles that it had. -/
theorem after_rounds (quiet : w.bridge.alarm = none) (o : w.arena.Offers slot g) (n : Nat) :
    let program := alone i (rounds (w.handles i).length n)
    let w' := w.after program
    w'.bridge.alarm = none ∧ w'.arena = w.arena.renew slot (Slot.nextGeneration^[n] g) ∧
      w.handles i <+: w'.handles i ∧ w.retirements program = List.replicate n slot.toNat := by
  induction n generalizing w g with
  | zero => exact ⟨quiet, o.renew_self.symm, ⟨[], List.append_nil _⟩, rfl⟩
  | succ n ih =>
    obtain ⟨quiet', arena, handles, retired⟩ := after_round (i := i) quiet o
    have offer := o.renew (Slot.nextGeneration g)
    rw [← arena] at offer
    obtain ⟨last, arenas, later, retirements⟩ := ih quiet' offer
    have length : (w.handles i ++ [Handle.pack slot g]).length = (w.handles i).length + 1 :=
      List.length_append
    rw [handles, length] at last arenas later retirements
    refine ⟨last, ?_, ?_, ?_⟩
    · refine arenas.trans ?_
      rw [arena, Arena.renew_renew, Function.iterate_succ_apply]
    · exact (List.prefix_append _ _).trans later
    · rw [List.replicate_succ, ← List.singleton_append, ← retired, ← retirements]
      exact w.retirements_append (alone i [_, _]) _

/-- A client allocates once more, on offer, and then asks for the first point that it was given. -/
theorem after_reading_first (quiet : w.bridge.alarm = none) (o : w.arena.Offers slot g) {h : Handle}
    {own : List Handle} (hown : w.handles i = h :: own) :
    let reading := alone i [.allocate, .getX (.own 0)]
    (w.after reading).arena = w.arena.allocate.arena ∧ w.retirements reading = [] ∧
      (w.seenBy i reading).getLast? = some (.of (h :: own ++ [.pack slot g])
        (.ok (.ofResult .coordinate (w.arena.allocate.arena.getX h)))) := by
  intro reading
  let w₁ := (w.step i .allocate).2
  have quiet₁ : w₁.bridge.alarm = none := quiet_step quiet
  obtain ⟨allocated, handles⟩ : w₁.arena = _ ∧ w₁.handles i = _ := step_allocate quiet o
  have command : w₁.command i (.getX (.own 0)) = .getX h := by
    rw [command, handles, hown]
    rfl
  have read : w₁.arena.perform (.getX h) =
    ⟨.ofResult .coordinate (w.arena.allocate.arena.getX h), w.arena.allocate.arena, []⟩ := by
    rw [allocated]
    rfl
  have unnamed :
      (Arena.Answer.ofResult .coordinate (w.arena.allocate.arena.getX h)).handle? = none := by
    cases w.arena.allocate.arena.getX h <;> rfl
  refine ⟨?_, rfl, ?_⟩
  · refine (arena_step (j := i) (c := .getX (.own 0)) quiet₁).trans ?_
    rw [command, read]
  · have seen := (step_eq (j := i) (c := .getX (.own 0)) quiet₁ nofun).1
    rw [command, read, unnamed, handles, hown] at seen
    have both : w.seenBy i reading = [(w.step i .allocate).1, (w₁.step i (.getX (.own 0))).1] := by
      simp [reading, alone, seenBy, w₁]
    rw [both, seen]
    exact congrArg (fun own => some (Seen.of own _)) (List.append_nil _)

/-- A client that looks at its first point after rounds asks the arena in which the slot on offer
has gone through so many generations, and was allocated again. -/
theorem after_revisit (quiet : w.bridge.alarm = none) (o : w.arena.Offers slot g) {h : Handle}
    {own : List Handle} (hown : w.handles i = h :: own) (n : Nat) {k : Nat}
    (hk : own.length + 1 = k) :
    let schedule := alone i (revisit k n)
    let last := w.arena.renew slot (Slot.nextGeneration^[n] g)
    (w.after schedule).arena = last.allocate.arena ∧
      w.retirements schedule = List.replicate n slot.toNat ∧
      ∃ own', (w.seenBy i schedule).getLast? =
        some (.of (h :: own') (.ok (.ofResult .coordinate (last.allocate.arena.getX h)))) := by
  intro schedule last
  have length : (w.handles i).length = k := by rw [hown, List.length_cons, hk]
  obtain ⟨quiet', arena, ⟨later, handles⟩, retirements⟩ := after_rounds (i := i) quiet o n
  have offer := o.renew (Slot.nextGeneration^[n] g)
  rw [length] at quiet' arena handles retirements
  rw [← arena] at offer
  rw [hown, List.cons_append] at handles
  obtain ⟨allocated, none, seen⟩ := after_reading_first quiet' offer handles.symm
  have parts : schedule = alone i (rounds k n) ++ alone i [.allocate, .getX (.own 0)] :=
    List.map_append
  refine ⟨?_, ?_, own ++ later ++ [.pack slot (Slot.nextGeneration^[n] g)], ?_⟩
  · rw [parts, after_append, allocated, arena]
  · rw [parts, retirements_append, retirements, none, List.append_nil]
  · rw [parts, seenBy_append, List.getLast?_append, seen, arena]
    rfl

end Rounds

end World

end PointBridge
