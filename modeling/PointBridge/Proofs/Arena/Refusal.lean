import PointBridge.Proofs.Arena.Moves

/-!
# Refused commands

Reads test a handle in `find?` and writes in `liveSlot?`, but a handle passes both tests or neither,
so all commands accept the same handles (`handles_are_tested_alike`). A command that asks for
several handles is refused for the first one that is not live. A refused command names that handle,
whole, and does nothing else: the run goes on as if it had not been there.
-/

namespace PointBridge

namespace Arena

/-! ## What commands ask for -/

/-- The handles that a command asks for, in the order in which it looks them up. -/
def Command.asked : Command → List Handle
  | .get h | .getX h | .getY h | .set h _ | .setX h _ | .setY h _ | .release h => [h]
  | .distance h k => [h, k]
  | .allocate | .contains _ | .size | .isEmpty | .clear => []

/-- The commands that ask for a handle and nothing else. -/
def accessors (h : Handle) (p : Point) (x y : Int32) : List Command :=
  [.get h, .getX h, .getY h, .set h p, .setX h x, .setY h y, .release h]

/-- The arena does not refuse a command. -/
def Accepts (a : Arena) (c : Command) : Prop := ∀ e, (a.perform c).answer ≠ .refused e

/-- The arena refuses a command for a handle and changes and reports nothing. -/
def Rejects (a : Arena) (c : Command) (h : Handle) : Prop :=
  a.perform c = ⟨.refused (.invalidHandle h), a, []⟩

section Asking

variable {a : Arena} {c : Command} {h k : Handle}

theorem contains_eq_false_iff : a.contains h = false ↔ a.find? h = none := by
  rw [contains, Option.isSome_eq_false_iff, Option.isNone_iff_eq_none]

theorem Rejects.not_accepts (r : a.Rejects c h) : ¬ a.Accepts c :=
  fun accepts => accepts _ (congrArg Outcome.answer r)

/-- What goes on with the point of a dead handle is refused. -/
theorem rejects_access {f : Point → Outcome} (hc : a.perform c = a.access h f)
    (dead : a.contains h = false) : a.Rejects c h :=
  hc.trans (access_of_none (contains_eq_false_iff.1 dead) f)

/-- What asks for one handle goes on with the point there, and is not refused later. -/
theorem exists_access (a : Arena) (hc : c.asked = [h]) : ∃ f, a.perform c = a.access h f ∧
    ∀ p e, (f p).answer ≠ .refused e := by
  cases c with
  | get => exact List.singleton_inj.1 hc ▸ ⟨_, perform_get .., nofun⟩
  | getX => exact List.singleton_inj.1 hc ▸ ⟨_, perform_getX .., nofun⟩
  | getY => exact List.singleton_inj.1 hc ▸ ⟨_, perform_getY .., nofun⟩
  | set => exact List.singleton_inj.1 hc ▸ ⟨_, perform_set .., nofun⟩
  | setX => exact List.singleton_inj.1 hc ▸ ⟨_, perform_setX .., nofun⟩
  | setY => exact List.singleton_inj.1 hc ▸ ⟨_, perform_setY .., nofun⟩
  | release => exact List.singleton_inj.1 hc ▸ ⟨_, perform_release .., nofun⟩
  | distance | allocate | contains | size | isEmpty | clear => cases hc

/-- Where its handle is live, a command is accepted. -/
theorem accepts_of_live (hc : c.asked = [h]) (live : a.contains h = true) : a.Accepts c := by
  obtain ⟨f, hf, answered⟩ := exists_access a hc
  obtain ⟨p, hp⟩ := Option.isSome_iff_exists.1 live
  intro e
  rw [hf, access_of_some hp]
  exact answered p e

/-- Where its handle is dead, a command is rejected for it. -/
theorem rejects_of_dead (hc : c.asked = [h]) (dead : a.contains h = false) : a.Rejects c h := by
  obtain ⟨f, hf, -⟩ := exists_access a hc
  exact rejects_access hf dead

theorem accepts_iff (hc : c.asked = [h]) : a.Accepts c ↔ a.contains h = true := by
  refine ⟨fun accepts => ?_, accepts_of_live hc⟩
  by_contra dead
  exact (rejects_of_dead hc (by simpa using dead)).not_accepts accepts

theorem accepts_get_iff : a.Accepts (.get h) ↔ a.contains h = true := accepts_iff rfl

theorem rejects_distance_first (dead : a.contains h = false) :
    a.Rejects (.distance h k) h := rejects_access (perform_distance a h k) dead

theorem rejects_distance_second (live : a.contains h = true) (dead : a.contains k = false) :
    a.Rejects (.distance h k) k := by
  obtain ⟨p, hp⟩ := Option.isSome_iff_exists.1 live
  exact rejects_access ((perform_distance a h k).trans (access_of_some hp _)) dead

/-- A distance asks for both points. -/
theorem accepts_distance_iff :
    a.Accepts (.distance h k) ↔ a.contains h = true ∧ a.contains k = true := by
  constructor
  · intro accepts
    by_contra dead
    cases live : a.contains h with
    | false => exact (rejects_distance_first live).not_accepts accepts
    | true =>
      rw [live, eq_self, true_and, Bool.not_eq_true] at dead
      exact (rejects_distance_second live dead).not_accepts accepts
  · rintro ⟨hlive, klive⟩ e
    obtain ⟨p, hp⟩ := Option.isSome_iff_exists.1 hlive
    obtain ⟨q, hq⟩ := Option.isSome_iff_exists.1 klive
    rw [perform_distance, access_of_some hp, access_of_some hq]
    nofun

/-- A command that asks for nothing is not refused. -/
theorem accepts_of_asked_nil (hc : c.asked = []) : a.Accepts c := by
  intro e
  cases c with
  | allocate => cases full : a.isFull <;> simp [perform, full]
  | contains | size | isEmpty | clear => nofun
  | get | getX | getY | set | setX | setY | release | distance => cases hc

/-- **What is refused, is rejected for a dead handle that it asks for.** -/
theorem exists_rejects (refused : ¬ a.Accepts c) :
    ∃ h ∈ c.asked, a.contains h = false ∧ a.Rejects c h := by
  have single {h : Handle} (hc : c.asked = [h]) :
      ∃ h ∈ c.asked, a.contains h = false ∧ a.Rejects c h := by
    rw [accepts_iff hc, Bool.not_eq_true] at refused
    exact ⟨h, by simp [hc], refused, rejects_of_dead hc refused⟩
  cases c with
  | get | getX | getY | set | setX | setY | release => exact single rfl
  | distance h k =>
    cases live : a.contains h with
    | false => exact ⟨h, by simp [Command.asked], live, rejects_distance_first live⟩
    | true =>
      rw [accepts_distance_iff, live, eq_self, true_and, Bool.not_eq_true] at refused
      exact ⟨k, by simp [Command.asked], refused, rejects_distance_second live refused⟩
  | allocate | contains | size | isEmpty | clear => exact absurd (accepts_of_asked_nil rfl) refused

/-- The run goes on as if a refused command had not been there. -/
theorem Rejects.run (r : a.Rejects c h) (later : List Command) :
    a.answers (c :: later) = .refused (.invalidHandle h) :: a.answers later ∧
      a.eventsOf (c :: later) = a.eventsOf later ∧
      a.performAll (c :: later) = a.performAll later := by
  have hperf : a.perform c = ⟨.refused (.invalidHandle h), a, []⟩ := r
  simp [answers, eventsOf, performAll, hperf]

end Asking

/-- **Handles are tested alike.** In any arena, reachable or not, a handle is accepted by all
commands that ask for it alone, and then `contains` says so, or it is refused by all of them. A
distance is accepted if both handles are, and refused for the first one that is not. Whatever is
refused names the handle, reports nothing and leaves the arena as it is, so that the run goes on
without it. -/
theorem handles_are_tested_alike (a : Arena) :
    (∀ h p x y,
      (a.perform (.contains h)).answer = .flag true ∧
          (∀ c ∈ accessors h p x y, a.Accepts c) ∨
        (a.perform (.contains h)).answer = .flag false ∧
          ∀ c ∈ accessors h p x y, a.Rejects c h) ∧
    (∀ h k, a.Accepts (.distance h k) ↔ a.Accepts (.get h) ∧ a.Accepts (.get k)) ∧
    (∀ h k, ¬ a.Accepts (.get h) → a.Rejects (.distance h k) h) ∧
    (∀ h k, a.Accepts (.get h) → ¬ a.Accepts (.get k) → a.Rejects (.distance h k) k) ∧
    ∀ c, ¬ a.Accepts c → ∃ h ∈ c.asked, ¬ a.Accepts (.get h) ∧ a.Rejects c h ∧ ∀ later,
      a.answers (c :: later) = .refused (.invalidHandle h) :: a.answers later ∧
      a.eventsOf (c :: later) = a.eventsOf later ∧
      a.performAll (c :: later) = a.performAll later := by
  refine ⟨fun h p x y => ?_, fun h k => ?_, fun h k dead => ?_, fun h k live dead => ?_,
    fun c refused => ?_⟩
  · have all : ∀ c ∈ accessors h p x y, c.asked = [h] := by simp [accessors, Command.asked]
    cases live : a.contains h with
    | true =>
      refine .inl ⟨congrArg Answer.flag live, fun c hc => ?_⟩
      exact (accepts_iff (all c hc)).2 live
    | false =>
      refine .inr ⟨congrArg Answer.flag live, fun c hc => ?_⟩
      exact rejects_of_dead (all c hc) live
  · rw [accepts_get_iff, accepts_get_iff, accepts_distance_iff]
  · rw [accepts_get_iff, Bool.not_eq_true] at dead
    exact rejects_distance_first dead
  · rw [accepts_get_iff] at live
    rw [accepts_get_iff, Bool.not_eq_true] at dead
    exact rejects_distance_second live dead
  · obtain ⟨h, asked, dead, rejects⟩ := exists_rejects refused
    exact ⟨h, asked, (rejects_of_dead rfl dead).not_accepts, rejects, rejects.run⟩

end Arena

end PointBridge
