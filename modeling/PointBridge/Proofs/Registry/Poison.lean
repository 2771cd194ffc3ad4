import PointBridge.Proofs.Registry.Course

/-!
# Panics at the events of a registry call

A panic at an event of a call leaves the whole effect of the call on the arena, or none of it if
the event is the report about the poisoned lock (`registry_run_of_mem_events`). It poisons the
lock if the event is reported under it.

A poisoned lock adds that report in front of the events of a call, and changes nothing else
(`course_poison`, `run_warned`).
-/

namespace PointBridge

open Trace (Event)

/-! ## Events by their messages -/

namespace Trace.Event

/-- Whether an event is reported under the lock by an operation that changed the arena. -/
def isUnderLock : Event → Bool
  | slotReused _ | registryCleared _ => true
  | _ => false

/-- Whether an event is reported by operations on the registry. -/
def isRegistryReport : Event → Bool
  | slotReused _ | pointAllocated _ | pointReleased .. | registryCleared _ => true
  | registryPoisoned => true
  | _ => false

theorem message_eq_registryPoisoned_iff {e : Event} :
    e.message = registryPoisoned.message ↔ e = registryPoisoned := by
  cases e <;> simp [message]

theorem isUnderLock_iff {e : Event} :
    e.isUnderLock = true ↔ (∃ h, e = slotReused h) ∨ ∃ n, e = registryCleared n := by
  cases e <;> simp [isUnderLock]

theorem isUnderLock_iff_message (e : Event) : e.isUnderLock = true ↔
    e.message = "Reusing point slot" ∨ e.message = "Point registry cleared" := by
  cases e <;> simp [message, isUnderLock]

end Trace.Event

namespace Registry

variable {c : Call} {r : Registry} {jvm : Jvm} {e : Event}

/-! ## The events of a call -/

/-- What a call reports under the lock, apart from the poisoned lock itself. -/
def Call.inside (c : Call) (a : Arena) : List Event :=
  (a.perform c.command).events ++ c.reportInside a

/-- What a call reports after it has given the lock back. -/
def Call.after (c : Call) (a : Arena) : List Event :=
  c.reportAfter (a.perform c.command).answer

theorem events_course (c : Call) (r : Registry) (jvm : Jvm) :
    (c.course r jvm).events = r.lockEvents ++ c.inside r.arena ++ c.after r.arena := by
  simp [Call.course, operation, Course.events, Call.inside, Call.after]

theorem isUnderLock_of_mem_inside {a : Arena} (h : e ∈ c.inside a) : e.isUnderLock = true := by
  rcases List.mem_append.1 h with h | h
  · obtain ⟨k, rfl⟩ := Arena.eq_slotReused_of_mem_events h
    rfl
  · cases c with
    | clear =>
      obtain rfl := List.mem_singleton.1 h
      rfl
    | _ => cases h

theorem eq_of_mem_after {a : Arena} (h : e ∈ c.after a) :
    (∃ k, e = .pointAllocated k) ∨ ∃ k p, e = .pointReleased k p := by
  unfold Call.after Call.reportAfter at h
  split at h
  · exact .inl ⟨_, List.mem_singleton.1 h⟩
  · exact .inr ⟨_, _, List.mem_singleton.1 h⟩
  · cases h

theorem isRegistryReport_of_mem_events (h : e ∈ (c.course r jvm).events) :
    e.isRegistryReport = true := by
  rw [events_course] at h
  rcases List.mem_append.1 h with h | h
  · rcases List.mem_append.1 h with h | h
    · unfold lockEvents at h
      split at h
      next => exact List.mem_singleton.1 h ▸ rfl
      next => cases h
    · obtain ⟨k, rfl⟩ | ⟨n, rfl⟩ := Event.isUnderLock_iff.1 (isUnderLock_of_mem_inside h) <;> rfl
  · obtain ⟨k, rfl⟩ | ⟨k, p, rfl⟩ := eq_of_mem_after h <;> rfl

/-- A call to a registry with an intact lock does not report a poisoned one. -/
theorem registryPoisoned_notMem_events (sound : r.poisoned = false) :
    .registryPoisoned ∉ (c.course r jvm).events := by
  rw [events_course]
  intro h
  rcases List.mem_append.1 h with h | h
  · rcases List.mem_append.1 h with h | h
    · simp [lockEvents, sound] at h
    · cases isUnderLock_of_mem_inside h
  · rcases eq_of_mem_after h with ⟨k, h⟩ | ⟨k, p, h⟩ <;> cases h

/-! ## What a panic leaves -/

/-- What is left of a registry by a call that panics at an event, if it would have left an arena. -/
def leftAt (r : Registry) (a : Arena) (e : Event) : Registry where
  arena := if e = .registryPoisoned then r.arena else a
  poisoned := r.poisoned || e.isUnderLock
  held := false

/-- What is left depends on the message of the event only. -/
theorem leftAt_congr {a : Arena} {e e' : Event} (same : e.message = e'.message) :
    r.leftAt a e = r.leftAt a e' := by
  have hwarn : e = .registryPoisoned ↔ e' = .registryPoisoned := by
    rw [← Event.message_eq_registryPoisoned_iff, same, Event.message_eq_registryPoisoned_iff]
  have hlock : e.isUnderLock = e'.isUnderLock := by
    rw [Bool.eq_iff_iff, Event.isUnderLock_iff_message, same, ← Event.isUnderLock_iff_message]
  simp only [leftAt, hwarn, hlock]

theorem of_mem_cuts {cut : Cut} (h : cut ∈ (c.course r jvm).cuts) :
    cut.registry = r.leftAt (c.course r jvm).registry.arena cut.event ∧ cut.unwinding = [] ∧
      cut.jvm = jvm := by
  have hcuts : (c.course r jvm).cuts = cutsAt r.lockEvents (r.unlocked true) jvm ++
    cutsAt (c.inside r.arena) ⟨(c.course r jvm).registry.arena, true, false⟩ jvm ++
    cutsAt (c.after r.arena) ⟨(c.course r jvm).registry.arena, r.poisoned, false⟩ jvm := rfl
  rw [hcuts] at h
  rcases List.mem_append.1 h with h | h
  · rcases List.mem_append.1 h with h | h
    · obtain ⟨e, he, rfl⟩ := List.mem_map.1 h
      refine ⟨?_, rfl, rfl⟩
      unfold lockEvents at he
      split at he
      next hp =>
        obtain rfl := List.mem_singleton.1 he
        simp [leftAt, unlocked, hp]
      next => cases he
    · obtain ⟨e, he, rfl⟩ := List.mem_map.1 h
      have hlock := isUnderLock_of_mem_inside he
      have hne : e ≠ .registryPoisoned := by rintro rfl; cases hlock
      simp [leftAt, hlock, hne]
  · obtain ⟨e, he, rfl⟩ := List.mem_map.1 h
    rcases eq_of_mem_after he with ⟨k, rfl⟩ | ⟨k, p, rfl⟩ <;> simp [leftAt, Event.isUnderLock]

/-- A call reports nothing else where the observer panics. -/
theorem mem_events_of_run {alarm : Option Alarm}
    (h : e ∈ ((c.course r jvm).run alarm).events) : e ∈ (c.course r jvm).events := by
  obtain ⟨cut, hcut, hevent⟩ := Course.mem_events_run h
  rw [(of_mem_cuts hcut).2.1] at hevent
  obtain rfl := hevent.resolve_right List.not_mem_nil
  exact List.mem_map_of_mem hcut

/-- **A panic at an event of a call leaves the effect of the whole call, or none of it.** -/
theorem registry_run_of_mem_events (h : e ∈ (c.course r jvm).events) (p : Payload) :
    ((c.course r jvm).run (some ⟨e.message, p⟩)).registry =
      r.leftAt (c.course r jvm).registry.arena e ∧
    ((c.course r jvm).run (some ⟨e.message, p⟩)).outcome = .error p := by
  obtain ⟨cut, hcut, same, outcome, registry, -⟩ := Course.run_of_mem_events h p
  rw [registry, (of_mem_cuts hcut).1, leftAt_congr same]
  exact ⟨rfl, outcome⟩

end Registry

/-! ## A poisoned lock -/

/-- The registry with its lock poisoned. -/
def Registry.poison (r : Registry) : Registry := { r with poisoned := true }

/-- The ending, with a poisoned lock. -/
def Ending.poisoned {α : Type} (e : Ending α) : Ending α :=
  { e with registry := e.registry.poison }

/-- The ending after the report about a poisoned lock. -/
def Ending.warned {α : Type} (e : Ending α) : Ending α :=
  { e.poisoned with events := .registryPoisoned :: e.events }

namespace Course

variable {α : Type} {alarm : Option Alarm}

/-- The course, with a poisoned lock wherever it ends. -/
def poisoned (c : Course α) : Course α :=
  { c with
    cuts := c.cuts.map fun cut => { cut with registry := cut.registry.poison }
    registry := c.registry.poison }

/-- The course after the report about a poisoned lock, where a panic leaves a registry. -/
def warned (c : Course α) (r : Registry) (jvm : Jvm) : Course α :=
  { c.poisoned with
    cuts := { event := .registryPoisoned, registry := r, jvm } :: c.poisoned.cuts }

theorem run_poisoned (c : Course α) (alarm : Option Alarm) :
    c.poisoned.run alarm = (c.run alarm).poisoned := by
  unfold run poisoned
  rw [List.foldr_map]
  change c.cuts.foldr _ (c.last alarm).poisoned = _
  refine List.foldr_hom Ending.poisoned fun cut rest => ?_
  unfold Cut.meet
  cases panicAt alarm cut.event <;> rfl

theorem run_warned (c : Course α) (r : Registry) (jvm : Jvm) (alarm : Option Alarm) :
    (c.warned r jvm).run alarm = match panicAt alarm .registryPoisoned with
      | some p => ⟨.error p, r, jvm, [.registryPoisoned], none⟩
      | none => (c.run alarm).warned := by
  have hmeet : (c.warned r jvm).run alarm =
    Cut.meet alarm { event := .registryPoisoned, registry := r, jvm } (c.poisoned.run alarm) := rfl
  rw [hmeet, Cut.meet, run_poisoned]
  cases panicAt alarm .registryPoisoned <;> rfl

end Course

namespace Registry

/-- **A poisoned lock adds a report in front, and changes nothing else.** -/
theorem course_poison (c : Call) {r : Registry} (sound : r.poisoned = false) (jvm : Jvm) :
    c.course r.poison jvm = (c.course r jvm).warned ⟨r.arena, true, false⟩ jvm := by
  simp [Call.course, operation, Course.warned, Course.poisoned, poison, lockEvents, sound, cutsAt,
    unlocked, Function.comp_def]

end Registry

end PointBridge
