import PointBridge.Proofs.Session.Keeps

/-!
# Panics and the registry in a session

Whatever call to the registry a step makes, by itself or for a native, and at whichever of its
events the observer panics, the registry comes out of it whole: `Session.registry_survives_panics`.
The arena that is left is the one before the call if the panic is at the report about the poisoned
lock, and the one after the whole call otherwise; the lock is given back, and it is poisoned if the
panic is at an event reported under it. From then on each call reports the poisoned lock first, and
does in all else what it does under a sound lock.
-/

namespace PointBridge

open Trace (Event)

/-! ## What follows a call under a poisoned lock -/

namespace Course

variable {α : Type}

theorem completing_warned (due : Bool) (e : Ending α) :
    completing due e.warned = (completing due e).warned := by
  have hemit : emit (completion due) e.registry.poison e.jvm =
      (emit (completion due) e.registry e.jvm).poisoned := by
    simp [emit, poisoned, cutsAt, Function.comp_def]
  have hrun : (emit (completion due) e.warned.registry e.warned.jvm).run e.warned.alarm =
      ((emit (completion due) e.registry e.jvm).run e.alarm).poisoned := by
    rw [← run_poisoned, ← hemit]
    rfl
  unfold completing
  rw [hrun]
  rfl

end Course

theorem Native.settled_warned (entry : Entry) (e : Ending (Except BridgeError Native.Value)) :
    settled entry e.warned = (settled entry e).warned := by
  have hsettle : settle entry e.registry.poison e.jvm e.outcome =
      (settle entry e.registry e.jvm e.outcome).poisoned := by
    obtain p | err | value := e.outcome <;>
      simp [settle, excuse, Course.pure, Course.poisoned, cutsAt, Function.comp_def]
  have hrun : (settle entry e.warned.registry e.warned.jvm e.warned.outcome).run e.warned.alarm =
      ((settle entry e.registry e.jvm e.outcome).run e.alarm).poisoned := by
    rw [← Course.run_poisoned, ← hsettle]
    rfl
  unfold settled
  rw [hrun]
  rfl

/-- A request concludes a call under a poisoned lock as it does under a sound one. -/
theorem Request.conclude_warned (performance : PerformanceSwitch) (request : Request)
    (e : Ending Arena.Answer) :
    request.conclude performance e.warned = (request.conclude performance e).warned := by
  cases request with
  | native n jvm elapsed =>
    have hmap : e.warned.map Native.ofAnswer = (e.map Native.ofAnswer).warned := rfl
    unfold conclude
    dsimp only
    rw [hmap, Course.completing_warned, Native.settled_warned]
    rfl
  | _ => rfl

/-! ## Steps under a poisoned lock -/

namespace Session

/-- The session with a sound lock in the place of a poisoned one. -/
def withSoundLock (s : Session) : Session :=
  { s with bridge := { s.bridge with registry := { s.bridge.registry with poisoned := false } } }

theorem registryPoisoned_notMem_own {events : List Event}
    (own : ∀ x ∈ events, x = .spanCompleted ∨ Native.isGuardReport x = true) :
    .registryPoisoned ∉ events := by
  intro h
  rcases own _ h with h | h <;> cases h

/-- Under a poisoned lock, a call reports that first and once. All else is as under a sound lock,
unless the observer panics at this report. -/
theorem step_of_poisoned {s : Session} (poisoned : s.bridge.registry.poisoned = true)
    {request : Request} (makes : request.registryCall?.isSome) (alarm : Option Alarm) :
    ∃ rest, (s.step ⟨request, alarm⟩).1.reported = .registryPoisoned :: rest ∧
      .registryPoisoned ∉ rest ∧
      (panicAt alarm .registryPoisoned = none →
        rest = (s.withSoundLock.step ⟨request, alarm⟩).1.reported ∧
        (s.step ⟨request, alarm⟩).1.outcome =
          (s.withSoundLock.step ⟨request, alarm⟩).1.outcome ∧
        (s.step ⟨request, alarm⟩).2.bridge.registry.arena =
          (s.withSoundLock.step ⟨request, alarm⟩).2.bridge.registry.arena) := by
  obtain ⟨c, makes⟩ := Option.isSome_iff_exists.1 makes
  have here := s.stepsTo_conclude makes alarm
  have there := s.withSoundLock.stepsTo_conclude makes alarm
  have hpoison : s.bridge.registry = s.withSoundLock.bridge.registry.poison := by
    simp [withSoundLock, Registry.poison, ← poisoned]
  rw [hpoison, Registry.course_poison c rfl, Course.run_warned] at here
  cases hp : panicAt alarm .registryPoisoned with
  | some p =>
    rw [hp] at here
    obtain ⟨rest, hrest, own⟩ := request.exists_events_conclude s.bridge.performance
      ⟨.error p, ⟨s.withSoundLock.bridge.registry.arena, true, false⟩,
        request.machine s.bridge.jvm, [.registryPoisoned], none⟩
    refine ⟨rest, here.events.trans hrest, registryPoisoned_notMem_own own, fun calm => ?_⟩
    cases calm
  | none =>
    rw [hp] at here
    simp only [Request.conclude_warned] at here
    refine ⟨_, here.events, ?_, fun _ => ⟨there.events.symm, here.outcome.trans there.outcome.symm,
      (congrArg Registry.arena here.registry).trans
        (congrArg Registry.arena there.registry).symm⟩⟩
    obtain ⟨rest, hrest, own⟩ := request.exists_events_conclude s.bridge.performance
      ((c.course s.withSoundLock.bridge.registry (request.machine s.bridge.jvm)).run alarm)
    rw [hrest]
    intro h
    rcases List.mem_append.1 h with h | h
    · exact Registry.registryPoisoned_notMem_events rfl (Registry.mem_events_of_run h)
    · exact registryPoisoned_notMem_own own h

/-! ## The registry survives panics -/

/-- **No panic leaves the registry half changed.** Let the observer panic at an event of a call to
the registry, and take any request that makes this call. The arena is left as it was if the event
is the report about the poisoned lock, and as the whole request leaves it otherwise; the lock is
given back, and poisoned if it was so before or the event is reported under it. A poisoned lock is
poisoned for the rest of the session: every later request that makes a call reports it first and
once, and does in all else what it does under a sound lock on the same arena. -/
theorem registry_survives_panics (s : Session) :
    (∀ (request : Request) (c : Registry.Call) (e : Event) (p : Payload),
      request.registryCall? = some c → e ∈ (s.step ⟨.registry c, none⟩).1.reported →
      let before := s.bridge.registry
      let whole := (s.step ⟨request, none⟩).2.bridge.registry
      let left := (s.step ⟨request, some ⟨e.message, p⟩⟩).2.bridge.registry
      (s.step ⟨.registry c, some ⟨e.message, p⟩⟩).1.outcome = .error p ∧
      (left.arena = if e = .registryPoisoned then before.arena else whole.arena) ∧
      left.held = false ∧
      (left.poisoned = true ↔ before.poisoned = true ∨
        (∃ h, e = .slotReused h) ∨ ∃ n, e = .registryCleared n)) ∧
    (s.bridge.registry.poisoned = true → ∀ steps : List Step,
      let later := (s.run steps).2
      later.bridge.registry.poisoned = true ∧
      ∀ (request : Request) (alarm : Option Alarm), request.registryCall?.isSome →
        let result := later.step ⟨request, alarm⟩
        ∃ rest, result.1.reported = .registryPoisoned :: rest ∧ .registryPoisoned ∉ rest ∧
          (panicAt alarm .registryPoisoned = none →
            let sound := later.withSoundLock.step ⟨request, alarm⟩
            rest = sound.1.reported ∧ result.1.outcome = sound.1.outcome ∧
            result.2.bridge.registry.arena = sound.2.bridge.registry.arena)) := by
  refine ⟨fun request c e p makes reported => ?_, fun poisoned steps => ?_⟩
  · have hquiet := s.stepsTo_registry c none
    rw [Course.run_none] at hquiet
    have hmem (jvm : Jvm) : e ∈ (c.course s.bridge.registry jvm).events := by
      rw [hquiet.events] at reported
      rwa [Registry.events_course, ← Registry.events_course c s.bridge.registry s.bridge.jvm]
    have hplain := (s.stepsTo_registry c (some ⟨e.message, p⟩)).outcome
    have hwhole := (s.stepsTo_conclude makes none).registry
    have hleft := (s.stepsTo_conclude makes (some ⟨e.message, p⟩)).registry
    rw [Request.registry_conclude, (Registry.registry_run_of_mem_events (hmem _) p).1] at hleft
    rw [Request.registry_conclude, Course.run_none] at hwhole
    dsimp only
    rw [hplain, hleft, hwhole]
    have panics := (Registry.registry_run_of_mem_events (hmem s.bridge.jvm) p).2
    refine ⟨congrArg (Except.map Answer.registry) panics, rfl, rfl, ?_⟩
    simp [Registry.leftAt, Event.isUnderLock_iff]
  · have lasts := lasting_run Registry.lasting_poisoned poisoned steps
    exact ⟨lasts, fun request alarm makes => step_of_poisoned lasts makes alarm⟩

/-- A native allocates the slot of a point that was freed, and the observer panics at the reuse.
The point is there, the lock is poisoned, and so it is two steps later. -/
theorem registry_survives_panic_at_reuse :
    let s := (run {} [⟨.registry .allocate, none⟩, ⟨.registry (.free (.pack 0 1)), none⟩]).2
    let e : Event := .slotReused (.pack 0 2)
    let left := (s.step ⟨.native .allocate {} 0, some ⟨e.message, .byte 17⟩⟩).2
    let later := (left.run [⟨.registry .clear, none⟩, ⟨.version, none⟩]).2
    e ∈ (s.step ⟨.registry .allocate, none⟩).1.reported ∧
      left.bridge.registry.arena.live = 1 ∧ left.bridge.registry.poisoned = true ∧
      (later.step ⟨.registry .livePoints, none⟩).1.reported = [.registryPoisoned] := by
  intro s e left later
  have reported : e ∈ (s.step ⟨.registry .allocate, none⟩).1.reported := by decide +kernel
  obtain ⟨-, whole, -, poisons⟩ :=
    (registry_survives_panics s).1 (.native .allocate {} 0) .allocate e (.byte 17) rfl reported
  have poisoned : left.bridge.registry.poisoned = true := poisons.2 (.inr (.inl ⟨_, rfl⟩))
  obtain ⟨-, reports⟩ :=
    (registry_survives_panics left).2 poisoned [⟨.registry .clear, none⟩, ⟨.version, none⟩]
  obtain ⟨rest, first, -, same⟩ := reports (.registry .livePoints) none rfl
  refine ⟨reported, ?_, poisoned, ?_⟩
  · rw [whole]
    decide +kernel
  · rw [first, (same rfl).1]
    decide +kernel

end Session

end PointBridge
