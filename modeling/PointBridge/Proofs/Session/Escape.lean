import PointBridge.Proofs.Session.Natives

/-!
# Panics that escape a native call

The guard of a native call catches the panics of its work, but it reports what it caught outside of
its own protection. So it depends on the event where the observer of events panics whether the
caller gets a value (`Session.guard_reports_escape`): at an event of the work it does, and at a
report of the guard the panic runs out of the native function.
-/

namespace PointBridge

open Trace (Event)

namespace Native

variable {e : Event}

/-- Whether the guard reports an event can be told from the message. -/
theorem isGuardReport_congr {e' : Event} (same : e.message = e'.message) :
    isGuardReport e = isGuardReport e' := by
  revert same
  cases e <;> cases e' <;> simp [Event.message, isGuardReport]

section Work

variable {n : Call} {performance : PerformanceSwitch} {elapsed : UInt64} {r : Registry} {jvm : Jvm}

theorem isGuardReport_of_mem_events_work (h : e ∈ (n.course performance elapsed r jvm).events) :
    isGuardReport e = false := by
  obtain ⟨-, events, hevents, own⟩ := work_leaves n performance elapsed r jvm none
  rw [Course.run_none] at hevents
  rw [show (n.course performance elapsed r jvm).events = _ from hevents] at h
  rcases List.mem_append.1 h with h | h
  · exact (own e h).1
  · rw [Course.eq_of_mem_completion h]
    rfl

/-- An alarm that is set on the message of a guard's report does not go off during the work. -/
theorem calm_work (report : isGuardReport e = true) (p : Payload) :
    Calm (some ⟨e.message, p⟩) (n.course performance elapsed r jvm).cuts := by
  intro cut hcut
  have silent := isGuardReport_of_mem_events_work (List.mem_map_of_mem hcut)
  refine Option.eq_none_iff_forall_ne_some.2 fun q panics => ?_
  have same := (panicAt_eq_some_iff.1 panics).1
  rw [isGuardReport_congr same, silent] at report
  cases report

end Work

end Native

namespace Session

/-- The events of a native call on a quiet bridge are those of its work and those of its guard. -/
theorem reported_native (s : Session) (n : Native.Call) (jvm : Jvm) (elapsed : UInt64) :
    let work := n.course s.bridge.performance elapsed s.bridge.registry jvm
    (s.step ⟨.native n jvm elapsed, none⟩).1.reported =
      work.events ++ (Native.settle n.entry work.registry work.jvm work.outcome).events := by
  have hstep := (s.stepsTo_native n jvm elapsed none).events
  rw [Course.run_none] at hstep
  refine hstep.trans (congrArg (_ ++ ·) ?_)
  exact congrArg Ending.events (Course.run_none _)

/-- **Which panics escape a native call.** Let the observer panic at an event that a native call
reports. At a report of the guard, the call has done its work on the registry, but its caller gets
no value: the panic escapes, and ends the process. At any other event it gets the zero of the
type. -/
theorem guard_reports_escape (s : Session) (n : Native.Call) (jvm : Jvm) (elapsed : UInt64)
    {e : Event} (p : Payload) (reported : e ∈ (s.step ⟨.native n jvm elapsed, none⟩).1.reported) :
    let quiet := s.step ⟨.native n jvm elapsed, none⟩
    let struck := s.step ⟨.native n jvm elapsed, some ⟨e.message, p⟩⟩
    (Native.isGuardReport e = true →
      struck.1.outcome = .error p ∧ struck.1.aborted (.native n jvm elapsed) = true ∧
      struck.2.bridge.registry = quiet.2.bridge.registry) ∧
    (Native.isGuardReport e = false → ∃ pending,
      struck.1.outcome = .ok (.native (Native.zero n.entry) pending)) := by
  have hstep := s.stepsTo_native n jvm elapsed (some ⟨e.message, p⟩)
  rw [s.reported_native] at reported
  refine ⟨fun report => ?_, fun inside => ?_⟩
  · have hsettle := (List.mem_append.1 reported).resolve_left fun h => by
      rw [Native.isGuardReport_of_mem_events_work h] at report
      cases report
    -- the alarm is still set when the guard reports
    rw [Course.run_of_calm (Native.calm_work report p)] at hstep
    obtain ⟨-, -, -, panics, -, -⟩ := Course.run_of_mem_events hsettle p
    have hquiet := (s.stepsTo_native n jvm elapsed none).registry
    rw [Course.run_none] at hquiet
    have outcome := hstep.outcome.trans (congrArg (Except.map _) panics)
    refine ⟨outcome, ?_, ?_⟩
    · rw [StepResult.aborted, outcome]
      rfl
    · exact (hstep.registry.trans (Native.registry_settled ..)).trans
        (hquiet.trans (Native.registry_settled ..)).symm
  · have hwork := (List.mem_append.1 reported).resolve_right fun h => by
      obtain ⟨cut, hcut, rfl⟩ := List.mem_map.1 h
      rw [(Native.mem_cuts_settle hcut).1] at inside
      cases inside
    obtain ⟨-, -, -, panics, -, silent⟩ := Course.run_of_mem_events hwork p
    rw [Native.settled_of_panic panics silent] at hstep
    have houtcome := hstep.outcome
    rw [Ending.map, Native.outcome_excused] at houtcome
    exact ⟨_, houtcome⟩

/-- A native is asked for the coordinate of no point, on a machine that cannot throw. The observer
panics at the report about the failure, and at the report that no exception could be thrown. -/
theorem guard_reports_escape_for_null :
    let request : Request := .native (.getX 0) { throwCode := -1 } 0
    let failed : Event := .callFailed .getX (.point (.invalidHandle .null))
    let unthrown : Event := .throwFailed "java/lang/IllegalArgumentException" (.throwRefused (-1))
    (step {} ⟨request, none⟩).1.outcome = .ok (.native (.int 0) none) ∧
      (step {} ⟨request, none⟩).1.reported = [failed, unthrown] ∧
      (step {} ⟨request, some ⟨failed.message, .borrowed "boom"⟩⟩).1.outcome =
        .error (.borrowed "boom") ∧
      (step {} ⟨request, some ⟨unthrown.message, .byte 17⟩⟩).1.outcome = .error (.byte 17) := by
  intro request failed unthrown
  have reported : (step {} ⟨request, none⟩).1.reported = [failed, unthrown] := by decide +kernel
  obtain ⟨first, -⟩ := guard_reports_escape {} (.getX 0) { throwCode := -1 } 0
    (e := failed) (.borrowed "boom") (by rw [reported]; simp)
  obtain ⟨second, -⟩ := guard_reports_escape {} (.getX 0) { throwCode := -1 } 0
    (e := unthrown) (.byte 17) (by rw [reported]; simp)
  exact ⟨by decide +kernel, reported, (first rfl).1, (second rfl).1⟩

end Session

end PointBridge
