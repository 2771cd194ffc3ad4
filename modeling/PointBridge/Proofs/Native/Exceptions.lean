import PointBridge.Proofs.Native.Course
import PointBridge.Proofs.Registry.Poison

/-!
# How a native call is settled

A value is returned as it is (`settled_of_value`). An error or a panic gives the zero of the type,
one report, and an exception as far as the machine raises one (`settled_of_error`,
`settled_of_panic`); a machine that throws, and has none pending, does (`excused_of_throws`). The
work itself makes none of these reports and does not raise anything (`work_leaves`).
-/

namespace PointBridge

open Trace (Event)

namespace Native

/-! ## Settling -/

section Settling

variable {entry : Entry} {e : Ending (Except BridgeError Value)}

theorem settled_of_value {value : Value} (h : e.outcome = .ok (.ok value)) :
    settled entry e = ⟨.ok value, e.registry, e.jvm, e.events, e.alarm⟩ := by
  have hsettle : settle entry e.registry e.jvm e.outcome = .pure value e.registry e.jvm := by
    rw [h]
    rfl
  unfold settled
  rw [hsettle]
  simp [Course.pure, Course.run, Course.last]

/-- How reporting a failure and throwing an exception for it ends where no alarm is set. -/
theorem run_excuse (entry : Entry) (report : Event) (className text : String) (r : Registry)
    (jvm : Jvm) : (excuse entry report className text r jvm).run none =
      let thrown := jvm.perform (Jvm.raise ⟨className, entry.label ++ ": " ++ text⟩)
      ⟨.ok (zero entry), r, thrown.2, report :: throwReport className thrown.1, none⟩ := by
  rw [Course.run_none]
  simp [excuse, Course.events]

/-- The ending of a call whose work ended in a failure, with what is reported about that and the
exception that is thrown for it. -/
def excused (entry : Entry) (report : Event) (className text : String)
    (e : Ending (Except BridgeError Value)) : Ending Value :=
  let last := (excuse entry report className text e.registry e.jvm).run none
  { last with events := e.events ++ last.events }

theorem outcome_excused (entry : Entry) (report : Event) (className text : String)
    (e : Ending (Except BridgeError Value)) :
    (excused entry report className text e).outcome = .ok (zero entry) := by
  unfold excused
  rw [run_excuse]

/-- Where throwing works and no exception is pending, the one for a failure is raised. -/
theorem excused_of_throws (throws : e.jvm.Throws) (idle : e.jvm.pending = none) (entry : Entry)
    (report : Event) (className text : String) :
    (excused entry report className text e).events = e.events ++ [report] ∧
      (excused entry report className text e).jvm.pending =
        some ⟨className, entry.label ++ ": " ++ text⟩ := by
  obtain ⟨thrown, pending⟩ := throws.perform_raise idle ⟨className, entry.label ++ ": " ++ text⟩
  unfold excused
  rw [run_excuse]
  dsimp only
  rw [thrown]
  exact ⟨rfl, pending⟩

theorem settled_of_error {err : BridgeError} (h : e.outcome = .ok (.error err))
    (silent : e.alarm = none) :
    settled entry e = excused entry (.callFailed entry err) err.exceptionClass err.message e := by
  unfold settled excused
  rw [h, silent]
  rfl

theorem settled_of_panic {p : Payload} (h : e.outcome = .error p) (silent : e.alarm = none) :
    settled entry e =
      excused entry (.callPanicked entry p.description) ExceptionClass.runtime p.description e := by
  unfold settled excused
  rw [h, silent]
  rfl

end Settling

/-! ## What the work reports and leaves -/

variable {alarm : Option Alarm}

theorem isGuardReport_of_isRegistryReport {e : Event} (h : e.isRegistryReport = true) :
    isGuardReport e = false := by
  cases e <;> first | rfl | cases h

/-- The work of a call reports neither what the guard reports nor the completion of a span. -/
theorem of_mem_events_job {j : Job} {r : Registry} {jvm : Jvm} {e : Event}
    (h : e ∈ ((j.course r jvm).run alarm).events) :
    isGuardReport e = false ∧ e ≠ .spanCompleted := by
  cases j with
  | registry c =>
    rw [Job.course, Course.run_map] at h
    have report := Registry.isRegistryReport_of_mem_events (Registry.mem_events_of_run h)
    refine ⟨isGuardReport_of_isRegistryReport report, ?_⟩
    rintro rfl
    cases report
  | buffers x y =>
    obtain ⟨m, n, err, rfl⟩ := eq_of_mem_events_bufferCourse h
    exact ⟨rfl, nofun⟩

theorem like_job (j : Job) (r : Registry) (jvm : Jvm) :
    jvm.Like ((j.course r jvm).run alarm).jvm := by
  cases j with
  | registry c =>
    refine Course.left_run (P := fun _ jvm' => jvm.Like jvm') (fun cut h => ?_) (.refl jvm)
    rw [(Registry.of_mem_cuts h).2.2]
    exact .refl jvm
  | buffers x y => exact (left_run_bufferCourse x y r jvm alarm).2

/-- **What the work of a call leaves.** The machine is as it was but for the calls that reached it.
The events are those of the job and, if it is due, the completion of the span behind them. -/
theorem work_leaves (n : Call) (performance : PerformanceSwitch) (elapsed : UInt64) (r : Registry)
    (jvm : Jvm) (alarm : Option Alarm) :
    let e := (n.course performance elapsed r jvm).run alarm
    jvm.Like e.jvm ∧ ∃ events,
      e.events = events ++ Course.completion (n.isTimed && performance.reports elapsed) ∧
      ∀ x ∈ events, isGuardReport x = false ∧ x ≠ .spanCompleted := by
  dsimp only
  rw [Call.course, Course.run_spanned, (Course.left_completing ..).2, Course.events_completing]
  exact ⟨like_job n.job r jvm, _, rfl, fun x h => of_mem_events_job h⟩

end Native

end PointBridge
