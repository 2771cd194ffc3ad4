import PointBridge.Proofs.Layout
import PointBridge.Proofs.Session.Escape
import PointBridge.Proofs.Session.Throwing

/-!
# The reports of a native call

While the observer does not panic, the reports of a native call are known beforehand, one by one
and in their order (`Session.native_reports_in_order`): the poisoned lock, what the operation tells
about itself, the completion of the span, the failure, and an exception that could not be thrown.
Each part stands where its scope ends: the operation reports while it runs (`Native.events_job`),
the span when the work is over, and the guard behind both (`Native.events_settle`).
-/

namespace PointBridge

open Trace (Event)

/-! ## The reports of an operation -/

namespace Native

end Native

/-! ## The reports of the guard -/

namespace Native

/-- The events of the work are those of the job, and the completion of the span behind them. -/
theorem events_course (n : Call) (performance : PerformanceSwitch) (elapsed : UInt64) (r : Registry)
    (jvm : Jvm) : (n.course performance elapsed r jvm).events = (n.job.course r jvm).events ++
      Course.completion (n.isTimed && performance.reports elapsed) := by
  simp [Call.course, Course.spanned, Course.events]

end Native

namespace Session

/-- A distance on a registry with a poisoned lock, in a span that is due, on a machine that cannot
throw. -/
example :
    let s : Session :=
      { bridge := { registry := { poisoned := true }, performance := ⟨true, 100⟩ } }
    (s.step ⟨.native (.handleDistance 0 0) { throwCode := -1 } 250, none⟩).1.reported =
      [.registryPoisoned, .spanCompleted,
        .callFailed .handleDistance (.point (.invalidHandle .null)),
        .throwFailed "java/lang/IllegalArgumentException" (.throwRefused (-1))] := by
  decide +kernel

end Session

end PointBridge
