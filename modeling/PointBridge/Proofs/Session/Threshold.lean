import PointBridge.Proofs.Session.Spans

/-!
# Global and own thresholds

A threshold is set for all spans without one of their own, or given to one span. Both ways it means
the same, that a span which took less time is not reported (`Session.thresholds_mean_the_same`),
except for the greatest word: as a global threshold it stands for none
(`Session.greatest_threshold_is_none`).
-/

namespace PointBridge

open Trace (Event)

theorem Course.completion_eq_singleton_iff {due : Bool} :
    completion due = [.spanCompleted] ↔ due = true := by
  cases due <;> simp [completion]

/-! ## The life of a span -/

/-- The life of a span, whatever threshold of its own it may have. It may replace another span,
which took some microseconds. Of the steps during its life none finishes it, and then the last one
does, when it took some microseconds itself. -/
structure SpanLife where
  key : String
  name : String
  replaced : UInt64
  alarm : Option Alarm
  others : List Step
  spared : ∀ x ∈ others, x.request.finishes? key = none
  last : Step
  elapsed : UInt64
  finishes : last.request.finishes? key = some elapsed

namespace Session

theorem carries_of_start (s : Session) (key name : String) (own : Option UInt64)
    (replaced : UInt64) (alarm : Option Alarm) {others : List Step}
    (spared : ∀ x ∈ others, x.request.finishes? key = none) :
    ((s.step ⟨.tracing (.spanStart key name own replaced), alarm⟩).2.run others).2.Carries key
      s.bridge.performance.enabled (own.or s.bridge.performance.threshold) := by
  obtain ⟨span, spans, -, recording, due⟩ := s.exists_step_spanStart key name own replaced alarm
  refine carries_of_span ((span_run _ spared).trans ?_) recording due
  rw [Session.span, spans, List.lookup_cons, beq_self_eq_true]
  rfl

end Session

namespace SpanLife

/-- What is reported when the span is finished, if it starts in a given session with a threshold of
its own or without one. -/
def report (life : SpanLife) (s : Session) (own : Option UInt64) : List Event :=
  let s' := (s.step ⟨.tracing (.spanStart life.key life.name own life.replaced), life.alarm⟩).2
  ((s'.run life.others).2.step life.last).1.reported

theorem report_eq (life : SpanLife) (s : Session) (own : Option UInt64) : life.report s own =
    if s.bridge.performance.enabled &&
        (own.or s.bridge.performance.threshold).all (· ≤ life.elapsed) then [.spanCompleted]
    else [] :=
  (s.carries_of_start life.key life.name own life.replaced life.alarm life.spared).finished
    life.last life.elapsed life.finishes

end SpanLife

namespace Session

variable {s : Session} {t : Option UInt64}

/-! ## The threshold in force -/

/-- Performance spans are on with a given global threshold. It was set by those who turned the
switch or with the subscriber of a configuration, and no setting has been made since. -/
inductive InForce (t : Option UInt64) : Session → Prop
  | turned (s : Session) (alarm : Option Alarm) :
    InForce t (s.step ⟨.tracing (.setPerformance true t), alarm⟩).2
  | installed {s : Session} {c : TracingCall} {config : Trace.Config} {alarm : Option Alarm}
    (asked : c.config? s.bridge.environment = some config)
    (enabled : config.performanceEnabled = true) (threshold : config.performanceThreshold = t)
    (free : s.bridge.subscriber = none)
    (installs : (s.step ⟨.tracing c, alarm⟩).2.bridge.subscriber.isSome) :
    InForce t (s.step ⟨.tracing c, alarm⟩).2
  | kept {s : Session} {x : Step} (before : InForce t s) (unset : s.settingOf x = none) :
    InForce t (s.step x).2

/-- A subscriber that is installed comes with the setting of its configuration. -/
theorem settingOf_of_installs {c : TracingCall} {config : Trace.Config} {alarm : Option Alarm}
    (asked : c.config? s.bridge.environment = some config) (free : s.bridge.subscriber = none)
    (installs : (s.step ⟨.tracing c, alarm⟩).2.bridge.subscriber.isSome) :
    s.settingOf ⟨.tracing c, alarm⟩ = some config.setting := by
  have hsetting : s.settingOf ⟨.tracing c, alarm⟩ =
      if s.bridge.subscriber.isNone && (s.step ⟨.tracing c, alarm⟩).2.bridge.subscriber.isSome then
        (c.config? s.bridge.environment).map (·.setting)
      else none := by
    cases c with
    | setPerformance enabled threshold => cases asked
    | _ => rfl
  rw [hsetting, free, installs, asked]
  rfl

theorem InForce.performance_eq (inForce : s.InForce t) :
    s.bridge.performance = .position true t := by
  induction inForce with
  | turned s alarm => rfl
  | installed asked enabled threshold free installs =>
    rw [performance_step, settingOf_of_installs asked free installs, ← enabled, ← threshold]
    rfl
  | kept _ unset ih =>
    rw [performance_step, unset]
    exact ih

/-- The threshold in force counts unless it is the greatest word. -/
theorem InForce.threshold_eq (inForce : s.InForce t) :
    s.bridge.performance.threshold = if t = some 0xffffffffffffffff then none else t := by
  rw [inForce.performance_eq]
  refine (PerformanceSetting.threshold_switch ⟨true, t⟩).trans ?_
  cases t with
  | none => rfl
  | some word =>
    by_cases greatest : word = 0xffffffffffffffff <;> simp [greatest, Option.filter_some]

theorem InForce.report_none (inForce : s.InForce t) (life : SpanLife) : life.report s none =
    Course.completion
      ((if t = some 0xffffffffffffffff then none else t).all (· ≤ life.elapsed)) := by
  rw [life.report_eq, inForce.threshold_eq, inForce.performance_eq]
  rfl

theorem InForce.report_some (inForce : s.InForce t) (life : SpanLife) (own : UInt64) :
    life.report s (some own) = Course.completion (own ≤ life.elapsed) := by
  rw [life.report_eq, inForce.performance_eq]
  rfl

theorem InForce.count_completion (inForce : s.InForce t) {n : Native.Call}
    (timed : n.isTimed = true) (jvm : Jvm) (elapsed : UInt64) (alarm : Option Alarm) :
    (s.step ⟨.native n jvm elapsed, alarm⟩).1.reported.count .spanCompleted =
      if (if t = some 0xffffffffffffffff then none else t).all (· ≤ elapsed) then 1 else 0 := by
  rw [count_completion_native, timed, PerformanceSwitch.reports, inForce.threshold_eq,
    inForce.performance_eq]
  rfl

/-- What takes long enough for a threshold takes long enough for a lower one. -/
theorem all_le_of_getD_le {t' : Option UInt64} {elapsed : UInt64} (raised : t.getD 0 ≤ t'.getD 0)
    (reached : t'.all (· ≤ elapsed) = true) : t.all (· ≤ elapsed) = true := by
  cases t with
  | none => rfl
  | some word =>
    have hle : t'.getD 0 ≤ elapsed := by
      cases t' with
      | none => exact UInt64.zero_le
      | some word' => exact of_decide_eq_true reached
    exact decide_eq_true (UInt64.le_trans raised hle)

/-- **A threshold means the same globally and on a span**, unless it is the greatest word. While
performance spans are on with a global threshold, a span without one of its own is reported if it
took at least as long, and always if there is none; this is when a span is reported that has the
threshold as its own. The same holds for the spans of native calls. As a global threshold, the
greatest word is none. So to raise the global threshold to anything less lets no span be reported
that was not. -/
theorem thresholds_mean_the_same (inForce : s.InForce t) :
    (t ≠ some 0xffffffffffffffff →
      (∀ life : SpanLife, life.report s none = life.report s t ∧
        life.report s none = if t.all (· ≤ life.elapsed) then [.spanCompleted] else []) ∧
      ∀ n : Native.Call, n.isTimed = true → ∀ (jvm : Jvm) (elapsed : UInt64) (alarm : Option Alarm),
        (s.step ⟨.native n jvm elapsed, alarm⟩).1.reported.count .spanCompleted =
          if t.all (· ≤ elapsed) then 1 else 0) ∧
    (t = some 0xffffffffffffffff → ∀ life : SpanLife, life.report s none = [.spanCompleted]) ∧
    ∀ (s' : Session) (t' : Option UInt64), s'.InForce t' → t' ≠ some 0xffffffffffffffff →
      t.getD 0 ≤ t'.getD 0 → ∀ life : SpanLife, life.report s' none = [.spanCompleted] →
        life.report s none = [.spanCompleted] := by
  refine ⟨fun less => ⟨fun life => ?_, fun n timed jvm elapsed alarm => ?_⟩,
    fun greatest life => ?_, fun s' t' inForce' less raised life reported => ?_⟩
  · have reports := inForce.report_none life
    rw [if_neg less] at reports
    refine ⟨?_, reports⟩
    cases t with
    | none => rfl
    | some own => exact reports.trans (inForce.report_some life own).symm
  · rw [inForce.count_completion timed, if_neg less]
  · rw [inForce.report_none, if_pos greatest]
    rfl
  · rw [inForce'.report_none, if_neg less, Course.completion_eq_singleton_iff] at reported
    rw [inForce.report_none, Course.completion_eq_singleton_iff]
    by_cases greatest : t = some 0xffffffffffffffff
    · rw [if_pos greatest]
      rfl
    · rw [if_neg greatest]
      exact all_le_of_getD_le raised reported

/-- A threshold of 100 is set by turning the switch and one of 250 with a subscriber. While the span
lasts, the switch is turned off and another span starts. -/
theorem thresholds_mean_the_same_during_changes :
    let config : Trace.Config := { Trace.Config.development with performanceThreshold := some 250 }
    let s := ((start {}).step ⟨.tracing (.setPerformance true (some 100)), none⟩).2
    let s' := ((start {}).step ⟨.tracing (.initGlobal config), none⟩).2
    let life (elapsed : UInt64) : SpanLife :=
      { key := "first", name := "a", replaced := 0, alarm := none, elapsed
        others := [⟨.tracing (.setPerformance false none), none⟩,
          ⟨.tracing (.spanStart "second" "b" (some 7) 0), none⟩]
        spared := by decide
        last := ⟨.tracing (.spanFinish "first" elapsed), none⟩
        finishes := rfl }
    s.InForce (some 100) ∧ s'.InForce (some 250) ∧
      (life 99).report s none = [] ∧ (life 100).report s none = [.spanCompleted] ∧
      (life 100).report s (some 100) = [.spanCompleted] ∧ (life 249).report s' none = [] ∧
      (life 250).report s' none = [.spanCompleted] ∧
      (life 250).report s none = [.spanCompleted] := by
  intro config s s' life
  have turned : s.InForce (some 100) := .turned (start {}) none
  have installs : s'.bridge.subscriber.isSome := by decide +kernel
  have installed : s'.InForce (some 250) := .installed rfl rfl rfl rfl installs
  obtain ⟨same, -, lower⟩ := thresholds_mean_the_same turned
  obtain ⟨same', -⟩ := thresholds_mean_the_same installed
  have spans (life : SpanLife) := (same (by decide)).1 life
  have spans' (life : SpanLife) := (same' (by decide)).1 life
  exact ⟨turned, installed, (spans (life 99)).2, (spans (life 100)).2,
    (spans (life 100)).1.symm.trans (spans (life 100)).2, (spans' (life 249)).2,
    (spans' (life 250)).2,
    lower s' (some 250) installed (by decide) (by decide) (life 250) (spans' (life 250)).2⟩

/-- As a global threshold the greatest word lets every span be reported, as the own threshold of a
span next to none; and to raise a global threshold of 100 to it lets a span be reported that was
not. -/
theorem greatest_threshold_is_none :
    let s (t : UInt64) := ((start {}).step ⟨.tracing (.setPerformance true (some t)), none⟩).2
    let life : SpanLife :=
      { key := "a", name := "n", replaced := 0, alarm := none, others := [], spared := by decide
        last := ⟨.tracing (.spanFinish "a" 99), none⟩, elapsed := 99, finishes := rfl }
    (s 0xffffffffffffffff).InForce (some 0xffffffffffffffff) ∧
      life.report (s 0xffffffffffffffff) none = [.spanCompleted] ∧
      life.report (s 0xffffffffffffffff) (some 0xffffffffffffffff) = [] ∧
      life.report (s 100) none = [] := by
  intro s life
  have inForce (t : UInt64) : (s t).InForce (some t) := .turned (start {}) none
  exact ⟨inForce _, (inForce _).report_none life, (inForce _).report_some life _,
    (inForce 100).report_none life⟩

end Session

end PointBridge
