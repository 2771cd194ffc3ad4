import PointBridge.Proofs.Native.Exceptions
import PointBridge.Proofs.Session.Relates

/-!
# Performance spans in a session

The setting for performance spans is made by those who turn the switch, and by the attempt that
installs a subscriber; no other step changes it, wherever the observer panics
(`Session.performance_step`). A span takes from the setting in force when it starts whether it
records and, unless it has a threshold of its own, its threshold. It keeps both until it is
finished, whatever happens to the switch and to other spans meanwhile
(`Session.spans_capture_setting`).
-/

namespace PointBridge

open Trace (Event)

/-! ## Settings -/

/-- How performance spans are to be treated: whether new ones record, and the threshold in
microseconds for those without one of their own. -/
structure PerformanceSetting where
  enabled : Bool := false
  threshold : Option UInt64 := none

/-- The switch in the position of a setting. -/
def PerformanceSetting.switch (setting : PerformanceSetting) : PerformanceSwitch :=
  .position setting.enabled setting.threshold

/-- The setting that a configuration asks for. -/
def Trace.Config.setting (config : Trace.Config) : PerformanceSetting :=
  ⟨config.performanceEnabled, config.performanceThreshold⟩

/-- The greatest word counts as no threshold. -/
theorem PerformanceSetting.threshold_switch (setting : PerformanceSetting) :
    setting.switch.threshold = setting.threshold.filter (· ≠ 0xffffffffffffffff) := by
  unfold switch PerformanceSwitch.position PerformanceSwitch.threshold PerformanceSwitch.noThreshold
  cases setting.threshold with
  | none => rfl
  | some word => by_cases h : word = 0xffffffffffffffff <;> simp [h, Option.filter]

/-! ## Steps that make a setting -/

/-- A setting is on offer together with a subscriber. Either the subscriber and the switch are as
before, or there was no subscriber, one is installed, and the switch stands as the setting says. -/
inductive Standing.Tunes (offer? : Option PerformanceSetting) (x y : Standing) : Prop
  | kept (subscriber : y.2.subscriber = x.2.subscriber)
    (performance : y.2.performance = x.2.performance)
  | made (setting : PerformanceSetting) (offered : offer? = some setting)
    (free : x.2.subscriber = none) (installed : y.2.subscriber.isSome)
    (performance : y.2.performance = setting.switch)

namespace Standing.Tunes

variable {offer? : Option PerformanceSetting} {x y z : Standing}

protected theorem refl (x : Standing) : Tunes offer? x x := .kept rfl rfl

protected theorem trans (h : Tunes offer? x y) (h' : Tunes offer? y z) : Tunes offer? x z := by
  cases h with
  | kept subscriber performance =>
    cases h' with
    | kept subscriber' performance' =>
      exact .kept (subscriber'.trans subscriber) (performance'.trans performance)
    | made setting offered free installed performance' =>
      exact .made setting offered (subscriber.symm.trans free) installed performance'
  | made setting offered free installed performance =>
    cases h' with
    | kept subscriber' performance' =>
      exact .made setting offered free (subscriber' ▸ installed) (performance'.trans performance)
    | made _ _ free' _ _ =>
      rw [free'] at installed
      cases installed

instance : IsPreorder Standing (Tunes offer?) where
  refl := .refl
  trans _ _ _ := .trans

end Standing.Tunes

theorem Bridge.tunes_initGlobal (b : Bridge) (config : Trace.Config) :
    b.Relates (Standing.Tunes (some config.setting)) (initGlobal config) := by
  unfold initGlobal
  refine .get ?_
  split
  · exact .pure _
  · exact .throw _
  · dsimp only
    split
    next installed => exact .set_bind (.kept rfl rfl) (.pure _)
    next free =>
      have free : b.subscriber = none := Option.not_isSome_iff_eq_none.1 free
      exact .set_bind (.made config.setting rfl free rfl rfl) (.pure _)

namespace Session

/-- The setting that a step makes, if it makes one. -/
def settingOf (s : Session) (x : Step) : Option PerformanceSetting :=
  match x.request with
  | .tracing (.setPerformance enabled threshold) => some ⟨enabled, threshold⟩
  | .tracing c =>
    if s.bridge.subscriber.isNone && (s.step x).2.bridge.subscriber.isSome then
      (c.config? s.bridge.environment).map (·.setting)
    else none
  | _ => none

/-- The settings that are made in a run, in order. -/
def settings (s : Session) : List Step → List PerformanceSetting
  | [] => []
  | x :: rest =>
    (s.settingOf x).toList ++
      if (s.step x).1.aborted x.request then [] else (s.step x).2.settings rest

/-- The session with a journal and an alarm for a step. -/
def under (s : Session) (alarm : Option Alarm) : Session := { s with bridge := s.armed alarm }

variable (s : Session)

theorem tunes_call (offer? : Option PerformanceSetting) (b : Bridge) (c : Registry.Call) :
    b.Relates (Standing.Tunes offer?) (Registry.call c) :=
  .of_endsIn (Registry.follows_call b c) (.kept rfl rfl)

theorem tunes_native (offer? : Option PerformanceSetting) (b : Bridge) (n : Native.Call)
    (jvm : Jvm) (elapsed : UInt64) :
    b.Relates (Standing.Tunes offer?) (Native.call n jvm elapsed) :=
  .of_endsIn (Native.endsIn_call b n jvm elapsed) (.kept rfl rfl)

/-- A tracing call that does not turn the switch itself makes a setting only with a subscriber. -/
theorem tunes_trace {c : TracingCall}
    (other : ∀ enabled threshold, c ≠ .setPerformance enabled threshold) :
    Standing.Tunes ((c.config? s.bridge.environment).map (·.setting)) s.bridge.standing
      (s.trace c).2.bridge.standing :=
  relates_trace {
    offer := fun config offered b directives => by
      rw [offered]
      exact b.tunes_initGlobal { config with directives }
    once := fun _ _ => .kept rfl rfl
    switch := fun enabled threshold turned => absurd turned (other enabled threshold) }

theorem settingOf_of_other {request : Request} (other : ∀ c, request ≠ .tracing c)
    (alarm : Option Alarm) : s.settingOf ⟨request, alarm⟩ = none := by
  cases request with
  | tracing c => exact absurd rfl (other c)
  | _ => rfl

/-- A tracing call that does not turn the switch itself makes a setting if it installs a
subscriber. -/
theorem performance_trace {c : TracingCall}
    (other : ∀ enabled threshold, c ≠ .setPerformance enabled threshold) (alarm : Option Alarm) :
    (s.step ⟨.tracing c, alarm⟩).2.bridge.performance =
      ((s.settingOf ⟨.tracing c, alarm⟩).map (·.switch)).getD s.bridge.performance := by
  have hsetting : s.settingOf ⟨.tracing c, alarm⟩ =
      if s.bridge.subscriber.isNone && (s.step ⟨.tracing c, alarm⟩).2.bridge.subscriber.isSome then
        (c.config? s.bridge.environment).map (·.setting)
      else none := by
    cases c with
    | setPerformance enabled threshold => exact absurd rfl (other enabled threshold)
    | _ => rfl
  have tunes : Standing.Tunes ((c.config? s.bridge.environment).map (·.setting))
      s.bridge.standing (s.step ⟨.tracing c, alarm⟩).2.bridge.standing :=
    (s.under alarm).tunes_trace other
  rw [hsetting]
  cases tunes with
  | kept subscriber performance =>
    have same : (s.step ⟨.tracing c, alarm⟩).2.bridge.subscriber = s.bridge.subscriber := subscriber
    have never : (s.bridge.subscriber.isNone && s.bridge.subscriber.isSome) = false := by
      cases s.bridge.subscriber <;> rfl
    rw [same, never]
    exact performance
  | made setting offered free installed performance =>
    have free : s.bridge.subscriber = none := free
    have installed : (s.step ⟨.tracing c, alarm⟩).2.bridge.subscriber.isSome := installed
    rw [free, installed, offered]
    exact performance

/-- **What a step does to the switch**: it puts it in the position of the setting that it makes, and
otherwise leaves it alone. -/
theorem performance_step (x : Step) : (s.step x).2.bridge.performance =
    ((s.settingOf x).map (·.switch)).getD s.bridge.performance := by
  obtain ⟨request, alarm⟩ := x
  by_cases traces : ∃ c, request = .tracing c
  · obtain ⟨c, rfl⟩ := traces
    by_cases turns : ∃ enabled threshold, c = .setPerformance enabled threshold
    · obtain ⟨enabled, threshold, rfl⟩ := turns
      rfl
    · exact s.performance_trace (fun enabled threshold h => turns ⟨enabled, threshold, h⟩) alarm
  · have other (c : TracingCall) : request ≠ .tracing c := fun h => traces ⟨c, h⟩
    -- what is no tracing call offers no setting
    have tunes : Standing.Tunes none s.bridge.standing
        (s.step ⟨request, alarm⟩).2.bridge.standing :=
      relates_perform (s := s.under alarm)
        ⟨tunes_call none, tunes_native none, fun c made => absurd made (other c)⟩
    rw [s.settingOf_of_other other]
    cases tunes with
    | kept _ performance => exact performance
    | made _ offered => cases offered

/-- The switch stands in the position of the last setting that was made. -/
theorem performance_run (steps : List Step) : (s.run steps).2.bridge.performance =
    ((s.settings steps).getLast?.map (·.switch)).getD s.bridge.performance := by
  induction steps generalizing s with
  | nil => rfl
  | cons x rest ih =>
    rw [settings, List.getLast?_append]
    cases ends : (s.step x).1.aborted x.request with
    | true =>
      rw [s.run_cons_of_aborted x rest ends, if_pos rfl, performance_step]
      cases s.settingOf x <;> rfl
    | false =>
      have hrest := ih (s.step x).2
      rw [performance_step] at hrest
      rw [s.run_cons x rest ends, if_neg Bool.false_ne_true]
      refine hrest.trans ?_
      cases (s.step x).2.settings rest |>.getLast? with
      | some setting => rfl
      | none => cases s.settingOf x <;> rfl

end Session

/-! ## Steps that start and finish spans -/

/-- The number of microseconds with which a request finishes the span under a key, if it does so. To
start a span under the same key is to finish the one that is there. -/
def Request.finishes? (key : String) : Request → Option UInt64
  | .tracing (.spanStart key' _ _ replaced) => if key' = key then some replaced else none
  | .tracing (.spanFinish key' elapsed) => if key' = key then some elapsed else none
  | _ => none

namespace Session

variable (s : Session)

theorem lookup_without (key other : String) : (s.without key).lookup other =
    if other = key then none else s.spans.lookup other := by
  unfold without
  induction s.spans with
  | nil => split <;> rfl
  | cons entry rest ih =>
    obtain ⟨k, span⟩ := entry
    rw [List.filter_cons, List.lookup_cons]
    by_cases hk : k = key
    · rw [if_neg (by simp [hk]), ih]
      by_cases ho : other = key
      · rw [if_pos ho, if_pos ho]
      · have hne : (other == k) = false := by simpa [hk] using ho
        rw [if_neg ho, if_neg ho, hne]
    · rw [if_pos (by simp [hk]), List.lookup_cons, ih]
      by_cases ho : other = key
      · have hne : (other == k) = false := by simpa [ho] using Ne.symm hk
        rw [if_pos ho, if_pos ho, hne]
      · rw [if_neg ho, if_neg ho]

/-- The step that starts a span puts it under its key, in the place of one that finishes. -/
theorem exists_step_spanStart (key name : String) (own : Option UInt64) (replaced : UInt64)
    (alarm : Option Alarm) : ∃ span : PerformanceSpan,
    let result := s.step ⟨.tracing (.spanStart key name own replaced), alarm⟩
    result.2.spans = (key, span) :: s.without key ∧
    result.1.reported = Course.completion ((s.span key).isDue replaced) ∧
    span.isRecording = s.bridge.performance.enabled ∧
    ∀ elapsed, span.isDue elapsed = (s.bridge.performance.enabled &&
      (own.or s.bridge.performance.threshold).all (· ≤ elapsed)) := by
  obtain ⟨span, ⟨ho, -, -, he, -, -⟩, recording, due⟩ :=
    PerformanceSpan.exists_start (s.armed alarm) name own
  have htrace : (s.under alarm).trace (.spanStart key name own replaced) =
      answering ⟨((s.armed alarm).carryOut (PerformanceSpan.start name own)).2,
        (key, span) :: s.without key⟩ ((s.span key).finish replaced)
        fun _ => .flag span.isRecording := by
    unfold under
    simp only [trace, onBridge_eq, ho]
    rfl
  refine ⟨span, ?_, ?_, recording, due⟩
  · exact congrArg (·.2.spans) htrace
  · refine (congrArg (·.2.bridge.events) htrace).trans ?_
    refine (PerformanceSpan.events_finish _ (s.span key) replaced).trans ?_
    rw [he]
    rfl

/-- What the step that finishes a span reports: its completion, if that is due. -/
theorem reported_of_finishes {x : Step} {key : String} {elapsed : UInt64}
    (finishes : x.request.finishes? key = some elapsed) :
    (s.step x).1.reported = Course.completion ((s.span key).isDue elapsed) := by
  obtain ⟨request, alarm⟩ := x
  cases request with
  | tracing c =>
    cases c with
    | spanStart k name own replaced =>
      obtain ⟨rfl, same⟩ := Option.ite_none_right_eq_some.1 finishes
      obtain ⟨span, -, reported, -⟩ := s.exists_step_spanStart k name own replaced alarm
      rw [reported, Option.some.inj same]
    | spanFinish k time =>
      obtain ⟨rfl, same⟩ := Option.ite_none_right_eq_some.1 finishes
      rw [← Option.some.inj same]
      exact PerformanceSpan.events_finish (s.armed alarm) (s.span k) time
    | _ => cases finishes
  | _ => cases finishes

/-- A step that does not finish the span under a key leaves it alone. -/
theorem span_step {x : Step} {key : String} (spares : x.request.finishes? key = none) :
    (s.step x).2.span key = s.span key := by
  obtain ⟨request, alarm⟩ := x
  have apart {k : String} {time : UInt64}
      (spared : (if k = key then some time else none) = none) : key ≠ k := by
    rintro rfl
    rw [if_pos rfl] at spared
    cases spared
  have spared (k : String) (h : key ≠ k) : (s.without k).lookup key = s.spans.lookup key := by
    rw [lookup_without, if_neg h]
  -- a span of this session is what is under the key among all started ones
  have of_spans {t : Session} (h : t.spans.lookup key = s.spans.lookup key) :
      t.span key = s.span key := congrArg (·.getD ⟨none⟩) h
  cases request with
  | tracing c =>
    cases c with
    | spanStart k name own replaced =>
      obtain ⟨span, spans, -⟩ := s.exists_step_spanStart k name own replaced alarm
      refine of_spans ?_
      rw [spans, List.lookup_cons, beq_false_of_ne (apart spares)]
      exact spared k (apart spares)
    | spanFinish k time => exact of_spans (spared k (apart spares))
    | _ => exact of_spans rfl
  | _ => exact of_spans rfl

/-- A span that is finished is gone. -/
theorem span_step_spanFinish (key : String) (elapsed : UInt64) (alarm : Option Alarm) :
    (s.step ⟨.tracing (.spanFinish key elapsed), alarm⟩).2.span key = ⟨none⟩ := by
  have spans : (s.step ⟨.tracing (.spanFinish key elapsed), alarm⟩).2.spans = s.without key := rfl
  rw [span, spans, lookup_without, if_pos rfl]
  rfl

theorem span_run {steps : List Step} {key : String}
    (spare : ∀ x ∈ steps, x.request.finishes? key = none) :
    (s.run steps).2.span key = s.span key := by
  induction steps generalizing s with
  | nil => rfl
  | cons x rest ih =>
    obtain ⟨here, later⟩ := List.forall_mem_cons.1 spare
    cases ends : (s.step x).1.aborted x.request with
    | true =>
      rw [s.run_cons_of_aborted x rest ends]
      exact s.span_step here
    | false =>
      rw [s.run_cons x rest ends]
      exact (ih (s.step x).2 later).trans (s.span_step here)

/-! ## What a span captures -/

/-- The span under a key records or not, and has a threshold or none. Those who ask are told whether
it records. The step that finishes it reports its completion once, if it records and has reached its
threshold, and nothing otherwise. Finished once, it is not finished again. -/
structure Carries (s : Session) (key : String) (records : Bool) (threshold : Option UInt64) :
    Prop where
  recording (alarm : Option Alarm) :
    (s.step ⟨.tracing (.spanRecording key), alarm⟩).1.outcome = .ok (.flag records)
  measured (alarm : Option Alarm) :
    (s.step ⟨.tracing (.spanElapsed key), alarm⟩).1.outcome = .ok (.elapsed records)
  finished (x : Step) (elapsed : UInt64) (finishes : x.request.finishes? key = some elapsed) :
    (s.step x).1.reported =
      if records && threshold.all (· ≤ elapsed) then [.spanCompleted] else []
  gone (elapsed : UInt64) (alarm : Option Alarm) (y : Step) (time : UInt64)
    (finishes : y.request.finishes? key = some time) :
    ((s.step ⟨.tracing (.spanFinish key elapsed), alarm⟩).2.step y).1.reported = []

theorem carries_of_span {s : Session} {key : String} {span : PerformanceSpan} {records : Bool}
    {threshold : Option UInt64} (kept : s.span key = span) (recording : span.isRecording = records)
    (due : ∀ elapsed, span.isDue elapsed = (records && threshold.all (· ≤ elapsed))) :
    s.Carries key records threshold := by
  have told : (s.span key).isRecording = records := by rw [kept, recording]
  constructor
  case recording => exact fun _ => congrArg (fun flag => Except.ok (Answer.flag flag)) told
  case measured => exact fun _ => congrArg (fun flag => Except.ok (Answer.elapsed flag)) told
  case finished =>
    intro x elapsed finishes
    rw [s.reported_of_finishes finishes, kept, due]
    rfl
  case gone =>
    intro elapsed alarm y time finishes
    rw [reported_of_finishes _ finishes, span_step_spanFinish]
    rfl

/-- A native call reports the completion of its span once, if it runs in one which is due. -/
theorem count_completion_native (n : Native.Call) (jvm : Jvm) (elapsed : UInt64)
    (alarm : Option Alarm) :
    (s.step ⟨.native n jvm elapsed, alarm⟩).1.reported.count .spanCompleted =
      if n.isTimed && s.bridge.performance.reports elapsed then 1 else 0 := by
  obtain ⟨rest, hrest, guarded⟩ := Native.exists_events_settled n.entry
    ((n.course s.bridge.performance elapsed s.bridge.registry jvm).run alarm)
  obtain ⟨-, events, hevents, own⟩ :=
    Native.work_leaves n s.bridge.performance elapsed s.bridge.registry jvm alarm
  have hbefore : events.count .spanCompleted = 0 := List.count_eq_zero.2 fun h => (own _ h).2 rfl
  have hbehind : rest.count .spanCompleted = 0 :=
    List.count_eq_zero.2 fun h => Bool.false_ne_true (guarded _ h)
  have hreported := (s.stepsTo_native n jvm elapsed alarm).events.trans hrest
  rw [hreported, hevents, List.count_append, List.count_append, hbefore, hbehind]
  cases n.isTimed && s.bridge.performance.reports elapsed <;> rfl

/-- **Performance spans capture the setting in force when they start.** After any steps from a new
process, the setting is the last one that was made. A span that starts then records if that is
enabled, and has its own threshold or else the global one, where the greatest word is none. This
does not change as long as the span is not finished, whatever other steps come between and wherever
the observer panics. The span of a native call starts and finishes within one step. -/
theorem spans_capture_setting (environment : Trace.Variables) (past : List Step) :
    let s := ((start environment).run past).2
    let setting := ((start environment).settings past).getLast?.getD {}
    let global := setting.threshold.filter (· ≠ 0xffffffffffffffff)
    (∀ (key name : String) (own : Option UInt64) (replaced : UInt64) (alarm : Option Alarm)
      (later : List Step), (∀ x ∈ later, x.request.finishes? key = none) →
      ((s.step ⟨.tracing (.spanStart key name own replaced), alarm⟩).2.run later).2.Carries key
        setting.enabled (own.or global)) ∧
    ∀ (n : Native.Call) (jvm : Jvm) (elapsed : UInt64) (alarm : Option Alarm),
      (s.step ⟨.native n jvm elapsed, alarm⟩).1.reported.count .spanCompleted =
        if n.isTimed && setting.enabled && global.all (· ≤ elapsed) then 1 else 0 := by
  intro s setting global
  have hperformance : s.bridge.performance = setting.switch := by
    refine (performance_run _ past).trans ?_
    unfold setting
    cases ((start environment).settings past).getLast? <;> rfl
  have hthreshold : s.bridge.performance.threshold = global := by
    rw [hperformance, setting.threshold_switch]
  have henabled : s.bridge.performance.enabled = setting.enabled :=
    congrArg PerformanceSwitch.enabled hperformance
  refine ⟨fun key name own replaced alarm later spare => ?_, fun n jvm elapsed alarm => ?_⟩
  · obtain ⟨span, spans, -, recording, due⟩ :=
      s.exists_step_spanStart key name own replaced alarm
    rw [henabled] at recording
    rw [henabled, hthreshold] at due
    refine carries_of_span ((span_run _ spare).trans ?_) recording due
    rw [Session.span, spans, List.lookup_cons, beq_self_eq_true]
    rfl
  · rw [count_completion_native, PerformanceSwitch.reports, henabled, hthreshold, Bool.and_assoc]

/-- The switch is turned off, and another span starts, before a span is finished. -/
theorem spans_capture_setting_past_the_switch :
    let past : List Step := [⟨.tracing (.setPerformance true (some 100)), none⟩]
    let later : List Step := [⟨.tracing (.setPerformance false none), none⟩,
      ⟨.tracing (.spanStart "second" "b" (some 7) 0), none⟩]
    let s := ((start {}).run past).2
    let s' := ((s.step ⟨.tracing (.spanStart "first" "a" none 0), none⟩).2.run later).2
    (∀ x ∈ later, x.request.finishes? "first" = none) ∧
      (s'.step ⟨.tracing (.spanRecording "first"), none⟩).1.outcome = .ok (.flag true) ∧
      (s'.step ⟨.tracing (.spanFinish "first" 99), none⟩).1.reported = [] ∧
      (s'.step ⟨.tracing (.spanFinish "first" 100), none⟩).1.reported = [.spanCompleted] := by
  intro past later s s'
  have spare : ∀ x ∈ later, x.request.finishes? "first" = none := by decide
  obtain ⟨captured, -⟩ := spans_capture_setting {} past
  have carries := captured "first" "a" none 0 none later spare
  exact ⟨spare, carries.recording none, carries.finished ⟨_, none⟩ 99 rfl,
    carries.finished ⟨_, none⟩ 100 rfl⟩

end Session

end PointBridge
