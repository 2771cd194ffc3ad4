import PointBridge.Proofs.Installation
import PointBridge.Proofs.Session.Keeps

/-!
# Tracing calls in a session

What a tracing call answers is a matter of how the bridge is set up and of which of the started
spans record. That is also all that it changes for later tracing calls, and its reports are about
tracing (`Session.exists_tracesTo`).
-/

namespace PointBridge

open Trace

namespace Trace.Event

/-- Whether an event is about tracing. -/
def isTracingReport : Event → Bool
  | spanCompleted | blockTimed .. | libraryLoaded .. | directivesIgnored _ => true
  | _ => false

end Trace.Event

/-! ## Steps -/

namespace TracingCall

/-- The configuration with which a call asks to install a subscriber once, if it does so. -/
def onceConfig? (environment : Variables) : TracingCall → Option Config
  | .initOnce config => some config
  | .onLoad => some (.ofVariables environment)
  | _ => none

/-- The tracing call, if a span that it finishes takes a number of microseconds. -/
def taking (elapsed : UInt64) : TracingCall → TracingCall
  | .spanStart key name own _ => .spanStart key name own elapsed
  | .spanFinish key _ => .spanFinish key elapsed
  | c => c

theorem exists_taking (c : TracingCall) : ∃ elapsed, c.taking elapsed = c := by
  cases c with
  | spanStart key name own replaced => exact ⟨replaced, rfl⟩
  | spanFinish key elapsed => exact ⟨elapsed, rfl⟩
  | _ => exact ⟨0, rfl⟩

end TracingCall

/-- What tracing calls look at: how the bridge is set up, and which of the started spans record, by
their keys, the latest first. -/
structure TracingView where
  setup : Setup
  recording : List (String × Bool)

namespace Session

/-- What tracing calls in a session look at. -/
def tracingView (s : Session) : TracingView :=
  ⟨s.bridge.setup, s.spans.map fun entry => (entry.1, entry.2.isRecording)⟩

/-- A tracing call ends in a given way while no alarm is set. -/
structure TracesTo (s : Session) (c : TracingCall) (outcome : Except Payload Answer)
    (view : TracingView) (events : List Event) : Prop where
  outcome : (s.step ⟨.tracing c, none⟩).1.outcome = outcome
  view : (s.step ⟨.tracing c, none⟩).2.tracingView = view
  events : (s.step ⟨.tracing c, none⟩).1.reported = events

theorem isRecording_span (s : Session) (key : String) :
    (s.span key).isRecording = (s.tracingView.recording.lookup key).getD false := by
  obtain ⟨b, spans⟩ := s
  unfold span tracingView
  dsimp only
  induction spans with
  | nil => rfl
  | cons entry rest ih =>
    obtain ⟨k, started⟩ := entry
    rw [List.map_cons, List.lookup_cons, List.lookup_cons]
    cases key == k with
    | true => rfl
    | false => exact ih

theorem map_without (s : Session) (key : String) :
    (s.without key).map (fun entry => (entry.1, entry.2.isRecording)) =
      s.tracingView.recording.filter fun entry => entry.1 ≠ key := by
  unfold without tracingView
  rw [List.filter_map]
  rfl

/-- The session as a step without an alarm finds it. -/
def quieted (s : Session) : Session := { s with bridge := s.armed none }

section Traced

variable {α : Type} {s : Session} {c : TracingCall} {outcome : Except Payload Answer}
  {view : TracingView} {events : List Event}

theorem tracesTo_of_trace (ho : (s.quieted.trace c).1 = outcome)
    (hv : (s.quieted.trace c).2.tracingView = view)
    (he : (s.quieted.trace c).2.bridge.events = events) : s.TracesTo c outcome view events :=
  ⟨ho, hv, he⟩

/-- A tracing call that carries out an action which is a matter of the setup. -/
theorem tracesTo_of_yields {act : Bridge.Action α} {say : α → Answer} {result : Except Payload α}
    {setup : Setup} (yields : s.bridge.setup.Yields act result setup events)
    (h : s.quieted.trace c = s.quieted.answering act say) :
    s.TracesTo c (result.map say) ⟨setup, s.tracingView.recording⟩ events := by
  obtain ⟨ho, hs, he, -⟩ := yields (s.armed none) rfl rfl
  refine tracesTo_of_trace ?_ ?_ ?_ <;> rw [h]
  · exact congrArg (Except.map say) ho
  · exact congrArg (TracingView.mk · s.tracingView.recording) hs
  · exact he

/-- A tracing call that does a thing to the started spans and then finishes one of them. -/
theorem tracesTo_of_finish {spans : List (String × PerformanceSpan)} {b : Bridge}
    {span : PerformanceSpan} {elapsed : UInt64} {answer : Answer}
    (h : s.quieted.trace c =
      answering ⟨b, spans⟩ (span.finish elapsed) fun _ => answer)
    (quiet : b.alarm = none) (setup : b.setup = s.bridge.setup) (fresh : b.events = []) :
    s.TracesTo c (.ok answer)
      ⟨s.bridge.setup, spans.map fun entry => (entry.1, entry.2.isRecording)⟩
      (Course.completion (span.isDue elapsed)) := by
  obtain ⟨ho, -, -, he, -, hs⟩ := (span.follows_finish b elapsed).quietly quiet
  refine tracesTo_of_trace ?_ ?_ ?_ <;> rw [h]
  · exact congrArg (Except.map fun _ => answer) ho
  · exact congrArg (TracingView.mk · _) (hs.trans setup)
  · exact he.trans (by rw [fresh]; simp [Course.emit, Course.events])

end Traced

/-! ## Every tracing call -/

/-- A tracing call leads from one view to another one, however long a span took that it finishes. It
reports only about tracing. -/
def Leads (v : TracingView) (c : TracingCall) (outcome : Except Payload Answer)
    (v' : TracingView) : Prop :=
  ∀ (s : Session) (elapsed : UInt64), s.tracingView = v → ∃ events,
    s.TracesTo (c.taking elapsed) outcome v' events ∧ ∀ e ∈ events, e.isTracingReport = true

theorem isTracingReport_of_once {s s' : Setup} {config : Config} {outcome : Except Payload Bool}
    {events : List Event} (once : s.Once config outcome s' events) :
    ∀ e ∈ events, e.isTracingReport = true := by
  intro e he
  obtain ⟨refusal, rfl⟩ := once.eq_of_mem e he
  rfl

theorem leads_of_silent {v v' : TracingView} {c : TracingCall} {outcome : Except Payload Answer}
    (silent : ∀ (s : Session) (elapsed : UInt64), s.tracingView = v →
      s.TracesTo (c.taking elapsed) outcome v' []) : Leads v c outcome v' :=
  fun s elapsed hv => ⟨[], silent s elapsed hv, List.forall_mem_nil _⟩

section Leading

variable (v : TracingView)

theorem leads_onLoad {result : Except Payload Bool} {setup : Setup} {events : List Event}
    (yields : v.setup.Yields (Bridge.initOnce (.ofVariables v.setup.environment)) result setup
      events) (reports : ∀ e ∈ events, e.isTracingReport = true) :
    Leads v .onLoad (result.map fun _ => .number Bridge.jniVersion.toInt)
      ⟨setup, v.recording⟩ := by
  rintro s elapsed rfl
  cases result with
  | ok installed =>
    have traces : s.TracesTo .onLoad _ _ _ :=
      tracesTo_of_yields (Setup.yields_onLoad yields) rfl
    refine ⟨_, traces, fun e he => ?_⟩
    rcases List.mem_append.1 he with he | he
    · exact reports e he
    · simp only [List.mem_cons, List.not_mem_nil, or_false] at he
      obtain rfl | rfl := he <;> rfl
  | error p =>
    have traces : s.TracesTo .onLoad _ _ _ :=
      tracesTo_of_yields (Setup.yields_onLoad_of_error yields) rfl
    exact ⟨events, traces, reports⟩

theorem leads_spanStart (key name : String) (own : Option UInt64) (replaced : UInt64) :
    let enabled := v.setup.performance.enabled
    Leads v (.spanStart key name own replaced) (.ok (.flag enabled))
      ⟨v.setup, (key, enabled) :: v.recording.filter fun entry => entry.1 ≠ key⟩ := by
  rintro enabled s elapsed rfl
  obtain ⟨span, ⟨ho, -, -, he, ha, hs⟩, recording, -⟩ :=
    PerformanceSpan.exists_start s.quieted.bridge name own
  have htrace : s.quieted.trace (.spanStart key name own elapsed) =
      answering ⟨(s.quieted.bridge.carryOut (PerformanceSpan.start name own)).2,
        (key, span) :: s.without key⟩ ((s.span key).finish elapsed)
        fun _ => .flag span.isRecording := by
    simp only [trace, onBridge_eq, ho]
    rfl
  have traces := tracesTo_of_finish htrace ha hs he
  rw [List.map_cons, map_without, recording] at traces
  exact ⟨_, traces, fun e he => Course.eq_of_mem_completion he ▸ rfl⟩

theorem leads_spanFinish (key : String) (elapsed : UInt64) :
    Leads v (.spanFinish key elapsed) (.ok .done)
      ⟨v.setup, v.recording.filter fun entry => entry.1 ≠ key⟩ := by
  rintro s elapsed rfl
  have htrace : s.quieted.trace (.spanFinish key elapsed) =
    answering ⟨s.quieted.bridge, s.without key⟩ ((s.span key).finish elapsed)
      fun _ => .done := rfl
  have traces := tracesTo_of_finish htrace rfl rfl rfl
  rw [map_without] at traces
  exact ⟨_, traces, fun e he => Course.eq_of_mem_completion he ▸ rfl⟩

/-- **A tracing call is a matter of what tracing calls look at.** It takes back nothing that was
installed. -/
theorem exists_leads (c : TracingCall) : ∃ outcome v', Leads v c outcome v' ∧
    v.setup.Grows v'.setup ∧
    (c.onceConfig? v.setup.environment = none → v'.setup.onceResult = v.setup.onceResult) := by
  -- calls that answer from the view and do nothing else
  have reads {c : TracingCall} (answer : Answer) (silent : ∀ (s : Session) (elapsed : UInt64),
      s.tracingView = v → s.TracesTo (c.taking elapsed) (.ok answer) v []) :
      ∃ outcome v', Leads v c outcome v' ∧ v.setup.Grows v'.setup ∧
        (c.onceConfig? v.setup.environment = none →
          v'.setup.onceResult = v.setup.onceResult) :=
    ⟨.ok answer, v, leads_of_silent silent, .refl _, fun _ => rfl⟩
  cases c with
  | initGlobal config =>
    obtain ⟨result, setup, grows, untried, yields⟩ := v.setup.exists_initGlobal config
    refine ⟨result.map setupAnswer, ⟨setup, v.recording⟩, leads_of_silent ?_, grows,
      fun _ => untried⟩
    rintro s elapsed rfl
    exact tracesTo_of_yields yields rfl
  | initOnce config =>
    obtain ⟨result, setup, events, once, yields⟩ := v.setup.exists_once config
    refine ⟨result.map .flag, ⟨setup, v.recording⟩, ?_, once.grows, nofun⟩
    rintro s elapsed rfl
    exact ⟨events, tracesTo_of_yields yields rfl, isTracingReport_of_once once⟩
  | onLoad =>
    obtain ⟨result, setup, events, once, yields⟩ :=
      v.setup.exists_once (.ofVariables v.setup.environment)
    exact ⟨_, _, leads_onLoad v yields (isTracingReport_of_once once), once.grows, nofun⟩
  | setPerformance enabled threshold =>
    refine ⟨.ok .done, ⟨{ v.setup with performance := .position enabled threshold }, v.recording⟩,
      leads_of_silent ?_, ⟨fun _ => id, fun _ => id, rfl⟩, fun _ => rfl⟩
    rintro s elapsed rfl
    exact tracesTo_of_trace rfl rfl rfl
  | performanceEnabled =>
    refine reads (.flag v.setup.performance.enabled) ?_
    rintro s elapsed rfl
    exact tracesTo_of_trace rfl rfl rfl
  | spanStart key name own replaced =>
    exact ⟨_, _, leads_spanStart v key name own replaced, .refl _, fun _ => rfl⟩
  | spanRecording key =>
    refine reads (.flag ((v.recording.lookup key).getD false)) ?_
    rintro s elapsed rfl
    rw [← isRecording_span]
    exact tracesTo_of_trace rfl rfl rfl
  | spanElapsed key =>
    refine reads (.elapsed ((v.recording.lookup key).getD false)) ?_
    rintro s elapsed rfl
    rw [← isRecording_span]
    exact tracesTo_of_trace rfl rfl rfl
  | spanFinish key elapsed =>
    exact ⟨_, _, leads_spanFinish v key elapsed, .refl _, fun _ => rfl⟩
  | timedBlock target operation value =>
    refine ⟨.ok (.number value), v, ?_, .refl _, fun _ => rfl⟩
    rintro s elapsed rfl
    have yields := (Setup.Yields.pure s.bridge.setup value).timed target operation
    have traces : s.TracesTo (.timedBlock target operation value) _ _ _ :=
      tracesTo_of_yields yields rfl
    exact ⟨_, traces, List.forall_mem_singleton.2 rfl⟩

end Leading

/-- **What a tracing call does to a session**: it takes back nothing that was installed, and reports
only about tracing. -/
theorem exists_tracesTo (s : Session) (c : TracingCall) : ∃ outcome v events,
    s.TracesTo c outcome v events ∧ s.bridge.setup.Grows v.setup ∧
    (c.onceConfig? s.bridge.environment = none → v.setup.onceResult = s.bridge.onceResult) ∧
    ∀ e ∈ events, e.isTracingReport = true := by
  obtain ⟨outcome, v, leads, grows, untried⟩ := exists_leads s.tracingView c
  obtain ⟨elapsed, taken⟩ := c.exists_taking
  obtain ⟨events, traces, reports⟩ := leads s elapsed rfl
  rw [taken] at traces
  exact ⟨outcome, v, events, traces, grows, untried, reports⟩

end Session

end PointBridge
