import PointBridge.Performance
import PointBridge.Proofs.Course

/-!
# The course of an action in a performance span

A performance span adds one event to an action, and only if it records and its threshold is
reached: its completion, which is reported when the action is over, also where the action panics
(`follows_around`). All else that a span does concerns what subscribers show.
-/

namespace PointBridge

open Trace (Event Notice SpanEvents)

/-! ## Courses in a span -/

/-- Whether a span without a threshold of its own reports its completion after a number of
microseconds. -/
def PerformanceSwitch.reports (s : PerformanceSwitch) (elapsed : UInt64) : Bool :=
  s.enabled && s.threshold.all (· ≤ elapsed)

namespace Course

variable {α : Type}

/-- The events of the completion of a span. -/
def completion (due : Bool) : List Event := if due then [.spanCompleted] else []

theorem eq_of_mem_completion {due : Bool} {e : Event} (h : e ∈ completion due) :
    e = .spanCompleted := by
  cases due with
  | false => cases h
  | true => exact List.mem_singleton.1 h

/-- The course within a span, which reports its completion if that is due. -/
def spanned (due : Bool) (c : Course α) : Course α :=
  { c with
    cuts :=
      (c.cuts.map fun cut => { cut with unwinding := cut.unwinding ++ completion due }) ++
        cutsAt (completion due) c.registry c.jvm }

theorem spanned_false (c : Course α) : c.spanned false = c := by
  simp [spanned, completion, cutsAt]

/-- The ending of an action after which a span reports its completion if that is due. -/
def completing (due : Bool) (e : Ending α) : Ending α :=
  let last := (emit (completion due) e.registry e.jvm).run e.alarm
  { last with outcome := last.outcome.bind fun _ => e.outcome, events := e.events ++ last.events }

/-- Without an alarm, the completion is reported if it is due, and nothing else happens. -/
theorem completing_of_silent (due : Bool) {e : Ending α} (silent : e.alarm = none) :
    completing due e = { e with events := e.events ++ completion due } := by
  unfold completing
  rw [silent, run_none]
  simp [emit, events, Except.bind]

/-- The completion is reported after the action, also where the observer panics at it. -/
theorem events_completing (due : Bool) (e : Ending α) :
    (completing due e).events = e.events ++ completion due := by
  refine congrArg (e.events ++ ·) ?_
  cases due with
  | false => rfl
  | true =>
    cases hp : panicAt e.alarm .spanCompleted <;>
      simp [completion, emit, cutsAt, run, last, Cut.meet, hp]

/-- The completion concerns neither the registry nor the machine. -/
theorem left_completing (due : Bool) (e : Ending α) :
    (completing due e).registry = e.registry ∧ (completing due e).jvm = e.jvm :=
  left_run_emit ..

theorem run_spanned (due : Bool) (c : Course α) (alarm : Option Alarm) :
    (c.spanned due).run alarm = completing due (c.run alarm) := by
  have hlast : (cutsAt (completion due) c.registry c.jvm).foldr (Cut.meet alarm) (c.last alarm) =
      completing due (c.last alarm) := by
    cases due with
    | false => rfl
    | true =>
      cases hp : panicAt alarm .spanCompleted <;>
        simp [completion, completing, cutsAt, Cut.meet, run, emit, last, hp, Except.bind]
  unfold run spanned
  rw [List.foldr_append, List.foldr_map]
  change c.cuts.foldr _ ((cutsAt (completion due) c.registry c.jvm).foldr _ (c.last alarm)) = _
  rw [hlast]
  refine List.foldr_hom (completing due) fun cut rest => ?_
  unfold Cut.meet
  cases panicAt alarm cut.event with
  | none => rfl
  | some p => simp [completing_of_silent]

end Course

namespace Bridge

variable {α β : Type} {b : Bridge}

/-! ## What only subscribers notice -/

/-- An action gives a value and changes nothing but what subscribers show. -/
def Unnoticed (b : Bridge) (act : Action α) (value : α) : Prop :=
  b.EndsIn act ⟨.ok value, b.registry, b.jvm, [], b.alarm⟩

theorem unnoticed_pure (b : Bridge) (value : α) : b.Unnoticed (pure value) value :=
  b.follows_pure value

theorem Unnoticed.bind {act : Action α} {f : α → Action β} {e : Ending β} {value : α}
    (first : b.Unnoticed act value)
    (next : ∀ b' : Bridge, b'.registry = b.registry → b'.jvm = b.jvm → b'.alarm = b.alarm →
      b'.setup = b.setup → b'.EndsIn (f value) e) : b.EndsIn (act >>= f) e :=
  EndsIn.bind_ok first rfl next

theorem EndsIn.bind_unnoticed {act : Action α} {f : α → Action α} {e : Ending α}
    (first : b.EndsIn act e) (next : ∀ (b' : Bridge) (value : α), b'.Unnoticed (f value) value) :
    b.EndsIn (act >>= f) e := by
  obtain ⟨outcome, registry, jvm, events, alarm⟩ := e
  cases outcome with
  | ok value =>
    have whole := first.bind_ok (l := ⟨.ok value, registry, jvm, [], alarm⟩) rfl
      fun b' hr hj ha _ => by
        have h := next b' value
        unfold Unnoticed at h
        rwa [hr, hj, ha] at h
    rw [List.append_nil] at whole
    exact whole
  | error p => exact first.bind_error rfl

theorem unnoticed_showMoment (b : Bridge) (s : ActiveSpan) (wanted : SpanEvents → Bool)
    (notice : String → Notice) : b.Unnoticed (s.showMoment wanted notice) () := by
  unfold ActiveSpan.showMoment
  split
  next =>
    unfold showMoment
    constructor <;> rw [carryOut_modify] <;> cases hs : b.subscriber <;> simp [events, setup, hs]
  next => exact b.unnoticed_pure ()

theorem endsIn_resume (b : Bridge) (outcome : Except Payload α) :
    b.EndsIn (resume outcome) ⟨outcome, b.registry, b.jvm, [], b.alarm⟩ := by
  constructor <;> rw [carryOut_resume]
  exact (List.append_nil _).symm

/-- What an action ended with stands until another one is over, unless that one panics. -/
theorem EndsIn.resuming {act : Action (Except Payload α)} {e : Ending α} {f : Action Unit}
    {last : Ending Unit} (first : b.EndsIn act { e with outcome := .ok e.outcome })
    (next : ∀ b' : Bridge, b'.registry = e.registry → b'.jvm = e.jvm → b'.alarm = e.alarm →
      b'.EndsIn f last) :
    b.EndsIn (act >>= fun outcome => f >>= fun _ => resume outcome)
      { last with
        outcome := last.outcome.bind fun _ => e.outcome
        events := e.events ++ last.events } := by
  refine first.bind_ok (l := { last with outcome := last.outcome.bind fun _ => e.outcome }) rfl
    fun b' hr hj ha _ => ?_
  have ends := next b' hr hj ha
  obtain ⟨outcome, registry, jvm, events, alarm⟩ := last
  cases outcome with
  | ok =>
    have whole := ends.bind_ok (f := fun _ => resume e.outcome)
      (l := ⟨e.outcome, registry, jvm, [], alarm⟩) rfl fun b'' hr' hj' ha' _ => by
        have h := b''.endsIn_resume e.outcome
        rwa [hr', hj', ha'] at h
    rwa [List.append_nil] at whole
  | error p => exact ends.bind_error rfl

/-! ## Spans -/

theorem endsIn_complete (b : Bridge) (s : ActiveSpan) :
    b.EndsIn s.complete
      (let last := (Course.emit [.spanCompleted] b.registry b.jvm).run b.alarm
      { last with outcome := .ok last.outcome }) := by
  unfold ActiveSpan.complete
  have entering : b.Unnoticed
    (modify fun b => { b with entered := b.entered ++ [⟨s.name, s.observed⟩] }) () :=
    ⟨rfl, rfl, rfl, (List.append_nil _).symm, rfl, rfl⟩
  refine entering.bind fun b₁ hr₁ hj₁ ha₁ _ => ?_
  refine (b₁.unnoticed_showMoment s _ _).bind fun b₂ hr₂ hj₂ ha₂ _ => ?_
  rw [← hr₁, ← hj₁, ← ha₁, ← hr₂, ← hj₂, ← ha₂]
  refine (b₂.follows_emit .spanCompleted).attempt.bind_unnoticed fun b₃ outcome => ?_
  have leaving : b₃.Unnoticed (modify fun b => { b with entered := b.entered.dropLast }) () :=
    ⟨rfl, rfl, rfl, (List.append_nil _).symm, rfl, rfl⟩
  refine leaving.bind fun b₄ hr₄ hj₄ ha₄ _ => ?_
  refine (b₄.unnoticed_showMoment s _ _).bind fun b₅ hr₅ hj₅ ha₅ _ => ?_
  rw [← hr₄, ← hj₄, ← ha₄, ← hr₅, ← hj₅, ← ha₅]
  exact b₅.unnoticed_pure outcome

end Bridge

namespace PerformanceSpan

open Bridge (Action)

variable {α : Type} {b : Bridge}

/-- Whether a span reports its completion after a number of microseconds. -/
def isDue (s : PerformanceSpan) (elapsed : UInt64) : Bool := s.active.any (·.isDue elapsed)

/-- A span starts unnoticed. It records if the switch is on, and its completion is due by its own
threshold or, without one, by that of the switch. -/
theorem exists_start (b : Bridge) (name : String) (own : Option UInt64) : ∃ span,
    b.Unnoticed (start name own) span ∧ span.isRecording = b.performance.enabled ∧
    ∀ elapsed, span.isDue elapsed =
      (b.performance.enabled && (own.or b.performance.threshold).all (· ≤ elapsed)) := by
  cases enabled : b.performance.enabled with
  | true =>
    let span : ActiveSpan :=
      ⟨name, own.or b.performance.threshold, b.subscriber.bind (b.outlook.ceilingInside? · name)⟩
    refine ⟨⟨some span⟩, Bridge.EndsIn.get ?_, rfl, fun elapsed => ?_⟩
    · rw [if_pos enabled]
      have looking : b.Unnoticed
          (set { b with outlook := b.subscriber.elim b.outlook b.outlook.afterSpan }) () :=
        ⟨rfl, rfl, rfl, (List.append_nil _).symm, rfl, rfl⟩
      refine looking.bind fun b₁ hr₁ hj₁ ha₁ _ => ?_
      refine (b₁.unnoticed_showMoment span _ _).bind fun b₂ hr₂ hj₂ ha₂ _ => ?_
      rw [← hr₁, ← hj₁, ← ha₁, ← hr₂, ← hj₂, ← ha₂]
      exact b₂.unnoticed_pure _
    · simp [isDue, ActiveSpan.isDue, span]
  | false =>
    refine ⟨⟨none⟩, Bridge.EndsIn.get ?_, rfl, fun elapsed => ?_⟩
    · rw [if_neg (by rw [enabled]; exact Bool.false_ne_true)]
      exact b.unnoticed_pure _
    · simp [isDue]

/-- Finishing a span reports its completion if that is due. -/
theorem follows_finish (b : Bridge) (s : PerformanceSpan) (elapsed : UInt64) :
    b.Follows (s.finish elapsed)
      (.emit (Course.completion (s.isDue elapsed)) b.registry b.jvm) := by
  obtain ⟨_ | span⟩ := s
  · exact b.follows_pure ()
  · have closing : ∀ {act : Action (Except Payload Unit)} {e : Ending Unit},
        b.EndsIn act { e with outcome := .ok e.outcome } →
        b.EndsIn (act >>= fun outcome =>
          span.showMoment (·.close) .close >>= fun _ => Bridge.resume outcome) e := by
      intro act e first
      have whole := first.resuming fun b' hr hj ha => by
        have h := b'.unnoticed_showMoment span (·.close) .close
        unfold Bridge.Unnoticed at h
        rwa [hr, hj, ha] at h
      rw [List.append_nil] at whole
      exact whole
    have hdue : isDue ⟨some span⟩ elapsed = span.isDue elapsed := rfl
    unfold finish Bridge.Follows
    rw [hdue]
    simp only
    cases span.isDue elapsed with
    | true => exact closing (b.endsIn_complete span)
    | false =>
      exact closing (e := ⟨.ok (), b.registry, b.jvm, [], b.alarm⟩)
        (b.unnoticed_pure (Except.ok ()))

/-- A span that finishes reports its completion once if that is due, and nothing else, also where
the observer panics at it. -/
theorem events_finish (b : Bridge) (s : PerformanceSpan) (elapsed : UInt64) :
    (b.carryOut (s.finish elapsed)).2.events =
      b.events ++ Course.completion (s.isDue elapsed) := by
  let e : Ending Unit := ⟨.ok (), b.registry, b.jvm, [], b.alarm⟩
  refine (follows_finish b s elapsed).events.trans (congrArg (b.events ++ ·) ?_)
  exact Course.events_completing (s.isDue elapsed) e

/-- **A span adds its completion to the course of an action**, if that is due. -/
theorem follows_around {act : Action α} {c : Course α} (name : String) (elapsed : UInt64)
    (h : ∀ b' : Bridge, b'.registry = b.registry → b'.jvm = b.jvm → b'.Follows act c) :
    b.Follows (around name elapsed act) (c.spanned (b.performance.reports elapsed)) := by
  obtain ⟨span, starting, -, due⟩ := exists_start b name none
  have reports : span.isDue elapsed = b.performance.reports elapsed := due elapsed
  unfold Bridge.Follows
  rw [Course.run_spanned, ← reports]
  refine starting.bind fun b' hr hj ha _ => ?_
  rw [← ha]
  refine (h b' hr hj).attempt.resuming fun b'' hr' hj' ha' => ?_
  rw [← hr', ← hj', ← ha']
  exact follows_finish b'' span elapsed

end PerformanceSpan

end PointBridge
