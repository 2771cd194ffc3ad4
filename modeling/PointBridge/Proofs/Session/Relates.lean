import Mathlib.Order.Defs.Unbundled
import PointBridge.Proofs.Session.Steps

/-!
# What steps do to the standing state

The registry and the setup of a bridge stand beyond a step; all else concerns a single step or what
subscribers show. A relation between standing states that is reflexive and transitive goes through
whatever actions are composed of, wherever they are cut short (`Bridge.Relates`), as reports leave
the standing state alone. It has to be looked at only where an action sets something. So a relation
holds between the states before and after each request if it holds where the request calls the
registry, offers a subscriber or turns the switch of performance spans (`Session.relates_perform`).
-/

namespace PointBridge

/-- The part of a bridge that stands beyond a step. -/
abbrev Standing := Registry × Setup

namespace Bridge

/-- The registry and the setup of the bridge. -/
def standing (b : Bridge) : Standing := (b.registry, b.setup)

/-- The bridges before and after an action are related. -/
def Relates {α : Type} (R : Standing → Standing → Prop) (b : Bridge) (act : Action α) : Prop :=
  R b.standing (b.carryOut act).2.standing

namespace Relates

variable {α β : Type} {R : Standing → Standing → Prop} {b : Bridge}

protected theorem get {f : Bridge → Action α} (h : Relates R b (f b)) :
    Relates R b (get >>= f) := by
  unfold Relates
  rw [carryOut_bind, carryOut_get, andThen_ok]
  exact h

protected theorem modify {f : Bridge → Bridge} (here : R b.standing (f b).standing) :
    Relates R b (modify f) := by
  unfold Relates
  rw [carryOut_modify]
  exact here

protected theorem attempt {act : Action α} (h : Relates R b act) : Relates R b (attempt act) := by
  unfold Relates
  rw [carryOut_attempt]
  exact h

/-- An action that ends in a given way leaves the registry of that ending. -/
theorem of_endsIn {act : Action α} {e : Ending α} (ends : b.EndsIn act e)
    (h : R b.standing (e.registry, b.setup)) : Relates R b act := by
  have hstanding : (b.carryOut act).2.standing = (e.registry, b.setup) :=
    Prod.ext ends.registry ends.setup
  unfold Relates
  rw [hstanding]
  exact h

variable [IsPreorder Standing R]

protected theorem pure (value : α) : Relates R b (pure value) := refl_of R b.standing

protected theorem throw (p : Payload) : Relates R b (throw p : Action α) := refl_of R b.standing

protected theorem bind {act : Action α} {f : α → Action β} (first : Relates R b act)
    (next : ∀ b' value, Relates R b' (f value)) : Relates R b (act >>= f) := by
  unfold Relates at first ⊢
  rw [carryOut_bind]
  rcases hrun : b.carryOut act with ⟨p | value, b'⟩ <;> rw [hrun] at first
  · exact first
  · exact trans_of R first (next b' value)

protected theorem set_bind {b' : Bridge} {f : PUnit → Action α}
    (here : R b.standing b'.standing) (next : Relates R b' (f ())) :
    Relates R b (set b' >>= f) := by
  unfold Relates
  rw [carryOut_bind, carryOut_set, andThen_ok]
  exact trans_of R here next

protected theorem resume (outcome : Except Payload α) : Relates R b (resume outcome) := by
  unfold Relates
  rw [carryOut_resume]
  exact refl_of R b.standing

protected theorem emit (e : Trace.Event) : Relates R b (emit e) := by
  refine of_endsIn (b.follows_emit e) ?_
  rw [(Course.left_run_emit ..).1]
  exact refl_of R b.standing

protected theorem mapM {act : α → Action β} {xs : List α}
    (h : ∀ b' x, Relates R b' (act x)) : Relates R b (xs.mapM act) := by
  induction xs generalizing b with
  | nil => exact .pure _
  | cons x rest ih =>
    rw [List.mapM_cons]
    exact (h b x).bind fun b' _ => ih.bind fun _ _ => .pure _

protected theorem elsewhere {act : Action α} (h : ∀ b', Relates R b' act) :
    Relates R b (elsewhere act) := by
  unfold elsewhere
  refine .get (.set_bind (refl_of R b.standing) ?_)
  refine (h _).attempt.bind fun b' outcome => ?_
  exact (Relates.modify (refl_of R b'.standing)).bind fun _ _ => .resume outcome

protected theorem timed {act : Action α} (target operation : String) (h : Relates R b act) :
    Relates R b (timed target operation act) :=
  h.bind fun _ _ => (Relates.emit _).bind fun _ _ => .pure _

/-! ## Installing -/

section Installing

variable {config : Trace.Config}
  (here : ∀ (b : Bridge) (directives : Option String),
    Relates R b (initGlobal { config with directives }))

include here

/-- To install a subscriber leniently is to offer it up to two times, with the directives and
without them. -/
theorem initLeniently (b : Bridge) : Relates R b (initLeniently config) := by
  unfold Bridge.initLeniently
  refine (here b config.directives).bind fun b₁ result => ?_
  split
  · exact .pure _
  · refine (here b₁ none).bind fun b₂ result => ?_
    split
    · exact (Relates.emit _).bind fun _ _ => .pure _
    · exact .pure _
  · exact .pure _

variable (once : ∀ (b : Bridge) (installed : Bool),
  R b.standing { b with onceResult := some installed }.standing)

include once

theorem initOnce (b : Bridge) : Relates R b (initOnce config) := by
  unfold Bridge.initOnce
  refine .get ?_
  split
  · exact .pure _
  · exact (initLeniently here b).bind fun b' installed =>
      (Relates.modify (once b' installed)).bind fun _ _ => .pure _

end Installing

theorem onLoad
    (here : ∀ (b' : Bridge) (directives : Option String),
      Relates R b' (initGlobal { Trace.Config.ofVariables b.environment with directives }))
    (once : ∀ (b' : Bridge) (installed : Bool),
      R b'.standing { b' with onceResult := some installed }.standing) : Relates R b onLoad := by
  unfold Bridge.onLoad
  refine .get ?_
  exact (Relates.timed _ _ (initOnce here once b)).bind fun _ _ =>
    (Relates.emit _).bind fun _ _ => .pure _

end Relates

end Bridge

namespace Registry

open Bridge (Relates)

variable {R : Standing → Standing → Prop} {b : Bridge}

theorem relates_allocate (h : b.Relates R (call .allocate)) : b.Relates R allocate := by
  unfold Relates at h ⊢
  rw [call, Bridge.carryOut_bind] at h
  rcases hrun : b.carryOut allocate with ⟨p | k, b'⟩ <;> rw [hrun] at h <;> exact h

theorem relates_allocateConcurrently [IsPreorder Standing R]
    (h : ∀ b : Bridge, b.Relates R (call .allocate)) (threads perThread : Nat) :
    b.Relates R (allocateConcurrently threads perThread) := by
  unfold allocateConcurrently allocateElsewhere
  refine Relates.bind (.mapM fun b₁ _ => .elsewhere fun b₂ => ?_) fun _ _ => .pure _
  exact .mapM fun b₃ _ => relates_allocate (h b₃)

end Registry

/-! ## Requests -/

/-- The configuration with which a tracing call asks to install a subscriber, if it does so. -/
def TracingCall.config? (environment : Trace.Variables) : TracingCall → Option Trace.Config
  | .initGlobal config => some config
  | .initOnce config => some config
  | .onLoad => some (.ofVariables environment)
  | _ => none

namespace Session

/-- A relation between standing states holds wherever a tracing call sets something. -/
structure RespectsTracing (R : Standing → Standing → Prop) (s : Session) (c : TracingCall) :
    Prop where
  offer (config : Trace.Config) (offered : c.config? s.bridge.environment = some config)
    (b : Bridge) (directives : Option String) :
    b.Relates R (Bridge.initGlobal { config with directives })
  once (b : Bridge) (installed : Bool) :
    R b.standing { b with onceResult := some installed }.standing
  switch (enabled : Bool) (threshold : Option UInt64)
    (turned : c = .setPerformance enabled threshold) :
    R s.bridge.standing
      { s.bridge with performance := .position enabled threshold }.standing

/-- A relation between standing states holds wherever a request sets something. -/
structure Respects (R : Standing → Standing → Prop) (s : Session) (request : Request) : Prop where
  call (b : Bridge) (c : Registry.Call) : b.Relates R (Registry.call c)
  native (b : Bridge) (n : Native.Call) (jvm : Jvm) (elapsed : UInt64) :
    b.Relates R (Native.call n jvm elapsed)
  tracing (c : TracingCall) (made : request = .tracing c) : s.RespectsTracing R c

theorem onBridge_eq {α : Type} (s : Session) (act : Bridge.Action α) : s.onBridge act =
    ((s.bridge.carryOut act).1, { s with bridge := (s.bridge.carryOut act).2 }) := rfl

variable {R : Standing → Standing → Prop} [IsPreorder Standing R] {s : Session}

theorem relates_start (b : Bridge) (name : String) (own : Option UInt64) :
    b.Relates R (PerformanceSpan.start name own) := by
  obtain ⟨span, starting, -⟩ := PerformanceSpan.exists_start b name own
  exact .of_endsIn starting (refl_of R b.standing)

theorem relates_finish (b : Bridge) (span : PerformanceSpan) (elapsed : UInt64) :
    b.Relates R (span.finish elapsed) := by
  refine .of_endsIn (span.follows_finish b elapsed) ?_
  rw [(Course.left_run_emit ..).1]
  exact refl_of R b.standing

theorem relates_trace {c : TracingCall} (respects : s.RespectsTracing R c) :
    R s.bridge.standing (s.trace c).2.bridge.standing := by
  cases c with
  | initGlobal config => exact respects.offer config rfl s.bridge config.directives
  | initOnce config =>
    exact Bridge.Relates.initOnce (respects.offer config rfl) respects.once s.bridge
  | onLoad => exact Bridge.Relates.onLoad (respects.offer _ rfl) respects.once
  | setPerformance enabled threshold => exact respects.switch enabled threshold rfl
  | performanceEnabled => exact refl_of R s.bridge.standing
  | spanStart key name own replaced =>
    have starting := relates_start (R := R) s.bridge name own
    unfold Bridge.Relates at starting
    simp only [trace, onBridge_eq]
    rcases hrun : s.bridge.carryOut (PerformanceSpan.start name own) with ⟨p | span, b⟩ <;>
      rw [hrun] at starting
    · exact starting
    · exact trans_of R starting (relates_finish b (s.span key) replaced)
  | spanRecording key => exact refl_of R s.bridge.standing
  | spanElapsed key => exact refl_of R s.bridge.standing
  | spanFinish key elapsed => exact relates_finish s.bridge (s.span key) elapsed
  | timedBlock target operation value =>
    have timed : s.bridge.Relates R (Bridge.timed target operation (pure value)) :=
      .timed target operation (.pure value)
    exact timed

/-- **What holds wherever a request sets something holds between the states before and after the
request.** -/
theorem relates_perform {request : Request} (respects : s.Respects R request) :
    R s.bridge.standing (s.perform request).2.bridge.standing := by
  cases request with
  | registry c => exact respects.call s.bridge c
  | allocateConcurrently threads perThread =>
    exact Registry.relates_allocateConcurrently (respects.call · .allocate) threads perThread
  | version => exact refl_of R s.bridge.standing
  | foreignDistance p q => exact refl_of R s.bridge.standing
  | foreignPointers p q =>
    have asked : s.bridge.Relates R (Foreign.distanceOfPointers p q) := by
      unfold Foreign.distanceOfPointers
      split
      · exact .pure _
      · exact (Bridge.Relates.emit _).bind fun _ _ => .pure _
    exact asked
  | native n jvm elapsed => exact respects.native s.bridge n jvm elapsed
  | tracing c => exact relates_trace (respects.tracing c rfl)

end Session

end PointBridge
