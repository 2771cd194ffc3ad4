import PointBridge.Proofs.Arena.Taken
import PointBridge.Proofs.Native.Exceptions
import PointBridge.Proofs.Session.Keeps

/-!
# Native calls in a session

Natives add nothing to what the plain functions do with the registry. Where the observer does not
panic, a native leaves the registry that the plain function leaves and returns its value, whatever
the machine does; a refusal becomes an exception, as far as the machine raises one
(`Session.natives_refine`). Where the observer panics while the work of a native runs, the panic
becomes a runtime exception and is reported once, whatever the work had come to before
(`Session.panics_become_exceptions`).
-/

namespace PointBridge

open Trace (Event)

theorem Payload.description_eq (p : Payload) : p.description =
    match p with
    | .borrowed text => text
    | .owned text => text
    | .byte _ => "native panic" := by
  cases p <;> rfl

namespace Session

/-! ## Panics -/

/-- **A panic in the work of a native call becomes a runtime exception.** Let the machine work and
have no exception pending, and let the observer panic at an event that the call reports outside of
its guard. The call returns zero, with the exception pending that names the entry point and the
text of the panic. Behind the events of the work, the guard reports the panic and nothing else; the
events of the work contain the completion of the span once, if the call runs in one, it records and
its threshold is reached. -/
theorem panics_become_exceptions (s : Session) (n : Native.Call) {jvm : Jvm} (works : jvm.Works)
    (idle : jvm.pending = none) (elapsed : UInt64) {e : Event} (p : Payload)
    (reported : e ∈ (s.step ⟨.native n jvm elapsed, none⟩).1.reported)
    (inside : Native.isGuardReport e = false) :
    let result := (s.step ⟨.native n jvm elapsed, some ⟨e.message, p⟩⟩).1
    let text := match p with
      | .borrowed text => text
      | .owned text => text
      | .byte _ => "native panic"
    result.outcome = .ok (.native (Native.zero n.entry)
      (some ⟨"java/lang/RuntimeException", n.entry.label ++ ": " ++ text⟩)) ∧
    ∃ closure, result.reported = closure ++ [.callPanicked n.entry text] ∧
      (∀ x ∈ closure, Native.isGuardReport x = false) ∧
      closure.count .spanCompleted =
        if n.isTimed && s.bridge.performance.reports elapsed then 1 else 0 := by
  let course := n.course s.bridge.performance elapsed s.bridge.registry jvm
  have hmem : e ∈ course.events := by
    obtain ⟨rest, hrest, own⟩ := Native.exists_events_settled n.entry (course.run none)
    have hquiet := (s.stepsTo_native n jvm elapsed none).events.trans hrest
    rw [hquiet, Course.run_none] at reported
    refine (List.mem_append.1 reported).resolve_right fun h => ?_
    rw [own e h] at inside
    cases inside
  -- the work ends in the panic, and from there on no alarm is set
  obtain ⟨-, -, -, outcome, -, silent⟩ := Course.run_of_mem_events hmem p
  have hstep := s.stepsTo_native n jvm elapsed (some ⟨e.message, p⟩)
  rw [Native.settled_of_panic outcome silent] at hstep
  -- it leaves the machine working
  obtain ⟨like, events, hevents, own⟩ := Native.work_leaves n s.bridge.performance elapsed
    s.bridge.registry jvm (some ⟨e.message, p⟩)
  obtain ⟨hreports, hpending⟩ := Native.excused_of_throws (like.works works).throws
    (like.pending.trans idle) n.entry (.callPanicked n.entry p.description)
    ExceptionClass.runtime p.description
  intro result text
  have htext : text = p.description := p.description_eq.symm
  rw [htext]
  refine ⟨?_, _, hstep.events.trans hreports, fun x h => ?_, ?_⟩
  · refine hstep.outcome.trans ?_
    rw [Ending.map, Native.outcome_excused, hpending]
    rfl
  · rw [hevents] at h
    rcases List.mem_append.1 h with h | h
    · exact (own x h).1
    · rw [Course.eq_of_mem_completion h]
      rfl
  · rw [hevents, List.count_append, List.count_eq_zero.2 fun h => (own _ h).2 rfl, Nat.zero_add]
    cases n.isTimed && s.bridge.performance.reports elapsed <;> rfl

/-- The observer panics at the completion of a span, when the handles have been refused already. -/
theorem panic_at_completion_becomes_exception :
    let s : Session := { bridge := { performance := ⟨true, 100⟩ } }
    let result := (s.step ⟨.native (.handleDistance 0 0) {} 250,
      some ⟨"performance_span_complete", .byte 17⟩⟩).1
    .spanCompleted ∈ (s.step ⟨.native (.handleDistance 0 0) {} 250, none⟩).1.reported ∧
      result.outcome = .ok (.native (.double .zero)
        (some ⟨"java/lang/RuntimeException", "JNIPoint.distance: native panic"⟩)) ∧
      result.reported = [.spanCompleted, .callPanicked .handleDistance "native panic"] := by
  intro s result
  have works : Jvm.Works {} := ⟨rfl, fun _ => List.not_mem_nil, rfl, rfl⟩
  have reported : .spanCompleted ∈
      (s.step ⟨.native (.handleDistance 0 0) {} 250, none⟩).1.reported := by decide +kernel
  obtain ⟨outcome, -⟩ := panics_become_exceptions s (.handleDistance 0 0) works rfl 250 (.byte 17)
    reported rfl
  exact ⟨reported, outcome, by decide +kernel⟩

end Session

/-! ## What a native is given -/

/-- A handle that an arena gives is kept by its signed word, which is not 0. -/
theorem Arena.Consistent.toSigned_of_answer {a : Arena} (ha : a.Consistent) {c : Arena.Command}
    {h : Handle} (given : (a.perform c).answer = .handle h) :
    h.toSigned ≠ 0 ∧ Handle.ofSigned h.toSigned = h := by
  have hnull : .null ∉ a.issued [c] := ha.null_notMem_issued
  rw [Arena.mem_issued_cons, not_or, given] at hnull
  have signed : Handle.ofSigned h.toSigned = h := rfl
  refine ⟨fun zero => hnull.1 ?_, signed⟩
  rw [← signed, zero]
  rfl

namespace Native

/-- The handles that a call passes, as it passes them. -/
def Call.handles : Call → List Int64
  | .allocate => []
  | .free h | .getX h | .setX h _ | .getY h | .setY h _ => [h]
  | .handleDistance h k => [h, k]
  | .bufferDistance .. => []

theorem exists_ofAnswer {answer : Arena.Answer} (accepted : ∀ err, answer ≠ .refused err) :
    ∃ value, ofAnswer answer = .ok value := by
  cases answer with
  | refused err => exact absurd rfl (accepted err)
  | _ => exact ⟨_, rfl⟩

/-- A job that is a call to the registry ends with what the answer of the arena gives. -/
theorem outcome_course {n : Call} {c : Registry.Call} (job : n.job = .registry c) (r : Registry)
    (jvm : Jvm) : (n.job.course r jvm).outcome =
      (Registry.outcomeOf (r.arena.perform c.command).answer).map ofAnswer := by
  rw [job]
  rfl

/-- A call to the registry is refused for the first handle that is not live. -/
theorem find?_handles_of_refused {n : Call} {c : Registry.Call} (job : n.job = .registry c)
    {a : Arena} {err : PointError} (refused : (a.perform c.command).answer = .refused err) :
    ∃ w, n.handles.find? (fun w => !a.contains (.ofSigned w)) = some w ∧
      err = .invalidHandle (.ofSigned w) := by
  -- a command on one handle is refused for that handle only
  have single {h : Int64} {f : Point → Arena.Outcome} (hn : n.handles = [h])
      (refused : (a.access (.ofSigned h) f).answer = .refused err)
      (hf : ∀ p, (f p).answer ≠ .refused err) :
      ∃ w, n.handles.find? (fun w => !a.contains (.ofSigned w)) = some w ∧
        err = .invalidHandle (.ofSigned w) := by
    obtain ⟨dead, rfl⟩ := Arena.dead_of_access_refused refused hf
    exact ⟨h, by simp [hn, dead], rfl⟩
  cases n with
  | allocate =>
    cases job
    cases full : a.isFull <;> simp [Registry.Call.command, Arena.perform, full] at refused
  | free h =>
    cases job
    rw [Registry.Call.command, Arena.perform_release] at refused
    exact single rfl refused fun _ h => by cases h
  | getX h =>
    cases job
    rw [Registry.Call.command, Arena.perform_getX] at refused
    exact single rfl refused fun _ h => by cases h
  | setX h x =>
    cases job
    rw [Registry.Call.command, Arena.perform_setX] at refused
    exact single rfl refused fun _ h => by cases h
  | getY h =>
    cases job
    rw [Registry.Call.command, Arena.perform_getY] at refused
    exact single rfl refused fun _ h => by cases h
  | setY h y =>
    cases job
    rw [Registry.Call.command, Arena.perform_setY] at refused
    exact single rfl refused fun _ h => by cases h
  | handleDistance h k =>
    cases job
    rw [Registry.Call.command, Arena.perform_distance] at refused
    cases hp : a.find? (.ofSigned h) with
    | none =>
      rw [Arena.access_of_none hp] at refused
      exact ⟨h, by simp [Call.handles, Arena.contains, hp], (Arena.Answer.refused.inj refused).symm⟩
    | some p =>
      rw [Arena.access_of_some hp] at refused
      have live : a.contains (.ofSigned h) = true := by simp [Arena.contains, hp]
      obtain ⟨dead, rfl⟩ := Arena.dead_of_access_refused refused fun _ h => by cases h
      exact ⟨k, by simp [Call.handles, live, dead], rfl⟩
  | bufferDistance x y => cases job

end Native

/-! ## Refinement -/

namespace Session

/-- On a quiet bridge, a native settles what its job ends with, on a machine that differs in nothing
but the calls that reached it. -/
theorem exists_quiet_work (s : Session) (n : Native.Call) (jvm : Jvm) (elapsed : UInt64) :
    ∃ e : Ending (Except BridgeError Native.Value),
      e.outcome = (n.job.course s.bridge.registry jvm).outcome ∧ jvm.Like e.jvm ∧
      e.alarm = none ∧ (s.step ⟨.native n jvm elapsed, none⟩).1.outcome =
        (Native.settled n.entry e).outcome.map fun value =>
          .native value (Native.settled n.entry e).jvm.pending := by
  have like : jvm.Like ((n.job.course s.bridge.registry jvm).run none).jvm := Native.like_job ..
  have hstep := (s.stepsTo_native n jvm elapsed none).outcome
  rw [Course.run_none] at like hstep
  exact ⟨_, rfl, like, rfl, hstep⟩

section Quiet

variable (s : Session) {n : Native.Call} {jvm : Jvm} (elapsed : UInt64)

/-- A value is returned, and the pending exception stays. -/
theorem outcome_native_of_value {value : Native.Value}
    (h : (n.job.course s.bridge.registry jvm).outcome = .ok (.ok value)) :
    (s.step ⟨.native n jvm elapsed, none⟩).1.outcome = .ok (.native value jvm.pending) := by
  obtain ⟨e, outcome, like, -, hstep⟩ := s.exists_quiet_work n jvm elapsed
  rw [hstep, Native.settled_of_value (outcome.trans h), ← like.pending]
  rfl

/-- For an error zero is returned, with an exception where throwing works. -/
theorem exists_outcome_native_of_error {err : BridgeError}
    (h : (n.job.course s.bridge.registry jvm).outcome = .ok (.error err)) : ∃ pending,
    (s.step ⟨.native n jvm elapsed, none⟩).1.outcome =
      .ok (.native (Native.zero n.entry) pending) ∧
    (jvm.Throws → jvm.pending = none →
      pending = some ⟨err.exceptionClass, n.entry.label ++ ": " ++ err.message⟩) := by
  obtain ⟨e, outcome, like, silent, hstep⟩ := s.exists_quiet_work n jvm elapsed
  rw [hstep, Native.settled_of_error (outcome.trans h) silent, Native.outcome_excused]
  refine ⟨_, rfl, fun throws idle => ?_⟩
  exact (Native.excused_of_throws (like.throws throws) (like.pending.trans idle) ..).2

/-- For a panic zero is returned. -/
theorem outcome_native_of_panic {p : Payload}
    (h : (n.job.course s.bridge.registry jvm).outcome = .error p) : ∃ pending,
    (s.step ⟨.native n jvm elapsed, none⟩).1.outcome =
      .ok (.native (Native.zero n.entry) pending) := by
  obtain ⟨e, outcome, -, silent, hstep⟩ := s.exists_quiet_work n jvm elapsed
  rw [hstep, Native.settled_of_panic (outcome.trans h) silent, Native.outcome_excused]
  exact ⟨_, rfl⟩

end Quiet

/-- A plain call on a quiet bridge ends with the answer of the arena. -/
theorem outcome_plain (s : Session) (c : Registry.Call) :
    (s.step ⟨.registry c, none⟩).1.outcome = (Registry.outcomeOf
      (s.bridge.registry.arena.perform c.command).answer).map .registry := by
  rw [(s.stepsTo_registry c none).outcome, Course.run_none]
  rfl

/-- **The natives do what the plain functions do, whatever the machine does.** A native whose job is
a call to the registry leaves the registry that the call leaves. It returns the value of the call
and leaves the pending exception alone; a handle is returned as a signed word that is not 0 and has
the bits of the handle. If the call is refused, the native returns zero, and a machine that works
and has no exception pending raises the one that names the first handle that is not live. If the
call panics, which happens where no index is left for one more point, the native returns zero. -/
theorem natives_refine (s : Session) (reachable : s.bridge.registry.arena.Reachable)
    {n : Native.Call} {c : Registry.Call} (job : n.job = .registry c) (jvm : Jvm)
    (elapsed : UInt64) :
    let native := s.step ⟨.native n jvm elapsed, none⟩
    let plain := s.step ⟨.registry c, none⟩
    native.2.bridge.registry = plain.2.bridge.registry ∧
    (∀ answer, plain.1.outcome = .ok (.registry answer) → (∀ err, answer ≠ .refused err) →
      ∃ value, Native.ofAnswer answer = .ok value ∧
        native.1.outcome = .ok (.native value jvm.pending)) ∧
    (∀ h, plain.1.outcome = .ok (.registry (.handle h)) →
      h.toSigned ≠ 0 ∧ Handle.ofSigned h.toSigned = h) ∧
    (∀ err, plain.1.outcome = .ok (.registry (.refused err)) → ∃ w pending,
      n.handles.find? (fun w => !s.bridge.registry.arena.contains (.ofSigned w)) = some w ∧
      native.1.outcome = .ok (.native (Native.zero n.entry) pending) ∧
      (jvm.Works → jvm.pending = none → pending =
        some ⟨"java/lang/IllegalArgumentException", n.entry.label ++ ": " ++
          ("invalid point handle: 0x" ++ Text.hexadecimal w.toUInt64.toNat)⟩)) ∧
    (∀ p, plain.1.outcome = .error p → ∃ pending,
      native.1.outcome = .ok (.native (Native.zero n.entry) pending)) := by
  have makes : Request.registryCall? (.native n jvm elapsed) = some c := by
    simp [Request.registryCall?, job]
  have hregistry := (s.stepsTo_conclude makes none).registry
  rw [Request.registry_conclude, Course.run_none] at hregistry
  have hplain := (s.stepsTo_registry c none).registry
  rw [Course.run_none] at hplain
  refine ⟨hregistry.trans hplain.symm, ?_⟩
  have work := Native.outcome_course job s.bridge.registry jvm
  rw [s.outcome_plain c]
  generalize hgiven : (s.bridge.registry.arena.perform c.command).answer = given at work ⊢
  rcases eq_or_ne given .exhausted with rfl | hne
  · exact ⟨fun _ h => (by cases h), fun _ h => (by cases h), fun _ h => (by cases h),
      fun _ _ => s.outcome_native_of_panic elapsed work⟩
  · rw [Registry.outcomeOf_of_ne hne] at work ⊢
    refine ⟨fun answer h accepted => ?_, fun k h => ?_, fun err h => ?_, fun _ h => by cases h⟩
    · cases h
      obtain ⟨value, hvalue⟩ := Native.exists_ofAnswer accepted
      rw [Except.map, hvalue] at work
      exact ⟨value, hvalue, s.outcome_native_of_value elapsed work⟩
    · cases h
      exact reachable.consistent.toSigned_of_answer hgiven
    · cases h
      obtain ⟨w, first, rfl⟩ := Native.find?_handles_of_refused job hgiven
      obtain ⟨pending, outcome, raised⟩ := s.exists_outcome_native_of_error elapsed work
      exact ⟨w, pending, first, outcome, fun works => raised works.throws⟩

/-- A live handle and one that was never issued, as signed words. -/
theorem natives_refine_for_a_forged_handle :
    let s := (run {} [⟨.registry .allocate, none⟩, ⟨.registry (.setX (.pack 0 1) 7), none⟩]).2
    let native := s.step ⟨.native (.handleDistance 0x100000000 (-1)) {} 0, none⟩
    let plain := s.step ⟨.registry (.distance (.pack 0 1) ⟨0xffffffffffffffff⟩), none⟩
    s.bridge.registry.arena.Reachable ∧ native.2.bridge.registry = plain.2.bridge.registry ∧
      native.1.outcome = .ok (.native (.double .zero)
        (some ⟨"java/lang/IllegalArgumentException",
          "JNIPoint.distance: invalid point handle: 0xffffffffffffffff"⟩)) := by
  intro s native plain
  have reachable : s.bridge.registry.arena.Reachable :=
    lasting_run Registry.lasting_reachable .empty _
  have refused : plain.1.outcome =
    .ok (.registry (.refused (.invalidHandle ⟨0xffffffffffffffff⟩))) := by decide +kernel
  obtain ⟨same, -, -, raises, -⟩ :=
    natives_refine s reachable (n := .handleDistance 0x100000000 (-1)) rfl {} 0
  obtain ⟨w, pending, first, outcome, raised⟩ := raises _ refused
  have hfirst : (Native.Call.handleDistance 0x100000000 (-1)).handles.find?
      (fun w => !s.bridge.registry.arena.contains (.ofSigned w)) = some (-1) := by decide +kernel
  obtain rfl := Option.some.inj (hfirst.symm.trans first)
  refine ⟨reachable, same, outcome.trans ?_⟩
  rw [raised ⟨rfl, fun _ => List.not_mem_nil, rfl, rfl⟩ rfl]
  decide +kernel

end Session

end PointBridge
