import PointBridge.Proofs.Session.Natives

/-!
# Exceptions for failed native calls

A native call whose work fails throws an exception for that. On every machine it does so without
harm (`Session.failures_throw_cleanly`): nothing is thrown while an exception is pending, an
exception that is known to be pending stays, and the intended one is pending afterwards exactly if
throwing works. Where it does not, one report tells the first fault.
-/

namespace PointBridge

open Trace (Event)

namespace Native

/-! ## Failures -/

/-- The work of a call failed with an error or a panic. An exception is intended for that, and an
event reports it. -/
inductive Failed (entry : Entry) :
    Except Payload (Except BridgeError Value) → JavaException → Event → Prop
  | error (err : BridgeError) :
    Failed entry (.ok (.error err)) ⟨err.exceptionClass, entry.label ++ ": " ++ err.message⟩
      (.callFailed entry err)
  | panic (p : Payload) :
    Failed entry (.error p) ⟨ExceptionClass.runtime, entry.label ++ ": " ++ p.description⟩
      (.callPanicked entry p.description)

section Failing

variable {entry : Entry} {e : Ending (Except BridgeError Value)} {intended : JavaException}
  {report : Event}

theorem settled_of_failed (failed : Failed entry e.outcome intended report)
    (silent : e.alarm = none) : settled entry e =
      let thrown := e.jvm.perform (Jvm.raise intended)
      ⟨.ok (zero entry), e.registry, thrown.2,
        e.events ++ report :: throwReport intended.className thrown.1, none⟩ := by
  generalize houtcome : e.outcome = outcome at failed
  cases failed with
  | error err =>
    rw [settled_of_error houtcome silent, excused, run_excuse]
  | panic p =>
    rw [settled_of_panic houtcome silent, excused, run_excuse]

/-- An exception whose message names an entry point is not the one that looking up its class
raises. -/
theorem ne_notFound (entry : Entry) (className text : String) :
    (⟨className, entry.label ++ ": " ++ text⟩ : JavaException) ≠ Jvm.notFound className := by
  intro same
  obtain ⟨rfl, hmessage⟩ := JavaException.mk.inj same
  -- the first letters are different
  have hletters := congrArg (fun text : String => text.toList.head?) hmessage
  cases entry <;> simp [Entry.label, ExceptionClass.noClassDefFound] at hletters

theorem Failed.ne_notFound {outcome : Except Payload (Except BridgeError Value)}
    (failed : Failed entry outcome intended report) :
    intended ≠ Jvm.notFound intended.className := by
  cases failed with
  | error err => exact Native.ne_notFound entry err.exceptionClass err.message
  | panic p => exact Native.ne_notFound entry ExceptionClass.runtime p.description

end Failing

/-! ## Clean throwing -/

/-- An exception is thrown cleanly by a call that meets a machine, whose work leaves another machine
and which as a whole leaves a third one. Certain events are reported about throwing. Nothing is
thrown while an exception is pending: one that is known to be pending stays so, and nothing else is
called or reported. If none was pending, the intended one is afterwards exactly if throwing works,
and then nothing is reported. In every other case the first fault is reported, and nothing but the
lookup of the class may have raised an exception. -/
structure ThrownCleanly (jvm worked after : Jvm) (intended : JavaException)
    (reports : List Event) : Prop where
  guarded : jvm.Guarded after
  kept : jvm.pending.isSome → jvm.Reaches .exceptionCheck →
    after = worked.noteCall .exceptionCheck ∧ after.pending = jvm.pending ∧ reports = []
  raised : jvm.pending = none → (after.pending = some intended ↔ jvm.Throws)
  quiet : jvm.pending = none → jvm.Throws → reports = []
  failed : ¬ (jvm.pending.isSome ∧ jvm.Reaches .exceptionCheck) → ¬ jvm.Throws →
    ∃ fault, jvm.faults.head? = some fault ∧
      reports = [.throwFailed intended.className fault] ∧
      after.pending = jvm.pendingAfterLookup intended.className

theorem thrownCleanly_raise {jvm worked : Jvm} (like : jvm.Like worked) {intended : JavaException}
    (own : intended ≠ Jvm.notFound intended.className) :
    let thrown := worked.perform (Jvm.raise intended)
    ThrownCleanly jvm worked thrown.2 intended (throwReport intended.className thrown.1) := by
  intro thrown
  by_cases known : jvm.pending.isSome ∧ jvm.Reaches .exceptionCheck
  · obtain ⟨pending, checks⟩ := known
    have hthrown : thrown = (.ok (), worked.noteCall .exceptionCheck) :=
      Jvm.perform_raise_of_pending intended (like.pending ▸ pending) ((like.reaches_iff _).2 checks)
    have like' : jvm.Like thrown.2 := by
      rw [hthrown]
      exact like.trans (.noteCall worked nofun)
    have hpending (idle : jvm.pending = none) : False := by simp [idle] at pending
    exact {
      guarded := .of_like like'
      kept := fun _ _ => ⟨congrArg Prod.snd hthrown, like'.pending, by rw [hthrown]; rfl⟩
      raised := fun idle => (hpending idle).elim
      quiet := fun idle => (hpending idle).elim
      failed := fun unknown => absurd ⟨pending, checks⟩ unknown }
  · have attempts : jvm.Attempts intended thrown := by
      refine .of_like like (Jvm.attempts_raise intended ?_)
      rwa [like.pending, like.reaches_iff]
    exact {
      guarded := attempts.guarded
      kept := fun pending checks => absurd ⟨pending, checks⟩ known
      raised := by
        refine fun idle => ⟨fun raised => ?_, fun throws => (attempts.of_throws throws).2⟩
        by_contra broken
        obtain ⟨-, -, -, pending⟩ := attempts.of_not_throws broken
        rw [raised, Jvm.pendingAfterLookup] at pending
        split at pending
        · exact own (Option.some.inj pending)
        · rw [idle] at pending
          cases pending
      quiet := fun _ throws => by rw [(attempts.of_throws throws).1, throwReport]
      failed := fun _ broken => by
        obtain ⟨fault, first, error, pending⟩ := attempts.of_not_throws broken
        exact ⟨fault, first, by rw [error, throwReport], pending⟩ }

/-- An exception of any class is thrown cleanly for an entry point. -/
theorem thrownCleanly_throwJava (b : Bridge) (silent : b.alarm = none) (entry : Entry)
    (className text : String) :
    let after := (b.carryOut (throwJava entry className text)).2
    ∃ reports, after.events = b.events ++ reports ∧
      ThrownCleanly b.jvm b.jvm after.jvm ⟨className, entry.label ++ ": " ++ text⟩ reports := by
  intro after
  have ends := (follows_throwJava b entry className text).quietly silent
  refine ⟨_, ends.events, ?_⟩
  rw [ends.jvm, Course.events, Course.emit, map_event_cutsAt]
  exact thrownCleanly_raise (.refl b.jvm) (ne_notFound entry className text)

end Native

/-! ## Native calls in a session -/

namespace Session

/-- What the work of a native call ends with, and the bridge after it. -/
def workOf (s : Session) (n : Native.Call) (jvm : Jvm) (elapsed : UInt64)
    (alarm : Option Alarm) : Except Payload (Except BridgeError Native.Value) × Bridge :=
  Bridge.carryOut { s.armed alarm with jvm } (Native.work elapsed n)

/-- Let the work of a native call fail, and let the observer not panic then. The call returns zero.
Its reports are those of the work, the one about the failure, and those about throwing, which it
does cleanly. -/
theorem step_native_of_failed (s : Session) (n : Native.Call) (jvm : Jvm) (elapsed : UInt64)
    (alarm : Option Alarm) {intended : JavaException} {report : Event}
    (failed : Native.Failed n.entry (s.workOf n jvm elapsed alarm).1 intended report)
    (silent : (s.workOf n jvm elapsed alarm).2.alarm = none) :
    let worked := (s.workOf n jvm elapsed alarm).2
    let result := s.step ⟨.native n jvm elapsed, alarm⟩
    let after := result.2.bridge.jvm
    result.1.outcome = .ok (.native (Native.zero n.entry) after.pending) ∧
    jvm.Like worked.jvm ∧ (∀ x ∈ worked.events, Native.isGuardReport x = false) ∧
    ∃ reports, result.1.reported = worked.events ++ report :: reports ∧
      Native.ThrownCleanly jvm worked.jvm after intended reports := by
  intro worked result after
  let e := (n.course s.bridge.performance elapsed s.bridge.registry jvm).run alarm
  -- the work leaves the machine as it was but for harmless calls
  have hwork : Bridge.EndsIn { s.armed alarm with jvm } (Native.work elapsed n) e :=
    Native.follows_work { s.armed alarm with jvm } elapsed n
  have hworked : worked.jvm = e.jvm := hwork.jvm
  have hevents : worked.events = e.events := hwork.events
  obtain ⟨like, events, own_events, own⟩ :=
    Native.work_leaves n s.bridge.performance elapsed s.bridge.registry jvm alarm
  -- what follows is what the guard makes of the failure
  have hstep := s.stepsTo_native n jvm elapsed alarm
  have hafter : after = (Native.settled n.entry e).jvm :=
    (Native.endsIn_call (s.armed alarm) n jvm elapsed).jvm
  have failure : Native.Failed n.entry e.outcome intended report := hwork.outcome ▸ failed
  have settled := Native.settled_of_failed failure (hwork.alarm.symm.trans silent)
  rw [settled] at hstep hafter
  refine ⟨?_, ?_, ?_,
    Native.throwReport intended.className (e.jvm.perform (Jvm.raise intended)).1, ?_, ?_⟩
  · rw [hafter]
    exact hstep.outcome
  · rw [hworked]
    exact like
  · intro x hx
    rw [hevents, own_events] at hx
    rcases List.mem_append.1 hx with hx | hx
    · exact (own x hx).1
    · rw [Course.eq_of_mem_completion hx]
      rfl
  · rw [hevents]
    exact hstep.events
  · rw [hafter, hworked]
    exact Native.thrownCleanly_raise like failure.ne_notFound

/-- **Failures throw cleanly.** While the observer does not panic, an exception of any class, with
any text, is thrown cleanly for any entry point, whatever the machine does. Every native call whose
work fails, with an error or a panic, ends with such an attempt: it returns zero, and its reports
are those of the work, the one about the failure, and those about throwing. -/
theorem failures_throw_cleanly :
    (∀ (b : Bridge) (entry : Entry) (className text : String), b.alarm = none →
      let after := (b.carryOut (Native.throwJava entry className text)).2
      ∃ reports, after.events = b.events ++ reports ∧
        Native.ThrownCleanly b.jvm b.jvm after.jvm ⟨className, entry.label ++ ": " ++ text⟩
          reports) ∧
    ∀ (s : Session) (n : Native.Call) (jvm : Jvm) (elapsed : UInt64) (alarm : Option Alarm)
      (intended : JavaException) (report : Event),
      Native.Failed n.entry (s.workOf n jvm elapsed alarm).1 intended report →
      (s.workOf n jvm elapsed alarm).2.alarm = none →
      let worked := (s.workOf n jvm elapsed alarm).2
      let result := s.step ⟨.native n jvm elapsed, alarm⟩
      let after := result.2.bridge.jvm
      result.1.outcome = .ok (.native (Native.zero n.entry) after.pending) ∧
      jvm.Like worked.jvm ∧ (∀ x ∈ worked.events, Native.isGuardReport x = false) ∧
      ∃ reports, result.1.reported = worked.events ++ report :: reports ∧
        Native.ThrownCleanly jvm worked.jvm after intended reports :=
  ⟨fun b entry className text silent =>
      Native.thrownCleanly_throwJava b silent entry className text,
    fun s n jvm elapsed alarm _ _ failed silent =>
      s.step_native_of_failed n jvm elapsed alarm failed silent⟩

/-- The machine cannot be asked whether an exception is pending, and one is. The class is looked up,
but nothing is thrown, and the exception that is pending stays. -/
theorem failures_throw_cleanly_past_a_hidden_exception :
    let s : Session := {}
    let hidden : JavaException := ⟨"java/lang/IllegalStateException", "earlier"⟩
    let jvm : Jvm := { pending := some hidden, missing := ["ExceptionCheck"] }
    let err : BridgeError := .point (.invalidHandle .null)
    let work := s.workOf (.getX 0) jvm 0 none
    let result := s.step ⟨.native (.getX 0) jvm 0, none⟩
    work.1 = .ok (.error err) ∧ work.2.alarm = none ∧
      result.1.outcome = .ok (.native (.int 0) (some hidden)) ∧
      result.1.reported = work.2.events ++
        [.callFailed .getX err, .throwFailed "java/lang/IllegalArgumentException"
          (.missingFunction "ExceptionCheck")] ∧
      let b : Bridge := { jvm }
      (b.carryOut (Native.throwJava .getY "java/lang/Error" "later")).2.jvm.pending =
        some hidden := by
  intro s hidden jvm err work result
  have refused : work.1 = .ok (.error err) := by decide +kernel
  have silent : work.2.alarm = none := by decide +kernel
  have failed : Native.Failed .getX work.1
      ⟨err.exceptionClass, Entry.getX.label ++ ": " ++ err.message⟩ (.callFailed .getX err) := by
    rw [refused]
    exact .error err
  obtain ⟨outcome, -, -, reports, reported, clean⟩ :=
    failures_throw_cleanly.2 s (.getX 0) jvm 0 none _ _ failed silent
  have unknown : ¬ (jvm.pending.isSome ∧ jvm.Reaches .exceptionCheck) := by decide
  obtain ⟨fault, first, rfl, pending⟩ := clean.failed unknown fun h => unknown ⟨rfl, h.checks⟩
  have hfirst : jvm.faults.head? = some (.missingFunction "ExceptionCheck") := by decide
  obtain rfl : JniError.missingFunction "ExceptionCheck" = fault :=
    Option.some.inj (hfirst.symm.trans first)
  rw [pending] at outcome
  obtain ⟨_, -, other⟩ := failures_throw_cleanly.1 { jvm } .getY "java/lang/Error" "later" rfl
  obtain ⟨-, -, -, kept⟩ := other.failed unknown fun h => unknown ⟨rfl, h.checks⟩
  exact ⟨refused, silent, outcome, reported, kept⟩

end Session

end PointBridge
