import PointBridge.Proofs.Native.Course
import PointBridge.Session

/-!
# Steps of a session

A step that makes a call to the registry ends as the course of the call does under the alarm of the
step (`stepsTo_registry`), and a native call in the settled ending of its work (`stepsTo_native`).
Many natives make a call to the registry, too; what is common to both is that they conclude the
ending of that call (`Request.conclude`, `stepsTo_conclude`). A run goes on from step to step
(`run_cons`) up to one that ends the process (`run_cons_of_aborted`).
-/

namespace PointBridge

open Trace (Event)

/-- The events of a step, without their spans. -/
def StepResult.reported (r : StepResult) : List Event := r.events.map (·.event)

namespace Session

open Bridge (Action)

variable {α : Type} (s : Session)

/-- The bridge as a step under an alarm finds it. -/
def armed (alarm : Option Alarm) : Bridge := { s.bridge with journal := #[], alarm }

/-- A step ends in a given way. It leaves the bridge set up as it is, and the started spans. -/
structure StepsTo (x : Step) (e : Ending Answer) : Prop where
  outcome : (s.step x).1.outcome = e.outcome
  registry : (s.step x).2.bridge.registry = e.registry
  events : (s.step x).1.reported = e.events
  setup : (s.step x).2.bridge.setup = s.bridge.setup
  spans : (s.step x).2.spans = s.spans

theorem stepsTo_registry (c : Registry.Call) (alarm : Option Alarm) :
    s.StepsTo ⟨.registry c, alarm⟩
      (((c.course s.bridge.registry s.bridge.jvm).run alarm).map .registry) := by
  obtain ⟨ho, hr, -, he, -, hs⟩ := Registry.follows_call (s.armed alarm) c
  exact ⟨congrArg (Except.map Answer.registry) ho, hr, he, hs, rfl⟩

theorem stepsTo_native (c : Native.Call) (jvm : Jvm) (elapsed : UInt64) (alarm : Option Alarm) :
    s.StepsTo ⟨.native c jvm elapsed, alarm⟩
      (let e := Native.settled c.entry
        ((c.course s.bridge.performance elapsed s.bridge.registry jvm).run alarm)
      e.map fun value => .native value e.jvm.pending) := by
  obtain ⟨ho, hr, hj, he, -, hs⟩ := Native.endsIn_call (s.armed alarm) c jvm elapsed
  have hanswer := congrArg₂ (fun (o : Except Payload Native.Value) (jvm : Jvm) =>
    o.map fun value => Answer.native value jvm.pending) ho hj
  exact ⟨hanswer, hr, he, hs, rfl⟩

/-- A native call on buffers leaves the registry alone. -/
theorem registry_step_of_buffers {c : Native.Call} {x y : Jvm.Buffer} (job : c.job = .buffers x y)
    (jvm : Jvm) (elapsed : UInt64) (alarm : Option Alarm) :
    (s.step ⟨.native c jvm elapsed, alarm⟩).2.bridge.registry = s.bridge.registry := by
  have hregistry := (s.stepsTo_native c jvm elapsed alarm).registry.trans
    (Native.registry_settled ..)
  rw [Native.Call.course, Course.run_spanned, (Course.left_completing ..).1, job] at hregistry
  exact hregistry.trans (Native.left_run_bufferCourse ..).1

end Session

/-! ## Requests that make a call to the registry -/

namespace Request

/-- The call to the registry that a request makes, by itself or as the job of a native call. -/
def registryCall? : Request → Option Registry.Call
  | .registry c => some c
  | .native n _ _ =>
    match n.job with
    | .registry c => some c
    | .buffers .. => none
  | _ => none

theorem job_of_registryCall? {n : Native.Call} {jvm : Jvm} {elapsed : UInt64} {c : Registry.Call}
    (makes : registryCall? (.native n jvm elapsed) = some c) : n.job = .registry c := by
  simp only [registryCall?] at makes
  split at makes
  next call hcall => rw [hcall, Option.some.inj makes]
  next => cases makes

/-- The machine that a request meets, where it finds a given one. -/
def machine (jvm : Jvm) : Request → Jvm
  | .native _ jvm _ => jvm
  | _ => jvm

/-- How a request concludes what its call to the registry ends in. -/
def conclude (performance : PerformanceSwitch) :
    Request → Ending Arena.Answer → Ending Answer
  | .native n _ elapsed, e =>
    let e := Native.settled n.entry
      (Course.completing (n.isTimed && performance.reports elapsed) (e.map Native.ofAnswer))
    e.map fun value => .native value e.jvm.pending
  | _, e => e.map .registry

theorem registry_conclude (performance : PerformanceSwitch) (request : Request)
    (e : Ending Arena.Answer) : (request.conclude performance e).registry = e.registry := by
  cases request with
  | native n jvm elapsed =>
    exact (Native.registry_settled _ _).trans (Course.left_completing _ _).1
  | _ => rfl

/-- A request only adds events of its own to those of its call. -/
theorem exists_events_conclude (performance : PerformanceSwitch) (request : Request)
    (e : Ending Arena.Answer) : ∃ rest, (request.conclude performance e).events = e.events ++ rest ∧
      ∀ x ∈ rest, x = .spanCompleted ∨ Native.isGuardReport x = true := by
  cases request with
  | native n jvm elapsed =>
    let due := n.isTimed && performance.reports elapsed
    obtain ⟨rest, hrest, guarded⟩ := Native.exists_events_settled n.entry
      (Course.completing due (e.map Native.ofAnswer))
    rw [Course.events_completing, List.append_assoc] at hrest
    refine ⟨Course.completion due ++ rest, hrest, fun x h => ?_⟩
    exact (List.mem_append.1 h).imp Course.eq_of_mem_completion (guarded x)
  | _ => exact ⟨[], (List.append_nil _).symm, fun _ h => absurd h List.not_mem_nil⟩

end Request

/-- **A request that makes a call to the registry concludes the course of that call.** -/
theorem Session.stepsTo_conclude (s : Session) {request : Request} {c : Registry.Call}
    (makes : request.registryCall? = some c) (alarm : Option Alarm) :
    s.StepsTo ⟨request, alarm⟩ (request.conclude s.bridge.performance
      ((c.course s.bridge.registry (request.machine s.bridge.jvm)).run alarm)) := by
  cases request with
  | registry call =>
    obtain rfl := Option.some.inj makes
    exact s.stepsTo_registry call alarm
  | native n jvm elapsed =>
    have hjob := Request.job_of_registryCall? makes
    have hstep := s.stepsTo_native n jvm elapsed alarm
    simp only [Native.Call.course, hjob, Native.Job.course, Course.run_spanned,
      Course.run_map] at hstep
    exact hstep
  | _ => cases makes

/-! ## Requests that end the process -/

/-- Whether a request is about tracing. -/
def Request.isTracing : Request → Bool
  | .tracing _ => true
  | _ => false

/-- **Only a request about tracing can end the process** while no alarm is set. -/
theorem Session.aborted_step_of_other (s : Session) {request : Request}
    (other : request.isTracing = false) :
    (s.step ⟨request, none⟩).1.aborted request = false := by
  cases request with
  | registry | allocateConcurrently | version | foreignDistance => rfl
  | foreignPointers p q => cases p <;> cases q <;> rfl
  | native n jvm elapsed =>
    let e := (n.course s.bridge.performance elapsed s.bridge.registry jvm).run none
    have silent : e.alarm = none := congrArg Ending.alarm (Course.run_none _)
    have houtcome := (s.stepsTo_native n jvm elapsed none).outcome
    have returns := Native.isOk_settled silent n.entry
    rw [StepResult.aborted, houtcome]
    cases hs : (Native.settled n.entry e).outcome with
    | ok value => simp [Ending.map, e, hs, Except.map, Except.isOk, Except.toBool]
    | error p =>
      rw [hs] at returns
      cases returns
  | tracing c => cases other

/-! ## Many steps -/

namespace Session

section Runs

variable (s : Session) (x : Step) (rest : List Step)

theorem run_cons_of_aborted (ends : (s.step x).1.aborted x.request = true) :
    s.run (x :: rest) = ([(s.step x).1], (s.step x).2) := if_pos ends

theorem run_cons (goesOn : (s.step x).1.aborted x.request = false) :
    s.run (x :: rest) =
      ((s.step x).1 :: ((s.step x).2.run rest).1, ((s.step x).2.run rest).2) :=
  if_neg (Bool.eq_false_iff.1 goesOn)

/-- What every step keeps holds after a run. -/
theorem run_induction {P : Session → Prop} (keeps : ∀ s x, P s → P (s.step x).2)
    (steps : List Step) (h : P s) : P (s.run steps).2 := by
  induction steps generalizing s with
  | nil => exact h
  | cons x rest ih =>
    have next := keeps s x h
    cases ends : (s.step x).1.aborted x.request with
    | true =>
      rw [s.run_cons_of_aborted x rest ends]
      exact next
    | false =>
      rw [s.run_cons x rest ends]
      exact ih _ next

end Runs

section Quiet

variable (s : Session) (request : Request) (rest : List Request)

/-- What requests come to that are carried out while no alarm is set. -/
def results (requests : List Request) : List StepResult := (s.run (requests.map (⟨·, none⟩))).1

/-- The session after requests that are carried out while no alarm is set. -/
def after (requests : List Request) : Session := (s.run (requests.map (⟨·, none⟩))).2

/-- No request ends the process, if they are carried out while no alarm is set. -/
def survives (s : Session) : List Request → Bool
  | [] => true
  | request :: rest =>
    !(s.step ⟨request, none⟩).1.aborted request && (s.step ⟨request, none⟩).2.survives rest

theorem results_cons : s.results (request :: rest) = (s.step ⟨request, none⟩).1 ::
    if (s.step ⟨request, none⟩).1.aborted request then []
    else (s.step ⟨request, none⟩).2.results rest := by
  rw [results, List.map_cons]
  cases ends : (s.step ⟨request, none⟩).1.aborted request with
  | true => rw [s.run_cons_of_aborted _ _ ends, if_pos rfl]
  | false =>
    rw [s.run_cons _ _ ends]
    rfl

theorem after_cons : s.after (request :: rest) =
    if (s.step ⟨request, none⟩).1.aborted request then (s.step ⟨request, none⟩).2
    else (s.step ⟨request, none⟩).2.after rest := by
  rw [after, List.map_cons]
  cases ends : (s.step ⟨request, none⟩).1.aborted request with
  | true => rw [s.run_cons_of_aborted _ _ ends, if_pos rfl]
  | false =>
    rw [s.run_cons _ _ ends]
    rfl

end Quiet

end Session

theorem Request.isTracing_of_registryCall? {request : Request} {c : Registry.Call}
    (makes : request.registryCall? = some c) : request.isTracing = false := by
  cases request with
  | tracing => cases makes
  | _ => rfl

/-- **Requests that make calls to the registry carry out the commands of these calls**, where no
alarm is set. -/
theorem Session.arena_run_of_calls (s : Session) {requests : List Request}
    {calls : List Registry.Call} (make : requests.map Request.registryCall? = calls.map some) :
    (s.run (requests.map (⟨·, none⟩))).2.bridge.registry.arena =
      s.bridge.registry.arena.performAll (calls.map (·.command)) := by
  induction requests generalizing s calls with
  | nil =>
    obtain rfl := List.map_eq_nil_iff.1 make.symm
    rfl
  | cons request rest ih =>
    obtain ⟨c, later, rfl, makes, make⟩ := List.map_eq_cons_iff.1 make.symm
    have goesOn := s.aborted_step_of_other (Request.isTracing_of_registryCall? makes.symm)
    have hstep := (s.stepsTo_conclude makes.symm none).registry
    rw [Request.registry_conclude, Course.run_none] at hstep
    have harena : (s.step ⟨request, none⟩).2.bridge.registry.arena =
      (s.bridge.registry.arena.perform c.command).arena := congrArg Registry.arena hstep
    calc (s.run ((request :: rest).map (⟨·, none⟩))).2.bridge.registry.arena
        = ((s.step ⟨request, none⟩).2.run (rest.map (⟨·, none⟩))).2.bridge.registry.arena := by
          rw [List.map_cons, s.run_cons _ _ goesOn]
      _ = (s.step ⟨request, none⟩).2.bridge.registry.arena.performAll
            (later.map (·.command)) := ih _ make.symm
      _ = s.bridge.registry.arena.performAll ((c :: later).map (·.command)) := by
        rw [harena]
        rfl

end PointBridge
