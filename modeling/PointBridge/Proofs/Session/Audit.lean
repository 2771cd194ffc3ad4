import Mathlib.Data.Finset.Card
import PointBridge.Proofs.Arena.Live
import PointBridge.Proofs.Session.Escape
import PointBridge.Proofs.Session.Tracing

/-!
# The events as an audit trail of the registry

Three kinds of events are entries of the audit trail: a point was allocated, a point was released,
and the registry was cleared. A call to the registry makes one entry if it changes which handles are
live, and none otherwise (`Registry.entries_audit`); no other request makes any
(`Session.entries_step`). So the entries of a run tell at each point which handles are live
(`Session.events_are_an_audit_trail`).
-/

namespace PointBridge

open Trace (Event)

/-! ## Entries -/

namespace Trace.Event

/-- Whether an event is an entry of the audit trail. -/
def isEntry : Event → Bool
  | pointAllocated _ | pointReleased .. | registryCleared _ => true
  | _ => false

/-- The live handles after an event, if some handles were live before it. -/
def audit (live : Finset Handle) : Event → Finset Handle
  | pointAllocated h => insert h live
  | pointReleased h _ => live.erase h
  | registryCleared _ => ∅
  | _ => live

/-- An event says the truth about an arena and its live handles as they are just before it. -/
def Fits (a : Arena) (live : Finset Handle) : Event → Prop
  | pointAllocated h => h ∉ live
  | pointReleased h p => h ∈ live ∧ a.find? h = some p
  | registryCleared n => n = live.card
  | _ => True

theorem isEntry_of_isGuardReport {e : Event} (h : Native.isGuardReport e = true) :
    e.isEntry = false := by
  cases e <;> first | rfl | cases h

theorem isEntry_of_isTracingReport {e : Event} (h : e.isTracingReport = true) :
    e.isEntry = false := by
  cases e <;> first | rfl | cases h

theorem foldl_audit_filter (live : Finset Handle) (events : List Event) :
    (events.filter isEntry).foldl audit live = events.foldl audit live := by
  rw [List.foldl_filter]
  congr
  funext live e
  cases e <;> rfl

end Trace.Event

/-! ## Entries of calls to the registry -/

namespace Registry

variable {c : Call} {a : Arena} {live : Finset Handle}

/-- The entries that a call to the registry makes. -/
def Call.entries (c : Call) (a : Arena) : List Event := c.reportInside a ++ c.after a

theorem filter_isEntry_events_course (c : Call) (r : Registry) (jvm : Jvm) :
    (c.course r jvm).events.filter Event.isEntry = c.entries r.arena := by
  have hlock : r.lockEvents.filter Event.isEntry = [] := by
    unfold lockEvents
    split <;> rfl
  have hslots : (r.arena.perform c.command).events.filter Event.isEntry = [] := by
    refine List.filter_eq_nil_iff.2 fun e he => ?_
    obtain ⟨k, rfl⟩ := Arena.eq_slotReused_of_mem_events he
    exact Bool.false_ne_true
  have hinside : (c.reportInside r.arena).filter Event.isEntry = c.reportInside r.arena := by
    cases c <;> rfl
  have hafter : (c.after r.arena).filter Event.isEntry = c.after r.arena := by
    refine List.filter_eq_self.2 fun e he => ?_
    obtain ⟨k, rfl⟩ | ⟨k, p, rfl⟩ := eq_of_mem_after he <;> rfl
  rw [events_course, List.filter_append, List.filter_append, hlock, Call.inside,
    List.filter_append, hslots, hinside, hafter]
  rfl

/-- A call that is refused or panics makes no entry. -/
theorem entries_of_failed (failed : (a.perform c.command).answer = .exhausted ∨
    ∃ err, (a.perform c.command).answer = .refused err) : c.entries a = [] := by
  have hinside : c.reportInside a = [] := by
    cases c with
    | clear => rcases failed with h | ⟨err, h⟩ <;> cases h
    | _ => rfl
  have hafter : c.after a = [] := by
    unfold Call.after
    rcases failed with h | ⟨err, h⟩ <;> rw [h] <;> cases c <;> rfl
  rw [Call.entries, hinside, hafter]
  rfl

/-- The number of live points is that of the live handles. -/
theorem card_live (ha : a.Consistent) (hlive : ∀ h, h ∈ live ↔ (a.find? h).isSome) :
    a.size = live.card := by
  rw [← Finset.length_toList]
  refine Nat.le_antisymm ?_ ?_
  · exact ha.live_le_length fun k hk => Finset.mem_toList.2 ((hlive k).2 hk)
  · exact ha.length_le_live live.nodup_toList fun k hk => (hlive k).1 (Finset.mem_toList.1 hk)

/-- A call that neither allocates nor ends the life of a handle leaves the live handles as they
are. -/
theorem live_perform_of_keeps (ha : a.Consistent) (hallocate : c.command ≠ .allocate)
    (hrelease : ∀ h, c.command ≠ .release h) (hclear : c.command ≠ .clear) (h : Handle) :
    ((a.perform c.command).arena.find? h).isSome ↔ (a.find? h).isSome := by
  rw [ha.live_perform_iff]
  constructor
  · rintro (given | ⟨old, -⟩)
    · exact absurd given (Arena.answer_ne_handle hallocate)
    · exact old
  · exact fun old => .inr ⟨old, hrelease h, hclear⟩

/-- What the entries of a call say is true, and with them the live handles are known again. -/
structure Audits (a : Arena) (live : Finset Handle) (entries : List Event) (b : Arena) : Prop where
  one : entries.length ≤ 1
  fit : ∀ e ∈ entries, e.Fits a live
  live : ∀ h, h ∈ entries.foldl Event.audit live ↔ (b.find? h).isSome

theorem audits_nil {b : Arena} (hlive : ∀ h, h ∈ live ↔ (b.find? h).isSome) :
    Audits a live [] b := ⟨Nat.zero_le 1, nofun, hlive⟩

/-- **The entries of a call to the registry account for what it does.** -/
theorem entries_audit (ha : a.Consistent) (hlive : ∀ h, h ∈ live ↔ (a.find? h).isSome)
    (c : Call) : Audits a live (c.entries a) (a.perform c.command).arena := by
  -- a call that neither gives a handle nor takes one away makes no entry
  have keeps (hallocate : c.command ≠ .allocate) (hrelease : ∀ h, c.command ≠ .release h)
      (hclear : c.command ≠ .clear) (none : c.entries a = []) :
      Audits a live (c.entries a) (a.perform c.command).arena := by
    rw [none]
    exact audits_nil fun h =>
      (hlive h).trans (live_perform_of_keeps ha hallocate hrelease hclear h).symm
  cases c with
  | allocate =>
    cases full : a.isFull with
    | true =>
      have hperform : a.perform Call.allocate.command = _ := Arena.perform_allocate_of_full full
      rw [entries_of_failed (.inl (by rw [hperform])), hperform]
      exact audits_nil hlive
    | false =>
      have hperform : a.perform Call.allocate.command = _ := Arena.perform_allocate_of_room full
      have hentries : Call.allocate.entries a = [.pointAllocated a.allocate.handle] := by
        unfold Call.entries Call.after
        rw [hperform]
        rfl
      rw [hentries, hperform]
      refine ⟨Nat.le_refl 1, fun e he => ?_, fun h => ?_⟩
      · rw [List.mem_singleton.1 he]
        intro old
        have found := (hlive _).1 old
        rw [ha.find?_allocate_handle full] at found
        cases found
      · change h ∈ insert a.allocate.handle live ↔ (a.allocate.arena.find? h).isSome
        rw [Finset.mem_insert, hlive, ha.find?_allocate full]
        by_cases e : h = a.allocate.handle <;> simp [e]
  | free h =>
    have hperform : a.perform (Call.free h).command = _ := Arena.perform_release a h
    cases hp : a.find? h with
    | none =>
      rw [Arena.access_of_none hp] at hperform
      have refused : (a.perform (Call.free h).command).answer = .refused (.invalidHandle h) := by
        rw [hperform]
        rfl
      rw [entries_of_failed (.inr ⟨_, refused⟩), hperform]
      exact audits_nil hlive
    | some p =>
      rw [Arena.access_of_some hp] at hperform
      have hentries : (Call.free h).entries a = [.pointReleased h p] := by
        unfold Call.entries Call.after
        rw [hperform]
        rfl
      rw [hentries, hperform]
      have found : (a.find? h).isSome := by rw [hp]; rfl
      refine ⟨Nat.le_refl 1, fun e he => ?_, fun k => ?_⟩
      · rw [List.mem_singleton.1 he]
        exact ⟨(hlive h).2 found, hp⟩
      · change k ∈ live.erase h ↔ ((a.retire h).find? k).isSome
        rw [Finset.mem_erase, hlive, Arena.find?_retire found]
        by_cases e : k = h <;> simp [e]
  | clear =>
    refine ⟨Nat.le_refl 1, fun e he => ?_, fun h => ?_⟩
    · rw [List.mem_singleton.1 he]
      exact card_live ha hlive
    · change h ∈ (∅ : Finset Handle) ↔ (a.clear.find? h).isSome
      rw [Arena.find?_clear]
      simp
  | _ => exact keeps nofun nofun nofun rfl

end Registry

/-! ## Entries of a step -/

/-- Whether a request is carried out on one thread. -/
def Request.isSequential : Request → Bool
  | .allocateConcurrently .. => false
  | _ => true

/-- A request failed: it ended in a panic, it was refused, or the guard of a native call reported a
failure or a panic. -/
inductive StepResult.Failed (result : StepResult) : Prop
  | panicked {p : Payload} (h : result.outcome = .error p)
  | refused {err : PointError} (h : result.outcome = .ok (.registry (.refused err)))
  | guarded {e : Event} (h : e ∈ result.reported) (report : Native.isGuardReport e = true)

namespace Session

/-- The entries of what a request reports. -/
def entriesOf (s : Session) (request : Request) : List Event :=
  (s.step ⟨request, none⟩).1.reported.filter Event.isEntry

variable {s : Session} {request : Request}

section Calls

variable {c : Registry.Call}

theorem entriesOf_call (makes : request.registryCall? = some c) :
    s.entriesOf request = c.entries s.bridge.registry.arena := by
  have hstep := (s.stepsTo_conclude makes none).events
  rw [Course.run_none] at hstep
  obtain ⟨rest, hrest, own⟩ := request.exists_events_conclude s.bridge.performance
    ⟨_, _, _, (c.course s.bridge.registry (request.machine s.bridge.jvm)).events, none⟩
  have hnone : rest.filter Event.isEntry = [] := by
    refine List.filter_eq_nil_iff.2 fun e he => ?_
    rcases own e he with rfl | report
    · exact Bool.false_ne_true
    · exact Bool.eq_false_iff.1 (Event.isEntry_of_isGuardReport report)
  rw [entriesOf, hstep, hrest, List.filter_append, hnone, List.append_nil,
    Registry.filter_isEntry_events_course]

theorem arena_call (makes : request.registryCall? = some c) :
    (s.step ⟨request, none⟩).2.bridge.registry.arena =
      (s.bridge.registry.arena.perform c.command).arena := by
  have hstep := (s.stepsTo_conclude makes none).registry
  rw [Request.registry_conclude, Course.run_none] at hstep
  exact congrArg Registry.arena hstep

theorem not_failed_registry
    (room : (s.bridge.registry.arena.perform c.command).answer ≠ .exhausted)
    (accepted : ∀ err, (s.bridge.registry.arena.perform c.command).answer ≠ .refused err) :
    ¬ (s.step ⟨.registry c, none⟩).1.Failed := by
  have houtcome := s.outcome_plain c
  rw [Registry.outcomeOf_of_ne room] at houtcome
  rintro (@⟨p, h⟩ | @⟨err, h⟩ | @⟨e, h, report⟩)
  · cases houtcome.symm.trans h
  · exact accepted err (Answer.registry.inj (Except.ok.inj (houtcome.symm.trans h)))
  · have hevents := (s.stepsTo_registry c none).events
    rw [Course.run_none] at hevents
    have plain := Registry.isRegistryReport_of_mem_events (hevents ▸ h)
    rw [Native.isGuardReport_of_isRegistryReport plain] at report
    cases report

theorem not_failed_native {n : Native.Call} (job : n.job = .registry c) (jvm : Jvm)
    (elapsed : UInt64) (room : (s.bridge.registry.arena.perform c.command).answer ≠ .exhausted)
    (accepted : ∀ err, (s.bridge.registry.arena.perform c.command).answer ≠ .refused err) :
    ¬ (s.step ⟨.native n jvm elapsed, none⟩).1.Failed := by
  obtain ⟨value, hvalue⟩ := Native.exists_ofAnswer accepted
  have work := Native.outcome_course job s.bridge.registry jvm
  rw [Registry.outcomeOf_of_ne room, Except.map, hvalue] at work
  have houtcome := s.outcome_native_of_value elapsed work
  rintro (@⟨p, h⟩ | @⟨err, h⟩ | @⟨e, h, report⟩)
  · cases houtcome.symm.trans h
  · cases houtcome.symm.trans h
  · -- the guard reports nothing after a value
    have hsettle : (Native.settle n.entry (n.job.course s.bridge.registry jvm).registry
        (n.job.course s.bridge.registry jvm).jvm
        (n.job.course s.bridge.registry jvm).outcome).events = [] := by
      rw [work]
      rfl
    rw [s.reported_native] at h
    rcases List.mem_append.1 h with h | h
    · rw [Native.isGuardReport_of_mem_events_work h] at report
      cases report
    · exact absurd (hsettle ▸ h) List.not_mem_nil

/-- Where a request fails that makes a call to the registry, that call failed. -/
theorem failed_call (makes : request.registryCall? = some c)
    (failed : (s.step ⟨request, none⟩).1.Failed) :
    (s.bridge.registry.arena.perform c.command).answer = .exhausted ∨
      ∃ err, (s.bridge.registry.arena.perform c.command).answer = .refused err := by
  by_contra fine
  rw [not_or, not_exists] at fine
  obtain ⟨room, accepted⟩ := fine
  cases request with
  | registry call =>
    obtain rfl := Option.some.inj makes
    exact not_failed_registry room accepted failed
  | native n jvm elapsed =>
    exact not_failed_native (Request.job_of_registryCall? makes) jvm elapsed room accepted failed
  | _ => cases makes

end Calls

theorem entriesOf_eq_nil (other : ∀ e ∈ (s.step ⟨request, none⟩).1.reported,
      e.isEntry = false) : s.entriesOf request = [] := by
  refine List.filter_eq_nil_iff.2 fun e he => ?_
  rw [other e he]
  exact Bool.false_ne_true

theorem step_buffers {n : Native.Call} {x y : Jvm.Buffer} (job : n.job = .buffers x y) (jvm : Jvm)
    (elapsed : UInt64) : s.entriesOf (.native n jvm elapsed) = [] ∧
      (s.step ⟨.native n jvm elapsed, none⟩).2.bridge.registry = s.bridge.registry := by
  obtain ⟨rest, hrest, own⟩ := Native.exists_events_settled n.entry
    ((n.course s.bridge.performance elapsed s.bridge.registry jvm).run none)
  have hevents := (s.stepsTo_native n jvm elapsed none).events.trans hrest
  rw [Native.Call.course, Course.run_spanned, job, Course.events_completing] at hevents
  refine ⟨entriesOf_eq_nil fun e he => ?_, s.registry_step_of_buffers job jvm elapsed none⟩
  rw [hevents] at he
  rcases List.mem_append.1 he with he | he
  · rcases List.mem_append.1 he with he | he
    · obtain ⟨m, k, err, rfl⟩ := Native.eq_of_mem_events_bufferCourse he
      rfl
    · rw [Course.eq_of_mem_completion he]
      rfl
  · exact Event.isEntry_of_isGuardReport (own e he)

theorem step_foreignPointers (p q : Option Point) : s.entriesOf (.foreignPointers p q) = [] ∧
    (s.step ⟨.foreignPointers p q, none⟩).2.bridge.registry = s.bridge.registry := by
  have null (first second : Option Point) (act : Foreign.distanceOfPointers first second =
      Bridge.emit (.nullPoint first.isNone second.isNone) >>= fun _ => pure .nan) :
      s.entriesOf (.foreignPointers first second) = [] ∧
        (s.step ⟨.foreignPointers first second, none⟩).2.bridge.registry = s.bridge.registry := by
    obtain ⟨-, registry, -, events, -, -⟩ := (((s.armed none).follows_emit
      (.nullPoint first.isNone second.isNone)).map fun _ => Binary64.nan).quietly rfl
    rw [← act] at registry events
    refine ⟨entriesOf_eq_nil fun e he => ?_, registry⟩
    rw [show (s.step ⟨.foreignPointers first second, none⟩).1.reported = _ from events] at he
    rw [List.mem_singleton.1 he]
    rfl
  cases p with
  | none => exact null none q (by cases q <;> rfl)
  | some p =>
    cases q with
    | none => exact null (some p) none rfl
    | some q => exact ⟨rfl, rfl⟩

theorem step_tracing (c : TracingCall) : s.entriesOf (.tracing c) = [] ∧
    (s.step ⟨.tracing c, none⟩).2.bridge.registry = s.bridge.registry := by
  obtain ⟨outcome, v, events, ends, -, -, reports⟩ := s.exists_tracesTo c
  refine ⟨entriesOf_eq_nil fun e he => ?_,
    registry_trace (s := s.quieted) (P := (· = s.bridge.registry)) c rfl⟩
  rw [ends.events] at he
  exact Event.isEntry_of_isTracingReport (reports e he)

/-- A request on one thread that makes no call to the registry makes no entry, and leaves the
registry as it is. -/
theorem step_other (makes : request.registryCall? = none)
    (sequential : request.isSequential = true) : s.entriesOf request = [] ∧
      (s.step ⟨request, none⟩).2.bridge.registry = s.bridge.registry := by
  cases request with
  | registry c => cases makes
  | allocateConcurrently => cases sequential
  | version | foreignDistance => exact ⟨rfl, rfl⟩
  | foreignPointers p q => exact step_foreignPointers p q
  | native n jvm elapsed =>
    cases hjob : n.job with
    | registry c => simp [Request.registryCall?, hjob] at makes
    | buffers x y => exact step_buffers hjob jvm elapsed
  | tracing c => exact step_tracing c

/-- **The entries of a step account for what it does**, and a request that fails makes none. -/
theorem entries_step (ha : s.bridge.registry.arena.Consistent) {live : Finset Handle}
    (hlive : ∀ h, h ∈ live ↔ (s.bridge.registry.arena.find? h).isSome)
    (sequential : request.isSequential = true) :
    Registry.Audits s.bridge.registry.arena live (s.entriesOf request)
        (s.step ⟨request, none⟩).2.bridge.registry.arena ∧
      ((s.step ⟨request, none⟩).1.Failed → s.entriesOf request = []) := by
  cases makes : request.registryCall? with
  | some c =>
    rw [entriesOf_call makes, arena_call makes]
    exact ⟨Registry.entries_audit ha hlive c,
      fun failed => Registry.entries_of_failed (failed_call makes failed)⟩
  | none =>
    obtain ⟨hentries, hregistry⟩ := step_other makes sequential
    rw [hentries, hregistry]
    exact ⟨Registry.audits_nil hlive, fun _ => rfl⟩

/-! ## Runs -/

/-- The handles that are live after a run from a new process, going by its events. -/
def auditOf (s : Session) (requests : List Request) : Finset Handle :=
  ((s.results requests).flatMap (·.reported)).foldl Event.audit ∅

theorem reachable_after {s : Session} (reachable : s.bridge.registry.arena.Reachable)
    (requests : List Request) : (s.after requests).bridge.registry.arena.Reachable :=
  lasting_run Registry.lasting_reachable reachable _

/-- The events of a run tell which handles are live after it, if it is known which ones are live
before. -/
theorem mem_foldl_audit {s : Session} (reachable : s.bridge.registry.arena.Reachable)
    {live : Finset Handle} (hlive : ∀ h, h ∈ live ↔ (s.bridge.registry.arena.find? h).isSome)
    {requests : List Request} (sequential : ∀ request ∈ requests, request.isSequential = true)
    (h : Handle) :
    h ∈ ((s.results requests).flatMap (·.reported)).foldl Event.audit live ↔
      ((s.after requests).bridge.registry.arena.find? h).isSome := by
  induction requests generalizing s live with
  | nil => exact hlive h
  | cons request rest ih =>
    obtain ⟨here, later⟩ := List.forall_mem_cons.1 sequential
    obtain ⟨⟨-, -, next⟩, -⟩ := entries_step reachable.consistent hlive here
    rw [entriesOf, Event.foldl_audit_filter] at next
    rw [results_cons, after_cons, List.flatMap_cons, List.foldl_append]
    cases (s.step ⟨request, none⟩).1.aborted request with
    | true => exact next h
    | false => exact ih (lasting_step Registry.lasting_reachable reachable _) next later

theorem mem_auditOf (environment : Trace.Variables) {past : List Request}
    (sequential : ∀ request ∈ past, request.isSequential = true) (h : Handle) :
    h ∈ (start environment).auditOf past ↔
      (((start environment).after past).bridge.registry.arena.find? h).isSome := by
  refine mem_foldl_audit .empty (fun k => ?_) sequential h
  have unknown : Arena.empty.find? k = none := rfl
  refine iff_of_false (Finset.notMem_empty k) ?_
  exact Bool.eq_false_iff.1 (congrArg Option.isSome unknown)

/-- **The events are a faithful audit trail.** Take any run of a process on one thread while no
alarm is set. After it, the handles that are live going by its events are those of the live points.
The next step makes one entry at most. A handle that it allocates was not live; one that it releases
was live, with the coordinates of the point that it held; and where it clears the registry, it
reports how many points were live. A request that fails makes no entry. -/
theorem events_are_an_audit_trail (environment : Trace.Variables) (past : List Request)
    (sequential : ∀ request ∈ past, request.isSequential = true) :
    let s := (start environment).after past
    let live := (start environment).auditOf past
    (∀ h, h ∈ live ↔ s.bridge.registry.arena.contains h = true) ∧
    ∀ request : Request, request.isSequential = true →
      (s.entriesOf request).length ≤ 1 ∧
      (∀ e ∈ s.entriesOf request, e.Fits s.bridge.registry.arena live) ∧
      ((s.step ⟨request, none⟩).1.Failed → s.entriesOf request = []) := by
  intro s live
  have hlive := mem_auditOf environment sequential
  have ha := (reachable_after (s := start environment) .empty past).consistent
  refine ⟨hlive, fun request h => ?_⟩
  obtain ⟨⟨one, fit, -⟩, failed⟩ := entries_step ha hlive h
  exact ⟨one, fit, failed⟩

/-- Two points are allocated and the first one is released, by plain and by native calls. Then it is
released again, which fails, or the second one is. -/
theorem events_are_an_audit_trail_of_two_points :
    let past : List Request :=
      [.registry .allocate, .native .allocate {} 0, .native (.setX 0x100000001 7) {} 0,
        .native (.free 0x100000000) {} 0]
    let s := (start {}).after past
    (∀ request ∈ past, request.isSequential = true) ∧
      (start {}).auditOf past = {.pack 1 1} ∧
      s.bridge.registry.arena.contains (.pack 1 1) = true ∧
      s.entriesOf (.native (.free 0x100000000) {} 0) = [] ∧
      s.entriesOf (.registry (.free (.pack 1 1))) = [.pointReleased (.pack 1 1) ⟨7, 0⟩] := by
  intro past s
  have sequential : ∀ request ∈ past, request.isSequential = true := by decide
  obtain ⟨live, entries⟩ := events_are_an_audit_trail {} past sequential
  have trail : (start {}).auditOf past = {.pack 1 1} := by decide +kernel
  obtain ⟨-, -, failed⟩ := entries (.native (.free 0x100000000) {} 0) rfl
  refine ⟨sequential, trail, (live _).1 (by rw [trail]; simp), failed ?_, by decide +kernel⟩
  have reported : .callFailed .free (.point (.invalidHandle (.pack 0 1))) ∈
      (s.step ⟨.native (.free 0x100000000) {} 0, none⟩).1.reported := by decide +kernel
  exact .guarded reported rfl

end Session

end PointBridge
