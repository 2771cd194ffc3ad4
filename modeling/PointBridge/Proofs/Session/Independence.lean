import PointBridge.Proofs.Session.Natives
import PointBridge.Proofs.Session.Tracing

/-!
# Tracing and the registry do not interfere

While no alarm is set, requests about tracing and all other requests live side by side. What the
other requests answer is a matter of the registry (`Session.exists_staysTo`), which no tracing
request touches; what tracing requests answer is a matter of their own view
(`Session.exists_leads`), which no other request touches. So each side sees its own requests only
(`Session.Sees`), and by induction over a run its answers are those of the run of its own requests
alone (`Session.Sees.alone`), as far as the other side lets the process live (`Session.Spares`).
Only a tracing request ends a process, one that loads the library
(`Session.exists_onLoad_of_not_survives`). Nothing else is changed if requests of the other side are
added, left out or moved (`Session.tracing_is_independent`).
-/

namespace PointBridge

open Trace (Config Event Variables)

/-! ## Actions on the registry alone -/

namespace Bridge

variable {α β : Type} {act : Action α}

/-- An action leaves a bridge without an alarm, with a given registry and set up as it was. -/
structure Leaves (b : Bridge) (act : Action α) (outcome : Except Payload α) (r : Registry) :
    Prop where
  outcome : (b.carryOut act).1 = outcome
  registry : (b.carryOut act).2.registry = r
  setup : (b.carryOut act).2.setup = b.setup
  alarm : (b.carryOut act).2.alarm = none

/-- What an action ends with and what it leaves is a matter of the registry, where no alarm is
set. -/
def Confined (act : Action α) : Prop :=
  ∀ r : Registry, ∃ outcome r', ∀ b : Bridge, b.alarm = none → b.registry = r →
    b.Leaves act outcome r'

namespace Confined

protected theorem pure (value : α) : Confined (pure value) :=
  fun r => ⟨.ok value, r, fun _ quiet hr => ⟨rfl, hr, rfl, quiet⟩⟩

protected theorem bind {f : α → Action β} (first : Confined act)
    (next : ∀ value, Confined (f value)) : Confined (act >>= f) := by
  intro r
  obtain ⟨outcome, r₁, hact⟩ := first r
  cases outcome with
  | error p =>
    refine ⟨.error p, r₁, fun b quiet hr => ?_⟩
    obtain ⟨ho, hr₁, hs, ha⟩ := hact b quiet hr
    constructor <;> rw [carryOut_bind_of_error ho]
    · exact hr₁
    · exact hs
    · exact ha
  | ok value =>
    obtain ⟨outcome, r₂, hf⟩ := next value r₁
    refine ⟨outcome, r₂, fun b quiet hr => ?_⟩
    obtain ⟨ho, hr₁, hs, ha⟩ := hact b quiet hr
    obtain ⟨ho₂, hr₂, hs₂, ha₂⟩ := hf _ ha hr₁
    constructor <;> rw [carryOut_bind_of_ok ho]
    · exact ho₂
    · exact hr₂
    · exact hs₂.trans hs
    · exact ha₂

protected theorem mapM {act : α → Action β} (h : ∀ x, Confined (act x)) (xs : List α) :
    Confined (xs.mapM act) := by
  induction xs with
  | nil => exact .pure []
  | cons x rest ih =>
    rw [List.mapM_cons]
    exact (h x).bind fun _ => ih.bind fun _ => .pure _

/-- An action that is carried out on another thread. -/
protected theorem elsewhere (h : Confined act) : Confined (elsewhere act) := by
  intro r
  obtain ⟨outcome, r', hact⟩ := h r
  refine ⟨outcome, r', fun b quiet hr => ?_⟩
  obtain ⟨ho, hr', hs, -⟩ := hact { b with alarm := none, entered := [] } rfl hr
  have hrun : b.carryOut (elsewhere act) =
      let there := { b with alarm := none, entered := [] }.carryOut act
      (there.1, { there.2 with journal := b.journal, alarm := b.alarm, entered := b.entered }) := by
    simp [elsewhere]
  constructor <;> rw [hrun]
  · exact ho
  · exact hr'
  · exact hs
  · exact quiet

/-- An action with a course that ends in the same way on every machine. -/
theorem of_follows {c : Registry → Jvm → Course α}
    (follows : ∀ b : Bridge, b.Follows act (c b.registry b.jvm))
    (same : ∀ r jvm, (c r jvm).outcome = (c r {}).outcome ∧
      (c r jvm).registry = (c r {}).registry) : Confined act := by
  intro r
  refine ⟨(c r {}).outcome, (c r {}).registry, ?_⟩
  rintro b quiet rfl
  obtain ⟨ho, hr, -, -, ha, hs⟩ := (follows b).quietly quiet
  obtain ⟨houtcome, hregistry⟩ := same b.registry b.jvm
  exact ⟨ho.trans houtcome, hr.trans hregistry, hs, ha⟩

end Confined

theorem confined_emit (e : Event) : Confined (emit e) :=
  .of_follows (fun b => b.follows_emit e) fun _ _ => ⟨rfl, rfl⟩

end Bridge

namespace Registry

open Bridge (Confined)

theorem confined_call (c : Call) : Confined (call c) :=
  .of_follows (fun b => follows_call b c) fun _ _ => ⟨rfl, rfl⟩

theorem confined_allocate : Confined allocate := by
  let course (r : Registry) (jvm : Jvm) : Course Handle :=
    if r.arena.isFull then
      operation r jvm [] [] r.arena (.error (.owned Arena.exhaustedText))
    else
      let a := r.arena.allocate
      operation r jvm a.events [.pointAllocated a.handle] a.arena (.ok a.handle)
  have follows (b : Bridge) : b.Follows allocate (course b.registry b.jvm) := by
    cases full : b.registry.arena.isFull with
    | true => simpa only [course, full, if_true] using follows_allocate_of_full full
    | false =>
      simpa only [course, full, Bool.false_eq_true, if_false] using follows_allocate_of_room full
  refine .of_follows follows fun r jvm => ?_
  unfold course
  cases r.arena.isFull <;> exact ⟨rfl, rfl⟩

theorem confined_allocateConcurrently (threads perThread : Nat) :
    Confined (allocateConcurrently threads perThread) := by
  have thread : Confined (allocateElsewhere perThread) :=
    .elsewhere (.mapM (fun _ => confined_allocate) _)
  exact .bind (.mapM (fun _ => thread) _) fun _ => .pure _

end Registry

theorem Foreign.confined_distanceOfPointers (p q : Option Point) :
    Bridge.Confined (distanceOfPointers p q) := by
  unfold distanceOfPointers
  split
  · exact .pure _
  · exact (Bridge.confined_emit _).bind fun _ => .pure _

/-! ## Requests -/

namespace Request

/-- The request, if a span that it finishes takes a number of microseconds. -/
def taking (elapsed : UInt64) : Request → Request
  | .native n jvm _ => .native n jvm elapsed
  | .tracing c => .tracing (c.taking elapsed)
  | request => request

/-- The request without the times that are measured while it is carried out. -/
def untimed (request : Request) : Request := request.taking 0

theorem isForeign_untimed (request : Request) : request.untimed.isForeign = request.isForeign := by
  cases request with
  | tracing c => cases c <;> rfl
  | _ => rfl

theorem exists_taking (request : Request) : ∃ elapsed, request.taking elapsed = request := by
  cases request with
  | native n jvm elapsed => exact ⟨elapsed, rfl⟩
  | tracing c =>
    obtain ⟨elapsed, same⟩ := c.exists_taking
    exact ⟨elapsed, congrArg Request.tracing same⟩
  | _ => exact ⟨0, rfl⟩

end Request

namespace Session

/-- A request ends in a given way while no alarm is set. It leaves a registry, and nothing else that
tracing calls look at. -/
structure StaysTo (s : Session) (request : Request) (outcome : Except Payload Answer)
    (r : Registry) : Prop where
  outcome : (s.step ⟨request, none⟩).1.outcome = outcome
  registry : (s.step ⟨request, none⟩).2.bridge.registry = r
  view : (s.step ⟨request, none⟩).2.tracingView = s.tracingView

theorem staysTo_of_leaves {α : Type} {s : Session} {request : Request} {act : Bridge.Action α}
    {say : α → Answer} {result : Except Payload α} {r : Registry}
    (leaves : s.quieted.bridge.Leaves act result r)
    (h : s.quieted.perform request = s.quieted.answering act say) :
    s.StaysTo request (result.map say) r := by
  obtain ⟨ho, hr, hs, -⟩ := leaves
  have hview : (s.quieted.perform request).2.tracingView = s.tracingView := by
    rw [h]
    exact congrArg (TracingView.mk · s.tracingView.recording) hs
  refine ⟨?_, ?_, hview⟩
  · exact (congrArg Prod.fst h).trans (congrArg (Except.map say) ho)
  · exact (congrArg (·.2.bridge.registry) h).trans hr

/-- **A request that is not about tracing is a matter of the registry**, however long a span takes
that it runs in. -/
theorem exists_staysTo {request : Request} (other : request.isTracing = false) (r : Registry) :
    ∃ outcome r', ∀ (s : Session) (elapsed : UInt64), s.bridge.registry = r →
      s.StaysTo (request.taking elapsed) outcome r' := by
  have confined {α : Type} {act : Bridge.Action α} (say : α → Answer) (h : Bridge.Confined act)
      (carries : ∀ s elapsed, Session.perform s (request.taking elapsed) = s.answering act say) :
      ∃ outcome r', ∀ (s : Session) (elapsed : UInt64), s.bridge.registry = r →
        s.StaysTo (request.taking elapsed) outcome r' := by
    obtain ⟨result, r', leaves⟩ := h r
    exact ⟨_, r', fun s elapsed hr => staysTo_of_leaves (leaves s.quieted.bridge rfl hr)
      (carries s.quieted elapsed)⟩
  cases request with
  | registry c => exact confined .registry (Registry.confined_call c) fun _ _ => rfl
  | allocateConcurrently threads perThread =>
    exact confined .handles (Registry.confined_allocateConcurrently threads perThread)
      fun _ _ => rfl
  | version =>
    exact ⟨.ok (.version Bridge.libraryVersion Foreign.interfaceVersion), r,
      fun s _ hr => ⟨rfl, hr, rfl⟩⟩
  | foreignDistance p q =>
    exact ⟨.ok (.distance (Foreign.distance p q)), r, fun s _ hr => ⟨rfl, hr, rfl⟩⟩
  | foreignPointers p q =>
    exact confined .distance (Foreign.confined_distanceOfPointers p q) fun _ _ => rfl
  | native n jvm =>
    let work := n.job.course r jvm
    let last := (Native.settle n.entry work.registry work.jvm work.outcome).run none
    refine ⟨last.outcome.map fun value => .native value last.jvm.pending, work.registry, ?_⟩
    rintro s elapsed rfl
    -- the span of the call only adds its completion to the events of the work
    have hstep := s.stepsTo_native n jvm elapsed none
    rw [Course.run_none] at hstep
    refine ⟨hstep.outcome, hstep.registry.trans (Native.registry_settled ..), ?_⟩
    exact congrArg₂ TracingView.mk hstep.setup (congrArg (List.map _) hstep.spans)
  | tracing c => cases other

/-! ## One side of a session -/

section Sides

variable {γ : Type} {kind : Request → Bool} {view : Session → γ}

/-- Requests of a kind see a view of a session: what they answer and how they change it is a matter
of the view alone, and other requests leave it as it is. -/
structure Sees (kind : Request → Bool) (view : Session → γ) : Prop where
  hidden : ∀ (s : Session) {request : Request}, kind request = false →
    view (s.step ⟨request, none⟩).2 = view s
  shown : ∀ {s t : Session} {request : Request}, kind request = true → view s = view t →
    (s.step ⟨request, none⟩).1.outcome = (t.step ⟨request.untimed, none⟩).1.outcome ∧
      view (s.step ⟨request, none⟩).2 = view (t.step ⟨request.untimed, none⟩).2

/-- Requests of a kind end the process, or do not, as they do in another session with this view. -/
theorem Sees.aborted_eq (sees : Sees kind view) {s t : Session} (same : view s = view t)
    {request : Request} (own : kind request = true) :
    (s.step ⟨request, none⟩).1.aborted request =
      (t.step ⟨request.untimed, none⟩).1.aborted request.untimed := by
  rw [StepResult.aborted, StepResult.aborted, (sees.shown own same).1, request.isForeign_untimed]

/-- What the requests of a kind are answered among others. -/
def answersTo (kind : Request → Bool) (s : Session) (requests : List Request) :
    List (Except Payload Answer) :=
  ((requests.zip (s.results requests)).filter (kind ·.1)).map (·.2.outcome)

theorem answersTo_cons (kind : Request → Bool) (s : Session) (request : Request)
    (rest : List Request) : s.answersTo kind (request :: rest) =
      (if kind request then [(s.step ⟨request, none⟩).1.outcome] else []) ++
        if (s.step ⟨request, none⟩).1.aborted request then []
        else (s.step ⟨request, none⟩).2.answersTo kind rest := by
  unfold answersTo
  rw [results_cons, List.zip_cons_cons, List.filter_cons]
  cases kind request <;> cases (s.step ⟨request, none⟩).1.aborted request <;> simp

/-- No request but those of a kind ends the process. -/
def Spares (kind : Request → Bool) (s : Session) : List Request → Prop
  | [] => True
  | request :: rest =>
    (kind request = false → (s.step ⟨request, none⟩).1.aborted request = false) ∧
      Spares kind (s.step ⟨request, none⟩).2 rest

theorem spares_of_survives {s : Session} {requests : List Request}
    (survives : s.survives requests = true) : s.Spares kind requests := by
  induction requests generalizing s with
  | nil => trivial
  | cons request rest ih =>
    obtain ⟨here, later⟩ := Bool.and_eq_true_iff.1 survives
    exact ⟨fun _ => by simpa using here, ih later⟩

theorem spares_tracing (s : Session) (requests : List Request) :
    s.Spares Request.isTracing requests := by
  induction requests generalizing s with
  | nil => trivial
  | cons request rest ih => exact ⟨s.aborted_step_of_other, ih _⟩

/-- **The requests of a kind are answered as if they were alone**, up to the end of the process if
another request ends it. -/
theorem Sees.alone (sees : Sees kind view) {s t : Session} (same : view s = view t)
    (requests : List Request) :
    ∃ rest, s.answersTo kind requests ++ rest =
        (t.results ((requests.filter kind).map Request.untimed)).map (·.outcome) ∧
      (s.Spares kind requests → rest = [] ∧
        view (s.after requests) = view (t.after ((requests.filter kind).map Request.untimed))) := by
  induction requests generalizing s t with
  | nil => exact ⟨[], rfl, fun _ => ⟨rfl, same⟩⟩
  | cons request rest ih =>
    rw [answersTo_cons, after_cons]
    cases hkind : kind request with
    | true =>
      obtain ⟨outcome, next⟩ := sees.shown hkind same
      obtain ⟨missed, answers, last⟩ := ih next
      rw [List.filter_cons_of_pos hkind, List.map_cons, results_cons, after_cons,
        ← sees.aborted_eq same hkind, if_pos rfl, outcome]
      cases (s.step ⟨request, none⟩).1.aborted request with
      | true => exact ⟨[], rfl, fun _ => ⟨rfl, next⟩⟩
      | false => exact ⟨missed, congrArg _ answers, fun spares => last spares.2⟩
    | false =>
      obtain ⟨missed, answers, last⟩ := ih ((sees.hidden s hkind).trans same)
      rw [List.filter_cons_of_neg (Bool.eq_false_iff.1 hkind), if_neg Bool.false_ne_true]
      cases ends : (s.step ⟨request, none⟩).1.aborted request with
      | true =>
        refine ⟨_, rfl, fun spares => ?_⟩
        cases ends.symm.trans (spares.1 hkind)
      | false => exact ⟨missed, answers, fun spares => last spares.2⟩

/-- Two runs with the same requests of a kind do not differ for these. If another request ends the
process in one of them, the first of the answers are still the same. -/
theorem Sees.agree (sees : Sees kind view) (s : Session) {xs ys : List Request}
    (same : (xs.filter kind).map Request.untimed = (ys.filter kind).map Request.untimed)
    (spared : s.Spares kind ys) :
    s.answersTo kind xs <+: s.answersTo kind ys ∧ (s.Spares kind xs →
      s.answersTo kind xs = s.answersTo kind ys ∧ view (s.after xs) = view (s.after ys)) := by
  obtain ⟨missedx, hxs, lastx⟩ := sees.alone (t := s) rfl xs
  obtain ⟨missedy, hys, lasty⟩ := sees.alone (t := s) rfl ys
  obtain ⟨rfl, viewy⟩ := lasty spared
  rw [List.append_nil] at hys
  rw [same, ← hys] at hxs
  refine ⟨⟨missedx, hxs⟩, fun spares => ?_⟩
  obtain ⟨rfl, viewx⟩ := lastx spares
  rw [List.append_nil] at hxs
  rw [viewx, viewy, same]
  exact ⟨hxs, rfl⟩

end Sides

/-- Requests that are not about tracing see the registry. -/
theorem others_see_registry : Sees (fun request => !request.isTracing) (·.bridge.registry) where
  hidden s request tracing := by
    cases request with
    | tracing c => exact registry_trace (s := s.quieted) (P := (· = s.bridge.registry)) c rfl
    | _ => cases tracing
  shown {s t request} other same := by
    obtain ⟨outcome, r, stays⟩ :=
      exists_staysTo (by simpa using other : request.isTracing = false) t.bridge.registry
    obtain ⟨elapsed, taken⟩ := request.exists_taking
    have here := stays s elapsed same
    rw [taken] at here
    have there := stays t 0 rfl
    exact ⟨here.outcome.trans there.outcome.symm, here.registry.trans there.registry.symm⟩

/-- Requests about tracing see what is set up and which spans record. -/
theorem tracing_sees_view : Sees Request.isTracing tracingView where
  hidden s request other := by
    obtain ⟨outcome, r, stays⟩ := exists_staysTo other s.bridge.registry
    obtain ⟨elapsed, taken⟩ := request.exists_taking
    have here := stays s elapsed rfl
    rw [taken] at here
    exact here.view
  shown {s t request} tracing same := by
    cases request with
    | tracing c =>
      obtain ⟨outcome, v, leads, -, -⟩ := exists_leads t.tracingView c
      obtain ⟨elapsed, taken⟩ := c.exists_taking
      obtain ⟨_, here, -⟩ := leads s elapsed same
      rw [taken] at here
      obtain ⟨_, there, -⟩ := leads t 0 rfl
      exact ⟨here.outcome.trans there.outcome.symm, here.view.trans there.view.symm⟩
    | _ => cases tracing

/-! ## What ends a process -/

/-- No request takes back what is installed. -/
theorem grows_step (s : Session) (request : Request) :
    s.bridge.setup.Grows (s.step ⟨request, none⟩).2.bridge.setup := by
  cases h : request.isTracing with
  | true =>
    cases request with
    | tracing c =>
      obtain ⟨outcome, v, events, ends, grows, -, -⟩ := s.exists_tracesTo c
      have hsetup : (s.step ⟨.tracing c, none⟩).2.bridge.setup = v.setup :=
        congrArg TracingView.setup ends.view
      rw [hsetup]
      exact grows
    | _ => cases h
  | false =>
    have hsetup := congrArg TracingView.setup (tracing_sees_view.hidden s h)
    rw [show (s.step ⟨request, none⟩).2.bridge.setup = _ from hsetup]
    exact .refl _

/-- The configuration that the variables give settles on no subscriber: the library that reads
filters panics at a text of theirs. -/
def Unsettled (environment : Variables) : Prop :=
  ∀ subscriber ignored,
    ¬ (Config.ofVariables environment).SettlesOn environment subscriber ignored

/-- **Only loading the library ends a process**, if nobody tried to install a subscriber once before
and the variables do not settle on one. -/
theorem unsettled_of_aborted {s : Session} {request : Request}
    (ends : (s.step ⟨request, none⟩).1.aborted request = true) :
    request = .tracing .onLoad ∧ s.bridge.onceResult = none ∧ Unsettled s.bridge.environment := by
  cases htracing : request.isTracing with
  | false => cases ends.symm.trans (s.aborted_step_of_other htracing)
  | true =>
    cases request with
    | tracing c =>
      cases c with
      | onLoad =>
        obtain ⟨result, setup, events, once, yields⟩ :=
          s.bridge.setup.exists_once (.ofVariables s.bridge.environment)
        have returns (installed : Bool) (h : result = .ok installed) : False := by
          subst h
          have traces : s.TracesTo .onLoad _ _ _ :=
            tracesTo_of_yields (Setup.yields_onLoad yields) rfl
          rw [StepResult.aborted, traces.outcome] at ends
          cases ends
        cases once with
        | again => exact (returns _ rfl).elim
        | first => exact (returns _ rfl).elim
        | panicked untried unsettled => exact ⟨rfl, untried, unsettled⟩
      | _ => cases ends
    | _ => cases htracing

/-- A process that does not live through requests ends at one that loads the library, the first
attempt to install a subscriber once. -/
theorem exists_onLoad_of_not_survives {s : Session} {requests : List Request}
    (ends : s.survives requests = false) :
    ∃ past rest, requests = past ++ .tracing .onLoad :: rest ∧ s.survives past = true ∧
      (s.after past).bridge.onceResult = none ∧ Unsettled s.bridge.environment := by
  induction requests generalizing s with
  | nil => cases ends
  | cons request rest ih =>
    cases here : (s.step ⟨request, none⟩).1.aborted request with
    | true =>
      obtain ⟨rfl, untried, unsettled⟩ := unsettled_of_aborted here
      exact ⟨[], rest, rfl, rfl, untried, unsettled⟩
    | false =>
      rw [survives, here] at ends
      obtain ⟨past, later, rfl, lives, untried, unsettled⟩ := ih ends
      have same : (s.step ⟨request, none⟩).2.bridge.environment = s.bridge.environment :=
        (s.grows_step request).environment
      refine ⟨request :: past, later, rfl, ?_, ?_, ?_⟩
      · rw [survives, here]
        exact lives
      · rw [after_cons, here]
        exact untried
      · rwa [same] at unsettled

/-! ## Both sides -/

/-- **Observing changes nothing, and is not changed, as long as the process lives.** Take two runs
from the same session while no alarm is set.

If they have the same requests that are not about tracing, in the same order, and the process lives
through one of them, then the other one gives these requests the same answers, wherever requests
about tracing stand among them, and whatever these are; it gives all of them and leaves the same
registry, if the process lives through it, too. If they have the same requests about tracing, in the
same order, then these are answered alike and the bridge is left set up alike, wherever other
requests stand among them. The times that are measured meanwhile may differ.

The process ends only where it loads the library, if no attempt to install a subscriber once was
completed before and the library that reads filters panics at the texts in the variables. -/
theorem tracing_is_independent (s : Session) (xs ys : List Request) :
    ((xs.filter fun request => !request.isTracing).map Request.untimed =
        (ys.filter fun request => !request.isTracing).map Request.untimed →
      s.survives ys = true →
      s.answersTo (fun request => !request.isTracing) xs <+:
        s.answersTo (fun request => !request.isTracing) ys ∧
      (s.survives xs = true →
        s.answersTo (fun request => !request.isTracing) xs =
          s.answersTo (fun request => !request.isTracing) ys ∧
        (s.after xs).bridge.registry = (s.after ys).bridge.registry)) ∧
    ((xs.filter Request.isTracing).map Request.untimed =
        (ys.filter Request.isTracing).map Request.untimed →
      s.answersTo Request.isTracing xs = s.answersTo Request.isTracing ys ∧
      (s.after xs).bridge.setup = (s.after ys).bridge.setup) ∧
    (s.survives xs = false → ∃ past rest, xs = past ++ .tracing .onLoad :: rest ∧
      s.survives past = true ∧ (s.after past).bridge.onceResult = none ∧
      Unsettled s.bridge.environment) := by
  refine ⟨fun same lives => ?_, fun same => ?_, exists_onLoad_of_not_survives⟩
  · obtain ⟨first, agree⟩ := others_see_registry.agree s same (spares_of_survives lives)
    exact ⟨first, fun survives => agree (spares_of_survives survives)⟩
  · obtain ⟨-, agree⟩ := tracing_sees_view.agree s same (s.spares_tracing ys)
    obtain ⟨answers, view⟩ := agree (s.spares_tracing xs)
    exact ⟨answers, congrArg TracingView.setup view⟩

/-- A native measures a distance, alone and while a subscriber is installed and spans are open. The
filter text of another process is cut inside a character where the library is loaded. -/
theorem tracing_is_independent_of_a_distance :
    let distance (elapsed : UInt64) : Request :=
      .native (.handleDistance 0x100000000 0x100000000) {} elapsed
    let tracing : List Request :=
      [.tracing (.initOnce .development), .tracing (.spanStart "key" "outer" none 0),
        .tracing (.spanFinish "key" 300)]
    let others : List Request := [.registry .allocate, distance 0, .registry .livePoints]
    let both : List Request :=
      [.registry .allocate, .tracing (.initOnce .development),
        .tracing (.spanStart "key" "outer" none 0), distance 250,
        .tracing (.spanFinish "key" 300), .registry .livePoints]
    let cut := start { sharedFilter := .text " [é]" }
    let loading : List Request := [.registry .allocate, .tracing .onLoad]
    answersTo (fun request => !request.isTracing) {} both =
        answersTo (fun request => !request.isTracing) {} others ∧
      answersTo (fun request => !request.isTracing) {} others =
        [.ok (.registry (.handle (.pack 0 1))), .ok (.native (.double .zero) none),
          .ok (.registry (.count 1))] ∧
      answersTo Request.isTracing {} both = answersTo Request.isTracing {} tracing ∧
      answersTo Request.isTracing {} tracing =
        [.ok (.flag true), .ok (.flag true), .ok .done] ∧
      cut.survives loading = false ∧ ∃ past rest, loading = past ++ .tracing .onLoad :: rest ∧
        cut.survives past = true ∧ (cut.after past).bridge.onceResult = none ∧
        Unsettled cut.bridge.environment := by
  intro distance tracing others both cut loading
  obtain ⟨untouched, -⟩ := tracing_is_independent {} both others
  obtain ⟨-, unmoved, -⟩ := tracing_is_independent {} both tracing
  obtain ⟨-, -, loads⟩ := tracing_is_independent cut loading []
  obtain ⟨-, same⟩ := untouched (by decide +kernel) (by decide +kernel)
  have ends : cut.survives loading = false := by decide +kernel
  exact ⟨(same (by decide +kernel)).1, by decide +kernel, (unmoved (by decide +kernel)).1,
    by decide +kernel, ends, loads ends⟩

/-- Loading the library between two calls to the registry, where the filter text of the environment
is cut inside a character. -/
theorem loading_can_end_a_process :
    let s := start { sharedFilter := .text " [é]" }
    let others : List Request := [.registry .allocate, .registry .livePoints]
    let both : List Request := [.registry .allocate, .tracing .onLoad, .registry .livePoints]
    (both.filter fun request => !request.isTracing).map Request.untimed =
        (others.filter fun request => !request.isTracing).map Request.untimed ∧
      s.answersTo (fun request => !request.isTracing) others =
        [.ok (.registry (.handle (.pack 0 1))), .ok (.registry (.count 1))] ∧
      s.answersTo (fun request => !request.isTracing) both =
        [.ok (.registry (.handle (.pack 0 1)))] := by
  decide +kernel

end Session

end PointBridge
