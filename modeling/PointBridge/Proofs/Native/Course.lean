import PointBridge.Native
import PointBridge.Proofs.Jvm.Throwing
import PointBridge.Proofs.Performance
import PointBridge.Proofs.Registry.Course

/-!
# The course of a native call

The work of a native call is a call to the registry, whose answer becomes a result
(`Call.job`, `ofAnswer`), or the distance of two buffers; the two distance functions do
it in a performance span (`follows_work`). The guard around the work settles what that ended with:
a value is returned as it is, while an error or a panic is reported and raised as an exception
(`settled`). So a call ends in the ending of its work, settled (`endsIn_call`), whatever the
machine does and wherever an alarm goes off.
-/

namespace PointBridge

open Trace (Event)

namespace Native

open Bridge (Action Follows)

variable {b : Bridge}

/-! ## Jobs -/

/-- What the work of a call is about. -/
inductive Job where
  /-- A call to the registry. -/
  | registry (call : Registry.Call)
  /-- The distance of the points in two buffers. -/
  | buffers (a b : Jvm.Buffer)

/-- The job of a call. -/
def Call.job : Call → Job
  | .allocate => .registry .allocate
  | .free h => .registry (.free (.ofSigned h))
  | .getX h => .registry (.getX (.ofSigned h))
  | .setX h x => .registry (.setX (.ofSigned h) x)
  | .getY h => .registry (.getY (.ofSigned h))
  | .setY h y => .registry (.setY (.ofSigned h) y)
  | .handleDistance h k => .registry (.distance (.ofSigned h) (.ofSigned k))
  | .bufferDistance a b => .buffers a b

/-- Whether a call runs in a performance span. -/
def Call.isTimed : Call → Bool
  | .handleDistance .. | .bufferDistance .. => true
  | _ => false

/-- The result of a native call if the registry gives an answer. -/
def ofAnswer : Arena.Answer → Except BridgeError Value
  | .handle h => .ok (.long h.toSigned)
  | .coordinate c => .ok (.int c)
  | .distance d => .ok (.double d)
  | .refused e => .error (.point e)
  | _ => .ok .void

/-- A call to the registry whose answer is turned into the result of a native call. -/
theorem bind_ofAnswer {α : Type} (act : Action (Except PointError α)) {say : α → Arena.Answer}
    {give : α → Value} (h : ∀ value, ofAnswer (say value) = .ok (give value)) :
    ((do return .ofResult say (← act)) >>= fun answer => pure (ofAnswer answer) : Action _) =
      do return ofResult give (← act) := by
  rw [bind_assoc]
  refine bind_congr fun r => ?_
  rw [pure_bind]
  cases r with
  | ok value => exact congrArg pure (h value)
  | error e => rfl

/-! ## Work on buffers -/

/-- The course of the distance of two buffers. -/
def bufferCourse (a b : Jvm.Buffer) (r : Registry) (jvm : Jvm) :
    Course (Except BridgeError Value) :=
  let first := (Jvm.bufferBytes a).run jvm
  match first.1 with
  | .error e => .pure (.error e) r first.2
  | .ok x =>
    let second := (Jvm.bufferBytes b).run first.2
    match second.1 with
    | .error e => .pure (.error e) r second.2
    | .ok y =>
      match Point.distanceOfBuffers x y with
      | .ok d => .pure (.ok (.double d)) r second.2
      | .error e =>
        (Course.emit [.undersizedBuffer x.length y.length e] r second.2).map fun _ =>
          .error (.point e)

/-- An action goes on from what a computation on the machine gives and leaves. -/
theorem follows_onJvm_bind {α β : Type} {act : StateM Jvm α} {f : α → Action β} {c : Course β}
    (h : ∀ b' : Bridge, b'.registry = b.registry → b'.jvm = (act.run b.jvm).2 →
      b'.Follows (f (act.run b.jvm).1) c) : b.Follows (Bridge.onJvm act >>= f) c := by
  have first : b.Follows (Bridge.onJvm act)
      (.pure (act.run b.jvm).1 b.registry (act.run b.jvm).2) :=
    ⟨rfl, rfl, rfl, (List.append_nil _).symm, rfl, rfl⟩
  refine first.bind (d := fun _ => c) fun b' value ok hr hj _ => ?_
  obtain rfl : (act.run b.jvm).1 = value := Except.ok.inj ok
  exact h b' hr hj

theorem follows_distanceOfBuffers (b : Bridge) (x y : Jvm.Buffer) :
    b.Follows (distanceOfBuffers x y) (bufferCourse x y b.registry b.jvm) := by
  unfold distanceOfBuffers bufferCourse
  refine follows_onJvm_bind fun b₁ hr₁ hj₁ => ?_
  dsimp only
  rw [← hr₁, ← hj₁]
  cases ((Jvm.bufferBytes x).run b.jvm).1 with
  | error e => exact b₁.follows_pure _
  | ok first =>
    refine follows_onJvm_bind fun b₂ hr₂ hj₂ => ?_
    dsimp only
    rw [← hr₂, ← hj₂]
    cases ((Jvm.bufferBytes y).run b₁.jvm).1 with
    | error e => exact b₂.follows_pure _
    | ok second =>
      dsimp only
      cases Point.distanceOfBuffers first second with
      | ok d => exact b₂.follows_pure _
      | error e => exact (b₂.follows_emit _).map _

/-- Work on two buffers gives the distance of the points in what is found in them. The second buffer
meets a machine that differs from the first one's in its calls only. -/
theorem outcome_bufferCourse (x y : Jvm.Buffer) (r : Registry) (jvm : Jvm) :
    (bufferCourse x y r jvm).outcome = .ok (do
      let first ← jvm.bytesOf x
      let second ← jvm.bytesOf y
      ofResult .double (Point.distanceOfBuffers first second)) := by
  have hsecond := (jvm.like_bufferBytes x).bytesOf_eq y
  unfold bufferCourse
  dsimp only
  rw [Jvm.fst_run_bufferBytes, Jvm.fst_run_bufferBytes, hsecond]
  cases jvm.bytesOf x with
  | error e => rfl
  | ok first =>
    cases jvm.bytesOf y with
    | error e => rfl
    | ok second =>
      change Course.outcome (match Point.distanceOfBuffers first second with
        | .ok d => _
        | .error e => _) = .ok (ofResult .double (Point.distanceOfBuffers first second))
      cases Point.distanceOfBuffers first second <;> rfl

/-- Work on buffers leaves the registry alone, and the machine but for the calls that reach it. -/
theorem left_run_bufferCourse (x y : Jvm.Buffer) (r : Registry) (jvm : Jvm)
    (alarm : Option Alarm) : ((bufferCourse x y r jvm).run alarm).registry = r ∧
      jvm.Like ((bufferCourse x y r jvm).run alarm).jvm := by
  have first := jvm.like_bufferBytes x
  have second := first.trans (Jvm.like_bufferBytes _ y)
  unfold bufferCourse
  dsimp only
  split
  · exact ⟨rfl, first⟩
  · split
    · exact ⟨rfl, second⟩
    · split
      · exact ⟨rfl, second⟩
      · refine Course.left_run (P := fun r' jvm' => r' = r ∧ jvm.Like jvm') (fun cut h => ?_)
          ⟨rfl, second⟩
        obtain ⟨-, -, hregistry, hjvm⟩ := of_mem_cutsAt h
        exact ⟨hregistry, hjvm ▸ second⟩

/-- Work on buffers reports nothing but buffers that are too short. -/
theorem eq_of_mem_events_bufferCourse {x y : Jvm.Buffer} {r : Registry} {jvm : Jvm}
    {alarm : Option Alarm} {e : Event} (h : e ∈ ((bufferCourse x y r jvm).run alarm).events) :
    ∃ m n err, e = .undersizedBuffer m n err := by
  obtain ⟨cut, hcut, hevent⟩ := Course.mem_events_run h
  unfold bufferCourse at hcut
  dsimp only at hcut
  split at hcut
  · cases hcut
  · split at hcut
    · cases hcut
    · split at hcut
      · cases hcut
      · obtain ⟨hreport, hunwinding, -, -⟩ := of_mem_cutsAt hcut
        rw [hunwinding] at hevent
        rw [hevent.resolve_right List.not_mem_nil]
        exact ⟨_, _, _, List.mem_singleton.1 hreport⟩

/-! ## The whole work -/

/-- The course of a job. -/
def Job.course : Job → Registry → Jvm → Course (Except BridgeError Value)
  | .registry call, r, jvm => (call.course r jvm).map ofAnswer
  | .buffers x y, r, jvm => bufferCourse x y r jvm

/-- The course of the work of a call that takes a number of microseconds. -/
def Call.course (c : Call) (performance : PerformanceSwitch) (elapsed : UInt64) (r : Registry)
    (jvm : Jvm) : Course (Except BridgeError Value) :=
  (c.job.course r jvm).spanned (c.isTimed && performance.reports elapsed)

/-- A call to the registry, with its answer as the result of a native call. -/
def Job.act : Job → Action (Except BridgeError Value)
  | .registry call => do return ofAnswer (← Registry.call call)
  | .buffers x y => distanceOfBuffers x y

theorem work_eq (elapsed : UInt64) (c : Call) : work elapsed c =
    if c.isTimed then PerformanceSpan.around c.entry.label elapsed c.job.act else c.job.act := by
  cases c with
  | allocate =>
    unfold work Job.act
    simp [Call.isTimed, Call.job, Registry.call, ofAnswer]
  | free h => exact (bind_ofAnswer _ fun _ => rfl).symm
  | getX h => exact (bind_ofAnswer _ fun _ => rfl).symm
  | setX h x => exact (bind_ofAnswer _ fun _ => rfl).symm
  | getY h => exact (bind_ofAnswer _ fun _ => rfl).symm
  | setY h y => exact (bind_ofAnswer _ fun _ => rfl).symm
  | handleDistance h k =>
    exact congrArg (PerformanceSpan.around _ elapsed) (bind_ofAnswer _ fun _ => rfl).symm
  | bufferDistance x y => rfl

theorem follows_act (b : Bridge) (j : Job) : b.Follows j.act (j.course b.registry b.jvm) := by
  cases j with
  | registry call => exact (Registry.follows_call b call).map ofAnswer
  | buffers x y => exact follows_distanceOfBuffers b x y

/-- **The work of a call follows its course.** -/
theorem follows_work (b : Bridge) (elapsed : UInt64) (c : Call) :
    b.Follows (work elapsed c) (c.course b.performance elapsed b.registry b.jvm) := by
  rw [work_eq]
  unfold Call.course
  cases c.isTimed with
  | true =>
    simp only [if_true, Bool.true_and]
    refine PerformanceSpan.follows_around _ elapsed fun b' hr hj => ?_
    rw [← hr, ← hj]
    exact follows_act b' c.job
  | false =>
    simp only [Bool.false_eq_true, if_false, Bool.false_and, Course.spanned_false]
    exact follows_act b c.job

/-! ## The guard -/

/-- What is reported about an attempt to throw an exception. -/
def throwReport (className : String) : Except JniError Unit → List Event
  | .ok () => []
  | .error e => [.throwFailed className e]

/-- The course of reporting a failure and throwing an exception for it. -/
def excuse (entry : Entry) (report : Event) (className text : String) (r : Registry) (jvm : Jvm) :
    Course Value :=
  let thrown := jvm.perform (Jvm.raise ⟨className, entry.label ++ ": " ++ text⟩)
  ⟨cutsAt [report] r jvm ++ cutsAt (throwReport className thrown.1) r thrown.2,
    .ok (zero entry), r, thrown.2⟩

/-- The course of settling what the work of a call ended with. -/
def settle (entry : Entry) (r : Registry) (jvm : Jvm) :
    Except Payload (Except BridgeError Value) → Course Value
  | .ok (.ok value) => .pure value r jvm
  | .ok (.error e) => excuse entry (.callFailed entry e) e.exceptionClass e.message r jvm
  | .error p =>
    excuse entry (.callPanicked entry p.description) ExceptionClass.runtime p.description r jvm

theorem follows_throwJava (b : Bridge) (entry : Entry) (className text : String) :
    b.Follows (throwJava entry className text)
      (let thrown := b.jvm.perform (Jvm.raise ⟨className, entry.label ++ ": " ++ text⟩)
      .emit (throwReport className thrown.1) b.registry thrown.2) := by
  refine follows_onJvm_bind fun b' hr hj => ?_
  change b'.jvm = (b.jvm.perform (Jvm.raise _)).2 at hj
  change b'.Follows (match (b.jvm.perform (Jvm.raise _)).1 with
    | .ok () => pure ()
    | .error e => Bridge.emit (.throwFailed className e)) _
  dsimp only
  rw [← hr, ← hj]
  cases (b.jvm.perform (Jvm.raise ⟨className, entry.label ++ ": " ++ text⟩)).1 with
  | ok => exact b'.follows_pure ()
  | error e => exact b'.follows_emit _

theorem follows_excuse (b : Bridge) (entry : Entry) (report : Event) (className text : String) :
    b.Follows (do
        Bridge.emit report
        throwJava entry className text
        return zero entry)
      (excuse entry report className text b.registry b.jvm) := by
  refine Follows.bind (f := fun _ => throwJava entry className text >>= fun _ => pure (zero entry))
    (d := fun _ => ⟨_, .ok (zero entry), b.registry, _⟩) (b.follows_emit report) ?_
  intro b' _ _ hr hj _
  have hthrow := (follows_throwJava b' entry className text).map fun _ => zero entry
  rw [hr, hj] at hthrow
  exact hthrow

theorem follows_settle (b : Bridge) (entry : Entry)
    (result : Except Payload (Except BridgeError Value)) :
    b.Follows (do
        match result with
        | .ok (.ok value) => return value
        | .ok (.error e) =>
          Bridge.emit (.callFailed entry e)
          throwJava entry e.exceptionClass e.message
          return zero entry
        | .error p =>
          Bridge.emit (.callPanicked entry p.description)
          throwJava entry ExceptionClass.runtime p.description
          return zero entry) (settle entry b.registry b.jvm result) := by
  obtain p | e | value := result
  · exact follows_excuse ..
  · exact follows_excuse ..
  · exact b.follows_pure value

/-- The ending of a call whose work ends in a given way. -/
def settled (entry : Entry) (e : Ending (Except BridgeError Value)) : Ending Value :=
  let last := (settle entry e.registry e.jvm e.outcome).run e.alarm
  { last with events := e.events ++ last.events }

/-- Whether an event is reported by the guard of native calls. -/
def isGuardReport : Event → Bool
  | .callFailed .. | .callPanicked .. | .throwFailed .. => true
  | _ => false

theorem mem_cuts_settle {entry : Entry} {r : Registry} {jvm : Jvm}
    {result : Except Payload (Except BridgeError Value)} {cut : Cut}
    (h : cut ∈ (settle entry r jvm result).cuts) :
    isGuardReport cut.event = true ∧ cut.unwinding = [] ∧ cut.registry = r := by
  have excused {report : Event} {className text : String} (hreport : isGuardReport report = true)
      (h : cut ∈ (excuse entry report className text r jvm).cuts) :
      isGuardReport cut.event = true ∧ cut.unwinding = [] ∧ cut.registry = r := by
    rcases List.mem_append.1 h with h | h
    · obtain ⟨hevent, hunwinding, hregistry, -⟩ := of_mem_cutsAt h
      rw [List.mem_singleton.1 hevent]
      exact ⟨hreport, hunwinding, hregistry⟩
    · obtain ⟨hevent, hunwinding, hregistry, -⟩ := of_mem_cutsAt h
      refine ⟨?_, hunwinding, hregistry⟩
      unfold throwReport at hevent
      split at hevent
      next => cases hevent
      next =>
        rw [List.mem_singleton.1 hevent]
        rfl
  obtain p | e | value := result
  · exact excused rfl h
  · exact excused rfl h
  · cases h

theorem registry_settled (entry : Entry) (e : Ending (Except BridgeError Value)) :
    (settled entry e).registry = e.registry := by
  refine Course.left_run (P := fun r _ => r = e.registry)
    (fun _ h => (mem_cuts_settle h).2.2) ?_
  obtain p | err | value := e.outcome <;> rfl

/-- Where no alarm is set any more, a settled call returns. -/
theorem isOk_settled {e : Ending (Except BridgeError Value)} (silent : e.alarm = none)
    (entry : Entry) : (settled entry e).outcome.isOk = true := by
  unfold settled
  rw [silent, Course.run_none]
  obtain p | err | value := e.outcome <;> rfl

/-- Nothing but the guard's own events is reported after the work. -/
theorem exists_events_settled (entry : Entry) (e : Ending (Except BridgeError Value)) : ∃ rest,
    (settled entry e).events = e.events ++ rest ∧ ∀ x ∈ rest, isGuardReport x = true := by
  refine ⟨_, rfl, fun x h => ?_⟩
  obtain ⟨cut, hcut, hx⟩ := Course.mem_events_run h
  obtain ⟨hevent, hunwinding, -⟩ := mem_cuts_settle hcut
  rw [hunwinding] at hx
  obtain rfl := hx.resolve_right List.not_mem_nil
  exact hevent

theorem endsIn_guarded (entry : Entry) {act : Action (Except BridgeError Value)}
    {e : Ending (Except BridgeError Value)} (h : b.EndsIn act e) :
    b.EndsIn (guarded entry act) (settled entry e) := by
  refine h.attempt.bind_ok rfl fun b' hr hj ha _ => ?_
  have hsettle := follows_settle b' entry e.outcome
  unfold Bridge.Follows at hsettle
  rwa [hr, hj, ha] at hsettle

/-- **A native call ends in the ending of its work, settled.** -/
theorem endsIn_call (b : Bridge) (c : Call) (jvm : Jvm) (elapsed : UInt64) :
    b.EndsIn (call c jvm elapsed)
      (settled c.entry ((c.course b.performance elapsed b.registry jvm).run b.alarm)) := by
  obtain ⟨ho, hr, hj, he, ha, hs⟩ :=
    endsIn_guarded c.entry (follows_work { b with jvm } elapsed c)
  exact ⟨ho, hr, hj, he, ha, hs⟩

end Native

end PointBridge
