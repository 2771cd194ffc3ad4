import PointBridge.Proofs.Arena.Moves
import PointBridge.Proofs.Course
import PointBridge.Registry

/-!
# The course of a call to the registry

A call to the registry is a command to its arena (`follows_call`): it answers what the arena
answers and leaves the arena that the command leaves. `Call.course` adds to that the events, and
what a panic at each of them leaves: a panic at the report about the poisoned lock leaves the arena
as it was, and any later one the arena as the call would have left it. The lock is given back in
every case, and it is poisoned after a panic at an event that is reported under it.

Only an allocation from a full arena panics by itself, which poisons the lock too.
-/

namespace PointBridge

open Trace (Event)

/-! ## The lock -/

namespace Registry

/-- The registry while its lock is held. -/
def locked (r : Registry) : Registry := { r with held := true }

/-- The events of taking the lock. -/
def lockEvents (r : Registry) : List Event := if r.poisoned then [.registryPoisoned] else []

end Registry

/-- The ending once the lock is given back. -/
def Ending.unlocked {α : Type} (e : Ending α) : Ending α :=
  { e with registry := e.registry.unlocked (!e.outcome.isOk) }

namespace Course

variable {α : Type}

/-- The course once the lock is given back at its end, and at each of its cuts. -/
def unlocked (c : Course α) : Course α where
  cuts := c.cuts.map fun cut => { cut with registry := cut.registry.unlocked true }
  outcome := c.outcome
  registry := c.registry.unlocked (!c.outcome.isOk)
  jvm := c.jvm

theorem run_unlocked (c : Course α) (alarm : Option Alarm) :
    c.unlocked.run alarm = (c.run alarm).unlocked := by
  unfold run unlocked
  rw [List.foldr_map]
  change c.cuts.foldr _ (c.last alarm).unlocked = _
  refine List.foldr_hom Ending.unlocked fun cut rest => ?_
  unfold Cut.meet
  cases panicAt alarm cut.event <;> rfl

end Course

/-- The bridge with another registry. -/
def Bridge.withRegistry (b : Bridge) (r : Registry) : Bridge := { b with registry := r }

namespace Registry

open Bridge (Action Follows emit)

variable {α β : Type} {b : Bridge}

theorem carryOut_underLock (b : Bridge) (act : Action α) :
    b.carryOut (underLock act) =
      let r := (b.withRegistry b.registry.locked).carryOut (reportPoison >>= fun _ => act)
      (r.1, r.2.withRegistry (r.2.registry.unlocked (!r.1.isOk))) := by
  have htake : b.carryOut take = (.ok (), b.withRegistry b.registry.locked) := rfl
  unfold underLock
  rw [Bridge.carryOut_bind, htake, Bridge.andThen_ok, Bridge.carryOut_bind,
    Bridge.carryOut_attempt, Bridge.andThen_ok, Bridge.carryOut_bind]
  exact Bridge.carryOut_resume _ _

theorem follows_reportPoison (b : Bridge) :
    b.Follows reportPoison (.emit b.registry.lockEvents b.registry b.jvm) := by
  unfold reportPoison lockEvents
  refine Follows.get ?_
  split
  next => exact Bridge.follows_emit b .registryPoisoned
  next => exact Bridge.follows_pure b ()

/-- An action goes on from the arena that was put in place. -/
theorem follows_setArena_bind {a : Arena} {rest : Unit → Action α} {c : Course α}
    (h : ∀ b' : Bridge, b'.registry = { b.registry with arena := a } → b'.jvm = b.jvm →
      b'.Follows (rest ()) c) : b.Follows (setArena a >>= rest) c := by
  have first : b.Follows (setArena a) (.pure () { b.registry with arena := a } b.jvm) :=
    ⟨rfl, rfl, rfl, (List.append_nil _).symm, rfl, rfl⟩
  exact first.bind (d := fun _ => c) fun b' _ _ hr hj _ => h b' hr hj

/-! ## Operations -/

/-- The course of an operation that leaves an arena in place and reports some events under the lock
and some after it is given back. -/
def operation (r : Registry) (jvm : Jvm) (inside after : List Event) (a : Arena)
    (outcome : Except Payload α) : Course α where
  cuts :=
    cutsAt r.lockEvents (r.unlocked true) jvm ++ cutsAt inside ⟨a, true, false⟩ jvm ++
      cutsAt after ⟨a, r.poisoned, false⟩ jvm
  outcome := outcome
  registry := ⟨a, r.poisoned || !outcome.isOk, false⟩
  jvm := jvm

/-- An action that puts an arena in place and reports some events does so under the lock, which it
takes before. -/
theorem follows_underLock {act : Action α} {inside : List Event} {a : Arena}
    {outcome : Except Payload α}
    (h : ∀ b' : Bridge, b'.registry = b.registry.locked → b'.jvm = b.jvm →
      b'.Follows act
        ⟨cutsAt inside { b.registry.locked with arena := a } b.jvm, outcome,
          { b.registry.locked with arena := a }, b.jvm⟩) :
    b.Follows (underLock act) (operation b.registry b.jvm inside [] a outcome) := by
  have within : (b.withRegistry b.registry.locked).Follows (reportPoison >>= fun _ => act) _ :=
    (follows_reportPoison _).bind fun b' _ _ hr hj _ => h b' hr hj
  obtain ⟨ho, hr, hj, he, ha, hs⟩ := within
  have hcourse : operation b.registry b.jvm inside [] a outcome = Course.unlocked
      ((Course.emit b.registry.lockEvents b.registry.locked b.jvm).bind fun _ =>
        ⟨cutsAt inside { b.registry.locked with arena := a } b.jvm, outcome,
          { b.registry.locked with arena := a }, b.jvm⟩) := by
    simp [operation, Course.unlocked, Course.bind, Course.emit, cutsAt, unlocked, locked,
      Function.comp_def]
  unfold Follows
  rw [hcourse, Course.run_unlocked]
  constructor <;> rw [carryOut_underLock]
  · exact ho
  · exact congrArg₂ Registry.unlocked hr (congrArg (fun o => !o.isOk) ho)
  · exact hj
  · exact he
  · exact ha
  · exact hs

theorem follows_reading (b : Bridge) (read : Arena → α) :
    b.Follows (reading read)
      (operation b.registry b.jvm [] [] b.registry.arena (.ok (read b.registry.arena))) := by
  refine follows_underLock fun b' hr hj => Follows.get ?_
  have h := Bridge.follows_pure b' (read b'.registry.arena)
  rw [hr, hj] at h
  rw [hr]
  exact h

/-- The course of a change of the arena that may be refused, with what is reported if it is not. -/
def changeCourse (r : Registry) (jvm : Jvm) (report : α → List Event) :
    Except PointError (α × Arena) → Course (Except PointError α)
  | .ok (value, a) => operation r jvm [] (report value) a (.ok (.ok value))
  | .error e => operation r jvm [] [] r.arena (.ok (.error e))

theorem follows_changing (b : Bridge) (change : Arena → Except PointError (α × Arena)) :
    b.Follows (changing change)
      (changeCourse b.registry b.jvm (fun _ => []) (change b.registry.arena)) := by
  cases hchange : change b.registry.arena with
  | ok result =>
    obtain ⟨value, a⟩ := result
    refine follows_underLock fun b' hr hj => Follows.get ?_
    have harena : b'.registry.arena = b.registry.arena := by rw [hr]; rfl
    rw [harena, hchange]
    refine follows_setArena_bind fun b'' hr' hj' => ?_
    have h := Bridge.follows_pure b'' (Except.ok value : Except PointError α)
    rwa [hr', hj', hr, hj] at h
  | error e =>
    refine follows_underLock fun b' hr hj => Follows.get ?_
    have harena : b'.registry.arena = b.registry.arena := by rw [hr]; rfl
    have h := Bridge.follows_pure b' (Except.error e : Except PointError α)
    rw [hr, hj] at h
    rw [harena, hchange]
    exact h

/-- An operation that goes on, and may report more, once the lock is given back. -/
theorem follows_operation_bind {act : Action α} {inside after : List Event} {a : Arena} {value : α}
    (h : b.Follows act (operation b.registry b.jvm inside [] a (.ok value))) {f : α → Action β}
    {result : β} (hf : ∀ b' : Bridge,
      b'.Follows (f value) ((Course.emit after b'.registry b'.jvm).map fun _ => result)) :
    b.Follows (act >>= f) (operation b.registry b.jvm inside after a (.ok result)) := by
  have hcourse : operation b.registry b.jvm inside after a (.ok result) =
      (operation b.registry b.jvm inside [] a (.ok value)).bind fun _ =>
        (Course.emit after ⟨a, b.registry.poisoned, false⟩ b.jvm).map fun _ => result := by
    simp [operation, Course.bind, Course.map, Course.emit, cutsAt, Except.map, Except.isOk,
      Except.toBool]
  rw [hcourse]
  refine h.bind fun b' v ok hr hj _ => ?_
  obtain rfl : value = v := Except.ok.inj ok
  have hr' : b'.registry = ⟨a, b.registry.poisoned, false⟩ := by
    rw [hr]
    simp [operation, Except.isOk, Except.toBool]
  have hafter := hf b'
  rwa [hr', hj] at hafter

/-- An allocation from a full arena panics under the lock. -/
theorem follows_allocate_of_full (full : b.registry.arena.isFull = true) :
    b.Follows allocate (operation b.registry b.jvm [] [] b.registry.arena
      (.error (.owned Arena.exhaustedText))) := by
  have inside : b.Follows (underLock addPoint) (operation b.registry b.jvm [] []
      b.registry.arena (.error (.owned Arena.exhaustedText))) := by
    refine follows_underLock fun b' hr hj => Follows.get ?_
    have hfull : b'.registry.arena.isFull = true := by rw [hr]; exact full
    have h := Bridge.follows_throw (α := Handle) b' (.owned Arena.exhaustedText)
    rw [hr, hj] at h
    simp only [hfull, if_true]
    exact h
  exact inside.bind (d := fun h => .pure h b.registry b.jvm) fun _ _ ok => by cases ok

theorem follows_allocate_of_room (room : b.registry.arena.isFull = false) :
    b.Follows allocate
      (let r := b.registry.arena.allocate
      operation b.registry b.jvm r.events [.pointAllocated r.handle] r.arena (.ok r.handle)) := by
  refine follows_operation_bind (follows_underLock fun b' hr hj => Follows.get ?_)
    fun b' => (b'.follows_emit _).map _
  have hroom : b'.registry.arena.isFull = false := by rw [hr]; exact room
  have harena : b'.registry.arena = b.registry.arena := by rw [hr]; rfl
  simp only [hroom, Bool.false_eq_true, if_false]
  refine follows_setArena_bind fun b'' hr' hj' => ?_
  have h := (b''.follows_emitAll b.registry.arena.allocate.events).map
    fun _ => b.registry.arena.allocate.handle
  rw [hr', hj', hr, hj] at h
  rw [harena]
  exact h

theorem follows_free (b : Bridge) (h : Handle) :
    b.Follows (free h)
      (changeCourse b.registry b.jvm (fun p => [.pointReleased h p])
        (b.registry.arena.release h)) := by
  have inside := follows_changing b (·.release h)
  unfold free
  cases hrelease : b.registry.arena.release h with
  | ok result =>
    rw [hrelease] at inside
    exact follows_operation_bind inside fun b' => (b'.follows_emit _).map _
  | error e =>
    rw [hrelease] at inside
    exact follows_operation_bind inside fun b' => b'.follows_pure _

theorem follows_clear (b : Bridge) :
    b.Follows clear (operation b.registry b.jvm [.registryCleared b.registry.arena.size] []
      b.registry.arena.clear (.ok ())) := by
  refine follows_underLock fun b' hr hj => Follows.get ?_
  have harena : b'.registry.arena = b.registry.arena := by rw [hr]; rfl
  refine follows_setArena_bind fun b'' hr' hj' => ?_
  have h := b''.follows_emit (.registryCleared b.registry.arena.size)
  rw [hr', hj', hr, hj] at h
  rw [harena]
  exact h

/-! ## Calls as commands -/

/-- The command to the arena that a call gives. -/
def Call.command : Call → Arena.Command
  | .allocate => .allocate
  | .free h => .release h
  | .getX h => .getX h
  | .getY h => .getY h
  | .setX h x => .setX h x
  | .setY h y => .setY h y
  | .distance h k => .distance h k
  | .livePoints => .size
  | .clear => .clear

/-- What a call reports under the lock besides what the arena reports. -/
def Call.reportInside (a : Arena) : Call → List Event
  | .clear => [.registryCleared a.size]
  | _ => []

/-- What a call reports about its own success once the lock is given back. -/
def Call.reportAfter : Call → Arena.Answer → List Event
  | .allocate, .handle h => [.pointAllocated h]
  | .free h, .point p => [.pointReleased h p]
  | _, _ => []

/-- What a call ends with if the arena answers so. -/
def outcomeOf : Arena.Answer → Except Payload Arena.Answer
  | .exhausted => .error (.owned Arena.exhaustedText)
  | answer => .ok answer

/-- The course of a call. -/
def Call.course (c : Call) (r : Registry) (jvm : Jvm) : Course Arena.Answer :=
  let o := r.arena.perform c.command
  operation r jvm (o.events ++ c.reportInside r.arena) (c.reportAfter o.answer) o.arena
    (outcomeOf o.answer)

theorem outcomeOf_of_ne {answer : Arena.Answer} (h : answer ≠ .exhausted) :
    outcomeOf answer = .ok answer := by
  unfold outcomeOf
  split
  next => exact absurd rfl h
  next => rfl

theorem outcomeOf_ofResult {say : α → Arena.Answer} (h : ∀ value, say value ≠ .exhausted)
    (result : Except PointError α) :
    outcomeOf (.ofResult say result) = .ok (.ofResult say result) := by
  cases result with
  | ok value => exact outcomeOf_of_ne (h value)
  | error e => rfl

/-- A call that reads follows the course of a reading command. -/
theorem follows_saying_reading (b : Bridge) (read : Arena → Except PointError α)
    {say : α → Arena.Answer} (h : ∀ value, say value ≠ .exhausted) :
    b.Follows (reading read >>= fun r => pure (.ofResult say r))
      (operation b.registry b.jvm [] [] b.registry.arena
        (outcomeOf (.ofResult say (read b.registry.arena)))) := by
  rw [outcomeOf_ofResult h]
  exact follows_operation_bind (follows_reading b read) fun b' => b'.follows_pure _

/-- A call that writes follows the course of a writing command. -/
theorem follows_saying_writing (b : Bridge) (write : Arena → Except PointError Arena) :
    b.Follows (writing write >>= fun r => pure (.ofResult (fun _ => .done) r))
      (let o := b.registry.arena.writing (write b.registry.arena)
      operation b.registry b.jvm (o.events ++ []) [] o.arena (outcomeOf o.answer)) := by
  have inside := follows_changing b fun arena => (write arena).map ((), ·)
  cases hwrite : write b.registry.arena with
  | ok a =>
    rw [hwrite] at inside
    exact follows_operation_bind inside fun b' => b'.follows_pure _
  | error e =>
    rw [hwrite] at inside
    exact follows_operation_bind inside fun b' => b'.follows_pure _

/-- **A call is a command to the arena of the registry**, whatever the alarm. -/
theorem follows_call (b : Bridge) (c : Call) : b.Follows (call c) (c.course b.registry b.jvm) := by
  cases c with
  | allocate =>
    unfold call Call.course Call.command
    cases hfull : b.registry.arena.isFull with
    | true =>
      rw [Arena.perform_allocate_of_full hfull]
      exact (follows_allocate_of_full hfull).map Arena.Answer.handle
    | false =>
      rw [Arena.perform_allocate_of_room hfull]
      simp only [Call.reportInside, List.append_nil]
      exact (follows_allocate_of_room hfull).map Arena.Answer.handle
  | free h =>
    have inside := follows_free b h
    simp only [Call.course, Call.command, Arena.perform]
    unfold call
    cases hrelease : b.registry.arena.release h with
    | ok result =>
      rw [hrelease] at inside
      exact inside.map (Arena.Answer.ofResult Arena.Answer.point)
    | error e =>
      rw [hrelease] at inside
      exact inside.map (Arena.Answer.ofResult Arena.Answer.point)
  | getX h => exact follows_saying_reading b _ nofun
  | getY h => exact follows_saying_reading b _ nofun
  | setX h x => exact follows_saying_writing b (·.setX h x)
  | setY h y => exact follows_saying_writing b (·.setY h y)
  | distance h k => exact follows_saying_reading b _ nofun
  | livePoints =>
    exact follows_operation_bind (follows_reading b Arena.size) fun b' => b'.follows_pure _
  | clear => exact follows_operation_bind (follows_clear b) fun b' => b'.follows_pure _

/-! ## Calls on a quiet bridge -/

section Quiet

variable {c : Call} (quiet : b.alarm = none)
include quiet

/-- Where no alarm is set and there is room, a call answers what the arena answers. -/
theorem carryOut_call_fst (room : c = .allocate → b.registry.arena.isFull = false) :
    (b.carryOut (call c)).1 = .ok (b.registry.arena.perform c.command).answer := by
  have ends := (follows_call b c).quietly quiet
  have hne : (b.registry.arena.perform c.command).answer ≠ .exhausted := by
    intro e
    obtain ⟨hc, hfull⟩ := Arena.answer_eq_exhausted_iff.1 e
    have hc' : c = .allocate := by cases c <;> first | rfl | cases hc
    rw [room hc'] at hfull
    exact Bool.false_ne_true hfull
  exact ends.outcome.trans (outcomeOf_of_ne hne)

/-- A quiet bridge is quiet after a call, and its arena is as the command leaves it, also where
the call panics. -/
theorem carryOut_call_snd :
    (b.carryOut (call c)).2.alarm = none ∧
      (b.carryOut (call c)).2.registry.arena = (b.registry.arena.perform c.command).arena := by
  have ends := (follows_call b c).quietly quiet
  exact ⟨ends.alarm, congrArg arena ends.registry⟩

end Quiet

end Registry

end PointBridge
