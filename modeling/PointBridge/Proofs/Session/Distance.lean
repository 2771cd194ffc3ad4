import PointBridge.Proofs.Arena.Assignment
import PointBridge.Proofs.Binary64
import PointBridge.Proofs.Layout
import PointBridge.Proofs.Session.Natives

/-!
# The forms of the distance

The distance of two points can be had by value, by reference and by pointer, from an arena, from the
registry and by a native call on two handles, and from memory and by a native call on two buffers.
All of these give what `Point.distance` gives (`Session.distance_forms_agree`), also where the sum
of the squares wraps around to a negative one and there is no root
(`Point.distance_of_wrappedSquare_neg`).
-/

namespace PointBridge

/-- Where the sum of the squares wraps around to a negative one, the distance is no number. -/
theorem Point.distance_of_wrappedSquare_neg {p q : Point} (negative : p.wrappedSquare q < 0) :
    p.distance q = .nan := by
  have hlow := (p.wrappedSquare q).le_toInt
  have hneg : (p.wrappedSquare q).toInt < 0 := Int32.lt_iff_toInt_lt.1 negative
  exact Binary64.sqrt_ofInt_of_neg hneg (by omega)

namespace Session

/-! ## Distances on a quiet bridge -/

/-- A native call on two direct buffers that hold a point each returns the distance, where the
functions for the address and the capacity of a buffer can be reached. -/
theorem outcome_bufferDistance (s : Session) {jvm : Jvm} (access : jvm.access = .full)
    (address : Jvm.Function.getDirectBufferAddress.name ∉ jvm.missing)
    (sized : Jvm.Function.getDirectBufferCapacity.name ∉ jvm.missing) {m n : Bytes} {i j : Nat}
    {d : Binary64} (hd : Point.distanceOfBuffers (m.take i) (n.take j) = .ok d)
    (elapsed : UInt64) :
    (s.step ⟨.native (.bufferDistance (.direct m (some i)) (.direct n (some j))) jvm elapsed,
      none⟩).1.outcome = .ok (.native (.double d) jvm.pending) := by
  have located : jvm.unreachable? .getDirectBufferAddress = none :=
    (jvm.unreachable?_eq_none_iff _).2 ⟨access, address⟩
  have told : jvm.unreachable? .getDirectBufferCapacity = none :=
    (jvm.unreachable?_eq_none_iff _).2 ⟨access, sized⟩
  have found (memory : Bytes) (capacity : Nat) :
      jvm.bytesOf (.direct memory (some capacity)) = .ok (memory.take capacity) := by
    simp [Jvm.bytesOf, Jvm.locates, Jvm.capacityError?, located, told, Jvm.Buffer.memory?,
      Jvm.Buffer.capacity?, Jvm.Buffer.contents, Jvm.Buffer.memory, Jvm.Buffer.capacity]
  refine s.outcome_native_of_value elapsed ?_
  refine (Native.outcome_bufferCourse _ _ s.bridge.registry jvm).trans ?_
  rw [found, found]
  exact congrArg (fun result => Except.ok (Native.ofResult .double result)) hd

/-- The registry and a native call on two handles give the distance that the arena gives. -/
theorem outcome_distance (s : Session) {h k : Handle} {d : Binary64}
    (hd : s.bridge.registry.arena.distance h k = .ok d) :
    (s.step ⟨.registry (.distance h k), none⟩).1.outcome = .ok (.registry (.distance d)) ∧
    ∀ jvm elapsed,
      (s.step ⟨.native (.handleDistance h.toSigned k.toSigned) jvm elapsed, none⟩).1.outcome =
        .ok (.native (.double d) jvm.pending) := by
  have answers : Registry.outcomeOf (s.bridge.registry.arena.perform (.distance h k)).answer =
      .ok (.distance d) := by
    change Registry.outcomeOf (.ofResult _ (s.bridge.registry.arena.distance h k)) = _
    rw [hd]
    rfl
  refine ⟨?_, fun jvm elapsed => ?_⟩
  · rw [s.outcome_plain, Registry.Call.command, answers]
    rfl
  · refine s.outcome_native_of_value elapsed ?_
    exact congrArg (Except.map Native.ofAnswer) answers

/-! ## Agreement -/

/-- All forms of the distance of two points give the same: the points may be referred to, asked
about each other, passed to a foreign function by value or by pointer, named by handles in an arena
or in the registry after requests that give them their coordinates, by a plain or by a native call,
or lie in memory or in direct buffers that were written before. -/
structure DistanceFormsAgree (p q : Point) : Prop where
  byReference : p.distanceByReference q = p.distance q
  toOther : p.distanceTo q = p.distance q
  foreign (s : Session) (alarm : Option Alarm) :
    (s.step ⟨.foreignDistance p q, alarm⟩).1.outcome = .ok (.distance (p.distance q))
  foreignPointers (s : Session) (alarm : Option Alarm) :
    (s.step ⟨.foreignPointers (some p) (some q), alarm⟩).1.outcome =
      .ok (.distance (p.distance q))
  arena (a : Arena) (reachable : a.Reachable) (cs : List Arena.Command) (h k : Handle)
    (first : a.Assigns h p cs) (second : a.Assigns k q cs) :
    (a.performAll cs).distance h k = .ok (p.distance q)
  registry (s : Session) (reachable : s.bridge.registry.arena.Reachable) (requests : List Request)
    (calls : List Registry.Call) (make : requests.map Request.registryCall? = calls.map some)
    (h k : Handle) (first : s.bridge.registry.arena.Assigns h p (calls.map (·.command)))
    (second : s.bridge.registry.arena.Assigns k q (calls.map (·.command))) :
    let s' := (s.run (requests.map (⟨·, none⟩))).2
    (s'.step ⟨.registry (.distance h k), none⟩).1.outcome =
        .ok (.registry (.distance (p.distance q))) ∧
      ∀ jvm elapsed,
        (s'.step ⟨.native (.handleDistance h.toSigned k.toSigned) jvm elapsed, none⟩).1.outcome =
          .ok (.native (.double (p.distance q)) jvm.pending)
  memory (a b a' b' : Bytes) (first : Point.write? a p = .ok a')
    (second : Point.write? b q = .ok b') :
    Point.distanceOfBuffers a' b' = .ok (p.distance q)
  buffers (s : Session) (jvm : Jvm) (access : jvm.access = .full)
    (address : Jvm.Function.getDirectBufferAddress.name ∉ jvm.missing)
    (sized : Jvm.Function.getDirectBufferCapacity.name ∉ jvm.missing) (elapsed : UInt64)
    (a b m n : Bytes) (i j : Nat) (first : Point.write? a p = .ok (m.take i))
    (second : Point.write? b q = .ok (n.take j)) :
    (s.step ⟨.native (.bufferDistance (.direct m (some i)) (.direct n (some j))) jvm elapsed,
      none⟩).1.outcome = .ok (.native (.double (p.distance q)) jvm.pending)

/-- **All forms of the distance agree on every pair of points**, and the distance of a null pointer
to another pointer, or of a pointer to a null pointer, is no number. -/
theorem distance_forms_agree :
    (∀ p q : Point, DistanceFormsAgree p q) ∧
    (∀ p q : Point, p.wrappedSquare q < 0 → p.distance q = .nan) ∧
    ∀ (s : Session) (x y : Option Point), x = none ∨ y = none →
      (s.step ⟨.foreignPointers x y, none⟩).1.outcome = .ok (.distance .nan) := by
  refine ⟨fun p q => ?_, fun p q => Point.distance_of_wrappedSquare_neg, fun s x y null => ?_⟩
  · constructor
    case byReference => rfl
    case toOther => rfl
    case foreign => exact fun s alarm => rfl
    case foreignPointers => exact fun s alarm => rfl
    case arena =>
      intro a reachable cs h k first second
      exact first.distance_performAll second reachable.consistent
    case registry =>
      intro s reachable requests calls make h k first second
      refine outcome_distance _ ?_
      rw [s.arena_run_of_calls make]
      exact first.distance_performAll second reachable.consistent
    case memory =>
      intro a b a' b' first second
      exact Point.distanceOfBuffers_of_write? first second
    case buffers =>
      intro s jvm access address sized elapsed a b m n i j first second
      exact s.outcome_bufferDistance access address sized
        (Point.distanceOfBuffers_of_write? first second) elapsed
  · rcases null with rfl | rfl
    · rfl
    · cases x <;> rfl

/-- Two points whose squares wrap around, set by the registry and by natives in turn, seen by a
native that has no environment. -/
theorem distance_forms_agree_where_squares_wrap :
    let p : Point := ⟨-23170, 5⟩
    let q : Point := ⟨23171, 5⟩
    let requests : List Request := [.native .allocate {} 0, .registry .allocate,
      .registry (.setY (.pack 0 1) 5), .native (.setX 0x100000001 23171) {} 0,
      .native (.setX 0x100000000 (-23170)) {} 0, .registry (.setY (.pack 1 1) 5)]
    let s := (run {} (requests.map (⟨·, none⟩))).2
    p.wrappedSquare q < 0 ∧
      (s.step ⟨.native (.handleDistance 0x100000000 0x100000001) { access := .nullEnvironment } 0,
        none⟩).1.outcome = .ok (.native (.double .nan) none) := by
  intro p q requests s
  obtain ⟨agree, wraps, -⟩ := distance_forms_agree
  have negative : p.wrappedSquare q < 0 := by decide
  have nan : p.distance q = .nan := wraps p q negative
  -- both points are live behind the two allocations
  let live : List Arena.Command := [.allocate, .allocate]
  let set : List Arena.Command :=
    [.setY (.pack 0 1) 5, .setX (.pack 1 1) 23171, .setX (.pack 0 1) (-23170), .setY (.pack 1 1) 5]
  have first : Arena.empty.Assigns (.pack 0 1) p (live ++ set) :=
    .behind (by decide) (by decide) rfl rfl
  have second : Arena.empty.Assigns (.pack 1 1) q (live ++ set) :=
    .behind (by decide) (by decide) rfl rfl
  obtain ⟨-, natives⟩ := (agree p q).registry {} .empty requests
    [.allocate, .allocate, .setY (.pack 0 1) 5, .setX (.pack 1 1) 23171,
      .setX (.pack 0 1) (-23170), .setY (.pack 1 1) 5] rfl _ _ first second
  rw [nan] at natives
  exact ⟨negative, natives _ _⟩

end Session

end PointBridge
