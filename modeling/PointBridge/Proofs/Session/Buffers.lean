import PointBridge.Proofs.Layout
import PointBridge.Proofs.Session.Natives

/-!
# The distance of two buffers

The native call for the distance of two buffers checks one thing after the other: whether the first
buffer is direct and tells its capacity, whether the second one is and does, and then whether the
first one and the second one are long enough for a point. The first check that fails decides about
the exception (`Session.buffer_distance_decides`). If none fails, the result depends on the first
eight bytes of each buffer only.
-/

namespace PointBridge

/-! ## Checks in a row -/

/-- A value that is given if no check fails; otherwise the first error is told. -/
def checked {ε α : Type} (errors : List (Option ε)) (value : α) : Except ε α :=
  (errors.findSome? id).elim (.ok value) .error

theorem checked_bind {ε α β : Type} {errors later : List (Option ε)} {value : α} {result : β}
    {f : α → Except ε β} (next : f value = checked later result) :
    (checked errors value >>= f) = checked (errors ++ later) result := by
  unfold checked at next ⊢
  rw [List.findSome?_append]
  cases errors.findSome? id with
  | none => exact next
  | some e => rfl

namespace Native

/-- The error of a buffer that is not direct. -/
def directness? (jvm : Jvm) (buffer : Jvm.Buffer) : Option BridgeError :=
  if jvm.locates buffer then none else some .notDirectBuffer

/-- The error of a buffer that does not tell its capacity. -/
def sizing? (jvm : Jvm) (buffer : Jvm.Buffer) : Option BridgeError :=
  (jvm.capacityError? buffer).map .jni

/-- The error of bytes that are too few for a point. -/
def shortness? (bytes : Bytes) : Option BridgeError :=
  if bytes.length < Point.layoutSize then
    some (.point (.bufferTooSmall Point.layoutSize bytes.length))
  else none

theorem bytesOf_eq_checked (jvm : Jvm) (buffer : Jvm.Buffer) :
    jvm.bytesOf buffer = checked [directness? jvm buffer, sizing? jvm buffer] buffer.contents := by
  unfold Jvm.bytesOf directness? sizing?
  cases jvm.locates buffer with
  | false => rfl
  | true => cases jvm.capacityError? buffer <;> rfl

theorem ofResult_distanceOfBuffers_eq_checked (x y : Bytes) : ∃ p q : Point,
    (Point.layoutSize ≤ x.length → Point.read? (x.take Point.layoutSize) = .ok p) ∧
    (Point.layoutSize ≤ y.length → Point.read? (y.take Point.layoutSize) = .ok q) ∧
    ofResult .double (Point.distanceOfBuffers x y) =
      checked [shortness? x, shortness? y] (.double (p.distance q)) := by
  obtain ⟨p, hp, first⟩ := Point.exists_read? x
  obtain ⟨q, hq, second⟩ := Point.exists_read? y
  refine ⟨p, q, first, second, ?_⟩
  unfold Point.distanceOfBuffers shortness?
  rw [hp, hq]
  split <;> split <;> rfl

/-- What is wrong with two buffers, in the order in which it is checked. -/
def bufferErrors (jvm : Jvm) (a b : Jvm.Buffer) : List (Option BridgeError) :=
  [directness? jvm a, sizing? jvm a] ++ ([directness? jvm b, sizing? jvm b] ++
    [shortness? a.contents, shortness? b.contents])

theorem outcome_bufferCourse_eq_checked (a b : Jvm.Buffer) (r : Registry) (jvm : Jvm) :
    ∃ p q : Point,
      (Point.layoutSize ≤ a.contents.length →
        Point.read? (a.contents.take Point.layoutSize) = .ok p) ∧
      (Point.layoutSize ≤ b.contents.length →
        Point.read? (b.contents.take Point.layoutSize) = .ok q) ∧
      (bufferCourse a b r jvm).outcome =
        .ok (checked (bufferErrors jvm a b) (.double (p.distance q))) := by
  obtain ⟨p, q, first, second, distance⟩ :=
    ofResult_distanceOfBuffers_eq_checked a.contents b.contents
  refine ⟨p, q, first, second, ?_⟩
  rw [outcome_bufferCourse, bytesOf_eq_checked, bytesOf_eq_checked]
  exact congrArg Except.ok (checked_bind (checked_bind distance))

/-! ## The exceptions -/

section Exceptions

variable (jvm : Jvm) (a b buffer : Jvm.Buffer)

/-- The exception for a reference to something else than a direct buffer. -/
def notDirect? : Option JavaException :=
  if jvm.locates buffer then none
  else some ⟨"java/lang/IllegalArgumentException", "BBPoint.distance: expected a direct ByteBuffer"⟩

/-- The exception for a buffer that does not tell its capacity. -/
def unsized? : Option JavaException :=
  (jvm.capacityError? buffer).map fun e =>
    ⟨"java/lang/IllegalArgumentException", "BBPoint.distance: JNI call failed: " ++ e.message⟩

/-- The exception for a buffer whose capacity is too small. -/
def tooShort? : Option JavaException :=
  if 8 ≤ buffer.capacity then none
  else some ⟨"java/lang/IndexOutOfBoundsException",
    "BBPoint.distance: buffer too small for point: required 8 bytes, got " ++
      toString buffer.capacity⟩

/-- The exceptions for two buffers, in the order in which the conditions are checked. -/
def bufferExceptions : List (Option JavaException) :=
  [notDirect? jvm a, unsized? jvm a, notDirect? jvm b, unsized? jvm b, tooShort? a, tooShort? b]

end Exceptions

/-- The exception that is intended for an error. -/
def intended (entry : Entry) (err : BridgeError) : JavaException :=
  ⟨err.exceptionClass, entry.label ++ ": " ++ err.message⟩

end Native

namespace Jvm

/-- A buffer has the memory that its capacity promises. -/
def Buffer.Backed (buffer : Buffer) : Prop := buffer.capacity ≤ buffer.memory.length

theorem Buffer.Backed.length_contents {buffer : Buffer} (backed : buffer.Backed) :
    buffer.contents.length = buffer.capacity := by
  unfold Buffer.contents
  rw [List.length_take, Nat.min_eq_left backed]

theorem Buffer.take_contents {buffer : Buffer} {n : Nat} (large : n ≤ buffer.capacity) :
    buffer.contents.take n = buffer.memory.take n := by
  rw [Buffer.contents, List.take_take, Nat.min_eq_left large]

/-- The machine gives access to a direct buffer, and its capacity is large enough for a point. -/
structure Accepts (jvm : Jvm) (buffer : Buffer) : Prop where
  direct : ∃ memory capacity, buffer = .direct memory (some capacity) ∧ 8 ≤ capacity
  address : jvm.Reaches .getDirectBufferAddress
  sized : jvm.Reaches .getDirectBufferCapacity

theorem accepts_iff {jvm : Jvm} {buffer : Buffer} : jvm.Accepts buffer ↔
    jvm.locates buffer = true ∧ jvm.capacityError? buffer = none ∧ 8 ≤ buffer.capacity := by
  constructor
  · rintro ⟨⟨memory, capacity, rfl, large⟩, address, sized⟩
    rw [← unreachable?_eq_none_iff] at address sized
    exact ⟨by simp [locates, address, Buffer.memory?], by simp [capacityError?, sized,
      Buffer.capacity?], large⟩
  · rintro ⟨located, told, large⟩
    obtain ⟨address, addressed⟩ := Bool.and_eq_true_iff.1 located
    obtain ⟨sized, tells⟩ := Option.or_eq_none_iff.1 told
    refine ⟨?_, (jvm.unreachable?_eq_none_iff _).1 (Option.isNone_iff_eq_none.1 address),
      (jvm.unreachable?_eq_none_iff _).1 sized⟩
    obtain _ | _ | ⟨memory, _ | capacity⟩ := buffer
    · cases addressed
    · cases addressed
    · cases tells
    · exact ⟨memory, capacity, rfl, large⟩

end Jvm

namespace Native

theorem map_directness? (jvm : Jvm) (buffer : Jvm.Buffer) :
    (directness? jvm buffer).map (intended .bufferDistance) = notDirect? jvm buffer := by
  unfold directness? notDirect?
  cases jvm.locates buffer <;> rfl

theorem map_sizing? (jvm : Jvm) (buffer : Jvm.Buffer) :
    (sizing? jvm buffer).map (intended .bufferDistance) = unsized? jvm buffer := by
  unfold sizing? unsized?
  rw [Option.map_map]
  refine congrArg (Option.map · _) (funext fun e => ?_)
  exact congrArg (JavaException.mk _) (String.append_assoc ..).symm

theorem map_shortness? {buffer : Jvm.Buffer} (backed : buffer.Backed) :
    (shortness? buffer.contents).map (intended .bufferDistance) = tooShort? buffer := by
  have hsize : Point.layoutSize = 8 := rfl
  unfold shortness? tooShort?
  rw [backed.length_contents, hsize]
  by_cases large : 8 ≤ buffer.capacity
  · rw [if_pos large, if_neg (Nat.not_lt.2 large)]
    rfl
  · rw [if_neg large, if_pos (Nat.lt_of_not_le large)]
    have hmessage : "BBPoint.distance" ++ ": " ++
        ("buffer too small for point: required " ++ toString 8 ++ " bytes, got ") =
          "BBPoint.distance: buffer too small for point: required 8 bytes, got " := by decide
    refine congrArg (fun text => some (JavaException.mk _ text)) ?_
    rw [← hmessage]
    exact String.append_assoc.symm

theorem bufferExceptions_eq (jvm : Jvm) {a b : Jvm.Buffer} (first : a.Backed)
    (second : b.Backed) : bufferExceptions jvm a b =
      (bufferErrors jvm a b).map (Option.map (intended .bufferDistance)) := by
  simp only [bufferErrors, List.cons_append, List.nil_append, List.map_cons, List.map_nil,
    map_directness?, map_sizing?, map_shortness? first, map_shortness? second]
  rfl

/-- Nothing is wrong with two buffers exactly if the machine gives access to both of them, and they
are large enough. -/
theorem findSome?_bufferErrors_eq_none_iff (jvm : Jvm) {a b : Jvm.Buffer} (first : a.Backed)
    (second : b.Backed) :
    (bufferErrors jvm a b).findSome? id = none ↔ jvm.Accepts a ∧ jvm.Accepts b := by
  have direct (buffer : Jvm.Buffer) : directness? jvm buffer = none ↔ jvm.locates buffer := by
    simp [directness?]
  have sized (buffer : Jvm.Buffer) : sizing? jvm buffer = none ↔ jvm.capacityError? buffer = none :=
    Option.map_eq_none_iff
  have large {buffer : Jvm.Buffer} (backed : buffer.Backed) :
      shortness? buffer.contents = none ↔ 8 ≤ buffer.capacity := by
    simp [shortness?, backed.length_contents, Point.layoutSize]
  simp only [bufferErrors, List.cons_append, List.nil_append, List.findSome?_eq_none_iff,
    List.forall_mem_cons, List.not_mem_nil, false_imp_iff, implies_true, and_true, id_eq, direct,
    sized, large first, large second, Jvm.accepts_iff]
  tauto

end Native

namespace Session

/-- **The distance of two buffers is decided by the first check that fails.** Let throwing work and
no exception be pending. If both buffers are direct, and their capacities large enough for a point,
the native call returns the distance of the points in the first eight bytes of each. Otherwise it
returns zero, with the first of the exceptions in the order of the checks. It leaves the registry
alone. -/
theorem buffer_distance_decides (s : Session) {jvm : Jvm} (throws : jvm.Throws)
    (idle : jvm.pending = none) {a b : Jvm.Buffer} (first : a.Backed) (second : b.Backed)
    (elapsed : UInt64) :
    let result := s.step ⟨.native (.bufferDistance a b) jvm elapsed, none⟩
    result.2.bridge.registry = s.bridge.registry ∧
    (jvm.Accepts a ∧ jvm.Accepts b → ∃ p q,
      Point.read? (a.memory.take 8) = .ok p ∧ Point.read? (b.memory.take 8) = .ok q ∧
      result.1.outcome = .ok (.native (.double (p.distance q)) none)) ∧
    (¬ (jvm.Accepts a ∧ jvm.Accepts b) → ∃ exception,
      (Native.bufferExceptions jvm a b).findSome? id = some exception ∧
      result.1.outcome = .ok (.native (.double .zero) (some exception))) := by
  intro result
  obtain ⟨p, q, atFirst, atSecond, work⟩ :=
    Native.outcome_bufferCourse_eq_checked a b s.bridge.registry jvm
  refine ⟨s.registry_step_of_buffers rfl jvm elapsed none, fun accepted => ?_, fun rejected => ?_⟩
  · have flawless := (Native.findSome?_bufferErrors_eq_none_iff jvm first second).2 accepted
    obtain ⟨hfirst, hsecond⟩ := accepted
    obtain ⟨-, -, hlength⟩ := Jvm.accepts_iff.1 hfirst
    obtain ⟨-, -, hlength'⟩ := Jvm.accepts_iff.1 hsecond
    have hp : Point.read? (a.contents.take 8) = .ok p := atFirst (first.length_contents ▸ hlength)
    have hq : Point.read? (b.contents.take 8) = .ok q :=
      atSecond (second.length_contents ▸ hlength')
    rw [Jvm.Buffer.take_contents hlength] at hp
    rw [Jvm.Buffer.take_contents hlength'] at hq
    refine ⟨p, q, hp, hq, ?_⟩
    rw [checked, flawless] at work
    rw [← idle]
    exact s.outcome_native_of_value elapsed work
  · rw [← Native.findSome?_bufferErrors_eq_none_iff jvm first second] at rejected
    obtain ⟨err, herr⟩ := Option.ne_none_iff_exists'.1 rejected
    have hexception : (Native.bufferExceptions jvm a b).findSome? id =
        some (Native.intended .bufferDistance err) := by
      rw [Native.bufferExceptions_eq jvm first second, List.findSome?_map]
      exact (List.map_findSome? ..).symm.trans (congrArg (Option.map _) herr)
    rw [checked, herr, Option.elim_some] at work
    obtain ⟨pending, outcome, raised⟩ :=
      s.exists_outcome_native_of_error (n := .bufferDistance a b) elapsed work
    rw [raised throws idle] at outcome
    exact ⟨_, hexception, outcome⟩

/-- The first buffer is too short, but the second one is not direct, which is noticed before
that. -/
theorem buffer_distance_decides_for_a_heap_buffer :
    let s : Session := {}
    let short : Jvm.Buffer := .direct [1, 2, 3, 4] (some 3)
    Jvm.Throws {} ∧ short.Backed ∧ Jvm.Buffer.heap.Backed ∧
      (s.step ⟨.native (.bufferDistance short .heap) {} 0, none⟩).1.outcome =
        .ok (.native (.double .zero) (some ⟨"java/lang/IllegalArgumentException",
          "BBPoint.distance: expected a direct ByteBuffer"⟩)) := by
  intro s short
  have throws : Jvm.Throws {} := ⟨by decide, by decide, by decide, rfl, rfl⟩
  have backed : short.Backed := by unfold Jvm.Buffer.Backed; decide
  have nothing : Jvm.Buffer.heap.Backed := Nat.le_refl 0
  obtain ⟨-, -, rejects⟩ := buffer_distance_decides s throws rfl backed nothing 0
  have rejected : ¬ (Jvm.Accepts {} short ∧ Jvm.Accepts {} .heap) := by
    rintro ⟨-, ⟨_, _, same, -⟩, -, -⟩
    cases same
  obtain ⟨exception, first, outcome⟩ := rejects rejected
  have hfirst : (Native.bufferExceptions {} short .heap).findSome? id =
      some ⟨"java/lang/IllegalArgumentException",
        "BBPoint.distance: expected a direct ByteBuffer"⟩ := by decide
  obtain rfl := Option.some.inj (hfirst.symm.trans first)
  exact ⟨throws, backed, nothing, outcome⟩

end Session

end PointBridge
