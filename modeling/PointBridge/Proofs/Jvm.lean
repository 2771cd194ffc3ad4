import PointBridge.Proofs.CarryOut

/-!
# The virtual machine in a native call

`Jvm.perform` gives what a computation on the machine ends with and the machine after it. A function
is called where it can be reached, and otherwise the call fails for a reason that only depends on
the pointers and on the table (`Jvm.perform_invoke`). Looking into a buffer only adds to the calls
that reached the machine, whatever the machine does (`Jvm.like_bufferBytes`), and gives what
`Jvm.bytesOf` says (`Jvm.fst_run_bufferBytes`).
-/

namespace PointBridge

namespace Jvm

/-! ## Computations on the machine -/

section Performing

variable {α β : Type} (jvm : Jvm)

/-- What a computation on the machine ends with, and the machine after it. -/
def perform (act : Action α) : Except JniError α × Jvm := act.run.run jvm

@[simp] theorem perform_bind (act : Action α) (f : α → Action β) :
    jvm.perform (act >>= f) = match jvm.perform act with
      | (.ok value, jvm') => jvm'.perform (f value)
      | (.error e, jvm') => (.error e, jvm') := by
  unfold perform
  rw [run_run_bind]
  rcases act.run.run jvm with ⟨r | r, jvm'⟩ <;> rfl

@[simp] theorem perform_map (f : α → β) (act : Action α) :
    jvm.perform (f <$> act) = ((jvm.perform act).1.map f, (jvm.perform act).2) := by
  rw [map_eq_pure_bind, perform_bind]
  rcases jvm.perform act with ⟨r | r, jvm'⟩ <;> rfl

@[simp] theorem perform_pure (value : α) : jvm.perform (pure value) = (.ok value, jvm) := rfl

@[simp] theorem perform_throw (e : JniError) :
    jvm.perform (throw e : Action α) = (.error e, jvm) := rfl

@[simp] theorem perform_get : jvm.perform get = (.ok jvm, jvm) := rfl

@[simp] theorem perform_set (jvm' : Jvm) : jvm.perform (set jvm') = (.ok (), jvm') := rfl

@[simp] theorem perform_modify (f : Jvm → Jvm) : jvm.perform (modify f) = (.ok (), f jvm) := rfl

@[simp] theorem perform_tryCatch (act : Action α) (f : JniError → Action α) :
    jvm.perform (tryCatch act f) = match jvm.perform act with
      | (.ok value, jvm') => (.ok value, jvm')
      | (.error e, jvm') => jvm'.perform (f e) := by
  unfold perform
  rw [run_run_tryCatch]
  rcases act.run.run jvm with ⟨r | r, jvm'⟩ <;> rfl

/-- A computation that cannot fail goes on with what another one ended with. -/
theorem run_run_bind_perform (act : Action α) (f : Except JniError α → StateM Jvm β) :
    (act.run >>= f).run jvm = (f (jvm.perform act).1).run (jvm.perform act).2 := rfl

end Performing

/-! ## Reaching functions -/

/-- A function can be called: the pointers can be followed, and the table has it. -/
def Reaches (jvm : Jvm) (f : Function) : Prop := jvm.access = .full ∧ f.name ∉ jvm.missing

instance (jvm : Jvm) (f : Function) : Decidable (jvm.Reaches f) :=
  inferInstanceAs (Decidable (_ ∧ _))

/-- Why a function cannot be called, if it cannot. -/
def unreachable? (jvm : Jvm) (f : Function) : Option JniError :=
  match jvm.access with
  | .nullEnvironment => some (.nullDereference "JNIEnv")
  | .nullTable => some (.nullDereference "*JNIEnv")
  | .full => if f.name ∈ jvm.missing then some (.missingFunction f.name) else none

section Reaching

variable (jvm : Jvm) (f : Function)

theorem unreachable?_eq_none_iff : jvm.unreachable? f = none ↔ jvm.Reaches f := by
  unfold unreachable? Reaches
  cases jvm.access <;> simp

theorem perform_invoke : jvm.perform (invoke f) = match jvm.unreachable? f with
    | none => (.ok (), jvm.noteCall f)
    | some fault => (.error fault, jvm) := by
  unfold unreachable?
  cases hacc : jvm.access with
  | nullEnvironment => simp [invoke, hacc]
  | nullTable => simp [invoke, hacc]
  | full => by_cases hm : f.name ∈ jvm.missing <;> simp [invoke, hacc, hm]

end Reaching

/-! ## What calls add -/

/-- Another machine differs from this one in nothing but further calls that reached it, none of
which throws. -/
def Like (jvm jvm' : Jvm) : Prop :=
  ∃ made : List Call, jvm' = { jvm with calls := jvm.calls ++ made } ∧
    ∀ c ∈ made, c.function ≠ .throwNew

namespace Like

variable {jvm jvm' jvm'' : Jvm}

theorem refl (jvm : Jvm) : jvm.Like jvm := ⟨[], by simp, nofun⟩

theorem trans (h : jvm.Like jvm') (h' : jvm'.Like jvm'') : jvm.Like jvm'' := by
  obtain ⟨made, rfl, harmless⟩ := h
  obtain ⟨later, rfl, harmless'⟩ := h'
  exact ⟨made ++ later, by simp, List.forall_mem_append.2 ⟨harmless, harmless'⟩⟩

theorem noteCall (jvm : Jvm) {f : Function} (harmless : f ≠ .throwNew) :
    jvm.Like (jvm.noteCall f) := ⟨_, rfl, List.forall_mem_singleton.2 harmless⟩

theorem pending (h : jvm.Like jvm') : jvm'.pending = jvm.pending := by
  obtain ⟨made, rfl, -⟩ := h
  rfl

theorem reaches_iff (h : jvm.Like jvm') (f : Function) : jvm'.Reaches f ↔ jvm.Reaches f := by
  obtain ⟨made, rfl, -⟩ := h
  rfl

end Like

/-! ## What buffers hold -/

namespace Buffer

/-- The memory behind a buffer that has an address. -/
def memory? : Buffer → Option Bytes
  | .direct memory _ => some memory
  | _ => none

/-- The capacity of a buffer that can tell it. -/
def capacity? : Buffer → Option Nat
  | .direct _ capacity => capacity
  | _ => none

/-- The bytes behind a buffer. -/
def memory (buffer : Buffer) : Bytes := buffer.memory?.getD []

/-- The number of bytes up to the capacity of a buffer. -/
def capacity (buffer : Buffer) : Nat := buffer.capacity?.getD 0

/-- The bytes of a buffer up to its capacity. -/
def contents (buffer : Buffer) : Bytes := buffer.memory.take buffer.capacity

end Buffer

theorem bufferAddress_eq (buffer : Buffer) :
    bufferAddress buffer = do
      invoke .getDirectBufferAddress
      return buffer.memory? := by
  cases buffer <;> rfl

theorem bufferCapacity_eq (buffer : Buffer) :
    bufferCapacity buffer = (do
      invoke .getDirectBufferCapacity
      buffer.capacity?.elim (throw .callFailed) pure) := by
  obtain _ | _ | ⟨memory, _ | capacity⟩ := buffer <;> rfl

/-! ## Looking into buffers -/

theorem like_invoke (jvm : Jvm) {f : Function} (harmless : f ≠ .throwNew) :
    jvm.Like (jvm.perform (invoke f)).2 := by
  rw [perform_invoke]
  cases jvm.unreachable? f with
  | none => exact .noteCall jvm harmless
  | some fault => exact .refl jvm

theorem like_bind {α β : Type} {jvm : Jvm} {act : Action α} {f : α → Action β}
    (first : jvm.Like (jvm.perform act).2)
    (next : ∀ jvm' value, jvm.Like jvm' → jvm.Like (jvm'.perform (f value)).2) :
    jvm.Like (jvm.perform (act >>= f)).2 := by
  rw [perform_bind]
  rcases hrun : jvm.perform act with ⟨e | value, jvm'⟩ <;> rw [hrun] at first
  · exact first
  · exact next jvm' value first

theorem like_bufferAddress (jvm : Jvm) (buffer : Buffer) :
    jvm.Like (jvm.perform (bufferAddress buffer)).2 := by
  rw [bufferAddress_eq]
  exact like_bind (jvm.like_invoke nofun) fun _ _ like => like

theorem like_bufferCapacity (jvm : Jvm) (buffer : Buffer) :
    jvm.Like (jvm.perform (bufferCapacity buffer)).2 := by
  rw [bufferCapacity_eq]
  refine like_bind (jvm.like_invoke nofun) fun _ _ like => ?_
  cases buffer.capacity? <;> exact like

theorem run_bufferBytes (jvm : Jvm) (buffer : Buffer) : (bufferBytes buffer).run jvm =
    if buffer = .null then (.error .notDirectBuffer, jvm)
    else match jvm.perform (bufferAddress buffer) with
      | (.ok (some memory), jvm') =>
        ((jvm'.perform (bufferCapacity buffer)).1.map memory.take |>.mapError .jni,
          (jvm'.perform (bufferCapacity buffer)).2)
      | (_, jvm') => (.error .notDirectBuffer, jvm') := by
  unfold bufferBytes
  split
  next => rfl
  next =>
    rw [run_run_bind_perform]
    rcases jvm.perform (bufferAddress buffer) with ⟨e | (_ | memory), jvm'⟩
    · rfl
    · rfl
    · simp only
      rw [run_run_bind_perform]
      rcases jvm'.perform (bufferCapacity buffer) with ⟨e | capacity, jvm''⟩ <;> rfl

/-- Looking into a buffer adds to the calls that reached the machine, and changes nothing else. -/
theorem like_bufferBytes (jvm : Jvm) (buffer : Buffer) :
    jvm.Like ((bufferBytes buffer).run jvm).2 := by
  have haddress := like_bufferAddress jvm buffer
  rw [run_bufferBytes]
  split
  next => exact .refl jvm
  next =>
    rcases hrun : jvm.perform (bufferAddress buffer) with ⟨e | (_ | memory), jvm'⟩ <;>
      rw [hrun] at haddress
    · exact haddress
    · exact haddress
    · exact haddress.trans (like_bufferCapacity jvm' buffer)

section Asking

variable (jvm : Jvm) (buffer : Buffer)

/-- Whether the machine gives the address of a buffer. -/
def locates : Bool :=
  (jvm.unreachable? .getDirectBufferAddress).isNone && buffer.memory?.isSome

/-- Why the machine does not tell the capacity of a buffer, if it does not. -/
def capacityError? : Option JniError :=
  (jvm.unreachable? .getDirectBufferCapacity).or
    (if buffer.capacity?.isSome then none else some .callFailed)

/-- What looking into a buffer gives: the bytes of one whose address and capacity the machine
gives. -/
def bytesOf : Except BridgeError Bytes :=
  if jvm.locates buffer then
    (jvm.capacityError? buffer).elim (.ok buffer.contents) fun e => .error (.jni e)
  else .error .notDirectBuffer

theorem perform_bufferCapacity : (jvm.perform (bufferCapacity buffer)).1 =
    (jvm.capacityError? buffer).elim (.ok buffer.capacity) .error := by
  unfold Jvm.capacityError? Buffer.capacity
  rw [bufferCapacity_eq, perform_bind, perform_invoke]
  cases jvm.unreachable? .getDirectBufferCapacity with
  | some fault => rfl
  | none => cases buffer.capacity? <;> rfl

theorem fst_run_bufferBytes : ((bufferBytes buffer).run jvm).1 = jvm.bytesOf buffer := by
  rw [run_bufferBytes, bufferAddress_eq, perform_bind, perform_invoke]
  unfold Jvm.bytesOf Jvm.locates Buffer.contents Buffer.memory
  split
  next null =>
    rw [null]
    simp [Buffer.memory?]
  next =>
    cases jvm.unreachable? .getDirectBufferAddress with
    | some fault => rfl
    | none =>
      cases buffer.memory? with
      | none => rfl
      | some memory =>
        have hcapacity : (jvm.noteCall .getDirectBufferAddress).capacityError? buffer =
          jvm.capacityError? buffer := rfl
        simp only [perform_pure, perform_bufferCapacity, hcapacity]
        cases jvm.capacityError? buffer <;> rfl

end Asking

/-- What looking into a buffer gives does not depend on the calls so far. -/
theorem Like.bytesOf_eq {jvm jvm' : Jvm} (h : jvm.Like jvm') (buffer : Buffer) :
    jvm'.bytesOf buffer = jvm.bytesOf buffer := by
  obtain ⟨made, rfl, -⟩ := h
  rfl

end Jvm

end PointBridge
