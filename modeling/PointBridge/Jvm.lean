import PointBridge.BridgeError
import PointBridge.Layout

/-!
# The virtual machine

`Jvm` is what a native call sees of the virtual machine that makes it: the exception pending on
the thread, whether the environment and its function table can be followed, which functions are
missing from the table, and how looking up a class and throwing end. Every call goes through
`Jvm.invoke`, which fails if the function cannot be reached and notes the call otherwise. Throwing
is `Jvm.raise`; it leaves alone an exception that is pending already.
-/

namespace PointBridge

/-- A Java exception, with the binary name of its class. -/
structure JavaException where
  className : String
  message : String
deriving DecidableEq

namespace Jvm

/-! ## The state of the machine -/

/-- A function of the table that the bridge calls. -/
inductive Function where
  | exceptionCheck
  | findClass
  | throwNew
  | getDirectBufferAddress
  | getDirectBufferCapacity
deriving DecidableEq

/-- The name of a function in the table. -/
def Function.name : Function → String
  | exceptionCheck => "ExceptionCheck"
  | findClass => "FindClass"
  | throwNew => "ThrowNew"
  | getDirectBufferAddress => "GetDirectBufferAddress"
  | getDirectBufferCapacity => "GetDirectBufferCapacity"

/-- Which of the pointers to the function table can be followed. -/
inductive Access where
  /-- Both. -/
  | full
  /-- Not even the environment. -/
  | nullEnvironment
  /-- The environment, but it has no table. -/
  | nullTable
deriving DecidableEq

/-- How looking up a class ends. -/
inductive ClassLookup where
  /-- The class is found. -/
  | found
  /-- The result is null. -/
  | null
  /-- The result is null and an exception about the class is pending. -/
  | raises
deriving DecidableEq

/-- A call that reached the machine, and whether an exception was pending then. -/
structure Call where
  function : Function
  pending : Bool
deriving DecidableEq

end Jvm

/-- The virtual machine during one native call. The table lacks the functions that are `missing`.
`throwCode` is what throwing returns: 0, or a code with which it is refused. `calls` are the calls
so far, in order. -/
structure Jvm where
  pending : Option JavaException := none
  access : Jvm.Access := .full
  missing : List String := []
  classLookup : Jvm.ClassLookup := .found
  throwCode : Int32 := 0
  calls : List Jvm.Call := []
deriving DecidableEq

instance : Inhabited Jvm := ⟨{}⟩

namespace Jvm

/-! ## Calls -/

/-- A computation on the machine that can fail; what it did before failing stays done. -/
abbrev Action (α : Type) := ExceptT JniError (StateM Jvm) α

/-- The machine after one more call. -/
def noteCall (jvm : Jvm) (f : Function) : Jvm :=
  { jvm with calls := jvm.calls ++ [⟨f, jvm.pending.isSome⟩] }

/-- Reach a function of the table, or fail because that is not possible. -/
def invoke (f : Function) : Action Unit := do
  let jvm ← get
  match jvm.access with
  | .nullEnvironment => throw (.nullDereference "JNIEnv")
  | .nullTable => throw (.nullDereference "*JNIEnv")
  | .full =>
    if jvm.missing.contains f.name then throw (.missingFunction f.name)
    else set (jvm.noteCall f)

/-- Whether an exception is pending. -/
def exceptionCheck : Action Bool := do
  invoke .exceptionCheck
  return (← get).pending.isSome

/-- Look up a class. An exception pending afterwards counts as a failure, and so does a null. -/
def findClass (className : String) : Action Unit := do
  invoke .findClass
  let lookup := (← get).classLookup
  if lookup = .raises then
    modify fun jvm => { jvm with pending := some ⟨ExceptionClass.noClassDefFound, className⟩ }
  if ← exceptionCheck then throw .exceptionPending
  if lookup ≠ .found then throw (.nullResult "FindClass result")

/-- Make an exception of a class that was found pending. -/
def throwNew (e : JavaException) : Action Unit := do
  invoke .throwNew
  let code := (← get).throwCode
  if code = 0 then modify fun jvm => { jvm with pending := some e }
  else throw (.throwRefused code)

/-- Throw an exception unless one is pending. If that cannot be found out, none counts as
pending. -/
def raise (e : JavaException) : Action Unit := do
  let pending ← tryCatch exceptionCheck fun _ => pure false
  if pending then return
  findClass e.className
  throwNew e

/-! ## Buffers -/

/-- A reference to a buffer, as Java passes it. -/
inductive Buffer where
  /-- The null reference. -/
  | null
  /-- A buffer on the heap, which has no address. -/
  | heap
  /-- A direct buffer with the memory behind it. The capacity is `none` if it cannot be told. -/
  | direct (memory : Bytes) (capacity : Option Nat)
deriving DecidableEq

/-- The address query, which yields memory of a direct buffer only. -/
def bufferAddress : Buffer → Action (Option Bytes)
  | .direct memory _ => do
    invoke .getDirectBufferAddress
    return some memory
  | _ => do
    invoke .getDirectBufferAddress
    return none

/-- The capacity query. -/
def bufferCapacity : Buffer → Action Nat
  | .direct _ (some capacity) => do
    invoke .getDirectBufferCapacity
    return capacity
  | _ => do
    invoke .getDirectBufferCapacity
    throw .callFailed

/-- The bytes of a direct buffer from its address up to its capacity. A buffer whose address
cannot be had counts as one that is not direct. -/
def bufferBytes (buffer : Buffer) : StateM Jvm (Except BridgeError Bytes) := do
  if buffer = .null then return .error .notDirectBuffer
  match ← (bufferAddress buffer).run with
  | .ok (some memory) =>
    match ← (bufferCapacity buffer).run with
    | .ok capacity => return .ok (memory.take capacity)
    | .error e => return .error (.jni e)
  | _ => return .error .notDirectBuffer

end Jvm

end PointBridge
