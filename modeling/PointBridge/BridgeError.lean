import PointBridge.PointError

/-!
# Why a native call fails

A native call fails because a point was refused, because an argument is no direct buffer, or
because a call to the virtual machine failed. Each failure becomes a Java exception of a class
that depends on the cause.
-/

namespace PointBridge

/-- The cause of a failed call to the virtual machine. -/
inductive JniError where
  /-- A result that must not be null is null. -/
  | nullResult (what : String)
  /-- A pointer that has to be followed is null. -/
  | nullDereference (what : String)
  /-- A Java exception is pending. -/
  | exceptionPending
  /-- The function table lacks a function. -/
  | missingFunction (name : String)
  /-- Throwing was refused with a code. -/
  | throwRefused (code : Int32)
  /-- The call itself reports a failure. -/
  | callFailed
deriving DecidableEq

namespace JniError

/-- The text shown for the error. -/
def message : JniError → String
  | nullResult what => "Null pointer in " ++ what
  | nullDereference what => "Null pointer deref in " ++ what
  | exceptionPending => "Java exception was thrown"
  | missingFunction name => "JNIEnv null method pointer for " ++ name
  | throwRefused code => "Throw failed with error code " ++ toString code.toInt
  | callFailed => "JNI call failed"

end JniError

/-- The cause of a failed native call. -/
inductive BridgeError where
  /-- A handle or a buffer was refused. -/
  | point (error : PointError)
  /-- An argument is null or a buffer without an address. -/
  | notDirectBuffer
  /-- The virtual machine refused a call. -/
  | jni (error : JniError)
deriving DecidableEq

/-! ## Names of Java exception classes -/

namespace ExceptionClass

/-- The class for arguments that are not acceptable. -/
def illegalArgument : String := "java/lang/IllegalArgumentException"

/-- The class for buffers that are too short. -/
def indexOutOfBounds : String := "java/lang/IndexOutOfBoundsException"

/-- The class for calls that panicked. -/
def runtime : String := "java/lang/RuntimeException"

/-- The class that a failed class lookup raises. -/
def noClassDefFound : String := "java/lang/NoClassDefFoundError"

end ExceptionClass

namespace BridgeError

/-- The text shown for the error. -/
def message : BridgeError → String
  | point e => e.message
  | notDirectBuffer => "expected a direct ByteBuffer"
  | jni e => "JNI call failed: " ++ e.message

/-- The class of the Java exception that the error becomes. -/
def exceptionClass : BridgeError → String
  | point (.invalidHandle _) => ExceptionClass.illegalArgument
  | point (.bufferTooSmall ..) => ExceptionClass.indexOutOfBounds
  | notDirectBuffer => ExceptionClass.illegalArgument
  | jni _ => ExceptionClass.illegalArgument

/-- The text of the error behind this one, where there is one that is not shown as it is. -/
def source : BridgeError → Option String
  | point _ => none
  | notDirectBuffer => none
  | jni e => some e.message

end BridgeError

end PointBridge
