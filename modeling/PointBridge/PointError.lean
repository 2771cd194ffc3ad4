import PointBridge.Handle
import PointBridge.Text.Hexadecimal

/-!
# Why an access to a point is refused

There are two causes: the handle names no live point, or the memory is too short to hold one.
-/

namespace PointBridge

/-- The cause of a refused access. -/
inductive PointError where
  /-- The handle names no live point. -/
  | invalidHandle (handle : Handle)
  /-- The memory has fewer bytes than a point takes. -/
  | bufferTooSmall (required actual : Nat)
deriving DecidableEq

namespace PointError

/-- The text shown for the error. -/
def message : PointError → String
  | invalidHandle h => "invalid point handle: 0x" ++ Text.hexadecimal h.raw.toNat
  | bufferTooSmall required actual =>
    "buffer too small for point: required " ++ toString required ++ " bytes, got " ++
      toString actual

/-- Whether the caller can go on: a bad handle concerns one call only, while memory that is too
short fails again on every attempt. -/
def isRecoverable : PointError → Bool
  | invalidHandle _ => true
  | bufferTooSmall .. => false

end PointError

end PointBridge
