import PointBridge.Bridge

/-!
# Foreign functions

The functions for hosts that link the library without a virtual machine. They take points by
value or by pointer; a null pointer gives no number.
-/

namespace PointBridge.Foreign

open Trace

/-- The version of this interface. -/
def interfaceVersion : UInt32 := 1

/-- The distance of two points passed by value. -/
def distance (p q : Point) : Binary64 := p.distance q

/-- The distance of two points passed by pointer, where `none` is the null pointer. -/
def distanceOfPointers : Option Point → Option Point → Bridge.Action Binary64
  | some p, some q => return p.distanceByReference q
  | p, q => do
    Bridge.emit (.nullPoint p.isNone q.isNone)
    return .nan

end PointBridge.Foreign
