/-!
# Native entry points

The functions that Java code calls. Each has a label, which stands at the start of every
exception message that the call raises.
-/

namespace PointBridge

/-- A native function as Java declares it. -/
inductive Entry where
  | allocate
  | free
  | getX
  | setX
  | getY
  | setY
  | handleDistance
  | bufferDistance
deriving DecidableEq

namespace Entry

/-- The class and the method of an entry point. -/
def label : Entry → String
  | allocate => "JNIPoint.allocate"
  | free => "JNIPoint.free"
  | getX => "JNIPoint.getX"
  | setX => "JNIPoint.setX"
  | getY => "JNIPoint.getY"
  | setY => "JNIPoint.setY"
  | handleDistance => "JNIPoint.distance"
  | bufferDistance => "BBPoint.distance"

end Entry

end PointBridge
