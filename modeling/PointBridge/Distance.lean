import PointBridge.Point
import PointBridge.Binary64

/-!
# The distance of two points

The Euclidean distance comes in two forms. `Point.distance` squares and adds in 32-bit words, so
that points far apart give the root of a wrapped sum, and no number where that sum is negative.
`Point.distanceWide` squares and adds in 128-bit words, rounds the sum once and takes the root of
that.
-/

namespace PointBridge

namespace Point

/-- The squared distance in 32-bit words: differences, magnitudes, squares and the sum are each
taken modulo `2 ^ 32`, and the least integer is its own magnitude. -/
def wrappedSquare (p q : Point) : Int32 :=
  let dx := (p.x - q.x).abs
  let dy := (p.y - q.y).abs
  dx * dx + dy * dy

/-- The magnitude of the difference of two coordinates, which takes all 32 bits of a word. -/
def gap (i j : Int32) : UInt32 :=
  if i < j then j.toUInt32 - i.toUInt32 else i.toUInt32 - j.toUInt32

/-- The magnitude of the difference of two coordinates as a 128-bit word. -/
def wideGap (i j : Int32) : BitVec 128 := (gap i j).toBitVec.setWidth 128

/-- The squared distance in 128-bit words. -/
def wideSquare (p q : Point) : BitVec 128 :=
  let dx := wideGap p.x q.x
  let dy := wideGap p.y q.y
  dx * dx + dy * dy

/-- The distance with wrapping 32-bit arithmetic under the root. -/
def distance (p q : Point) : Binary64 := (Binary64.ofInt (p.wrappedSquare q).toInt).sqrt

/-- The distance of two points that stay where they are and are only referred to. -/
def distanceByReference (p q : Point) : Binary64 := p.distance q

/-- The distance of a point to another one that it is asked about. -/
def distanceTo (p other : Point) : Binary64 := p.distanceByReference other

/-- The distance with 128-bit arithmetic under the root, rounded before the root is taken. -/
def distanceWide (p q : Point) : Binary64 := (Binary64.ofNat (p.wideSquare q).toNat).sqrt

end Point

end PointBridge
