/-!
# Sets of characters as ranges

A property of characters is given by the ranges of code points that have it, both ends included.
-/

namespace PointBridge.Text

/-- Whether the code point of a character lies in one of the ranges. -/
def inRanges (ranges : Array (Nat × Nat)) (c : Char) : Bool :=
  ranges.any fun range => range.1 ≤ c.toNat && c.toNat ≤ range.2

end PointBridge.Text
