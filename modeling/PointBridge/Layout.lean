import PointBridge.Distance
import PointBridge.PointError

/-!
# Points in memory

In memory a point takes eight bytes: the word of its first coordinate, then that of its second,
each with the lowest byte first. `Point.read?` decodes the first eight bytes of a buffer and
`Point.write?` replaces them; both need no alignment and leave the bytes behind alone, and both
refuse a shorter buffer in the same way.
-/

namespace PointBridge

/-- The contents of a region of memory. -/
abbrev Bytes := List UInt8

namespace Point

/-- The number of bytes that a point takes. -/
def layoutSize : Nat := 8

/-- The four bytes of a word, lowest first. -/
def wordBytes (word : Int32) : Bytes :=
  let u := word.toUInt32
  [u.toUInt8, (u >>> 8).toUInt8, (u >>> 16).toUInt8, (u >>> 24).toUInt8]

/-- The word with the given bytes, lowest first. -/
def wordOfBytes (b₀ b₁ b₂ b₃ : UInt8) : Int32 :=
  (b₀.toUInt32 ||| b₁.toUInt32 <<< 8 ||| b₂.toUInt32 <<< 16 ||| b₃.toUInt32 <<< 24).toInt32

/-- The eight bytes of a point. -/
def toBytes (p : Point) : Bytes := wordBytes p.x ++ wordBytes p.y

/-- The point in the first eight bytes of a buffer. -/
def read? : Bytes → Except PointError Point
  | x₀ :: x₁ :: x₂ :: x₃ :: y₀ :: y₁ :: y₂ :: y₃ :: _ =>
    .ok ⟨wordOfBytes x₀ x₁ x₂ x₃, wordOfBytes y₀ y₁ y₂ y₃⟩
  | short => .error (.bufferTooSmall layoutSize short.length)

/-- The buffer with a point in place of its first eight bytes. -/
def write? (buffer : Bytes) (p : Point) : Except PointError Bytes :=
  if buffer.length < layoutSize then .error (.bufferTooSmall layoutSize buffer.length)
  else .ok (p.toBytes ++ buffer.drop layoutSize)

/-- The distance of the points at the start of two buffers. The first buffer is checked first. -/
def distanceOfBuffers (a b : Bytes) : Except PointError Binary64 := do
  let p ← read? a
  let q ← read? b
  return p.distance q

end Point

end PointBridge
