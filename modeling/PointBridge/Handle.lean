/-!
# Handles

A host names a point by an opaque word of 64 bits. Its low half is the index of a slot, its high
half the generation that the slot had when the point was allocated. A host without unsigned
integers carries the same 64 bits as a signed one.
-/

namespace PointBridge

/-- A 64-bit name of a point; any word is a handle, though few are live. -/
structure Handle where
  raw : UInt64
deriving DecidableEq

namespace Handle

/-- The word 0, which is never live. -/
def null : Handle := ⟨0⟩

instance : Inhabited Handle := ⟨null⟩

/-- The handle of slot `index` in generation `generation`. -/
def pack (index generation : UInt32) : Handle :=
  ⟨(generation.toUInt64 <<< 32) ||| index.toUInt64⟩

/-- The slot index, in the low 32 bits. -/
def index (h : Handle) : UInt32 := h.raw.toUInt32

/-- The generation, in the high 32 bits. -/
def generation (h : Handle) : UInt32 := (h.raw >>> 32).toUInt32

/-- Whether this is the null handle. -/
def isNull (h : Handle) : Bool := h == null

/-- The handle whose bits are those of a signed word. -/
def ofSigned (word : Int64) : Handle := ⟨word.toUInt64⟩

/-- The bits of the handle as a signed word. -/
def toSigned (h : Handle) : Int64 := h.raw.toInt64

end Handle

end PointBridge
