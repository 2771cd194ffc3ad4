/-!
# Points of the integer plane

A `Point` has two signed coordinates of 32 bits. It is the value that every entry point of the
bridge takes or returns: points named by handles live in an arena, points in foreign memory are
read through their byte layout, and both meet here.
-/

namespace PointBridge

/-- A point with two signed 32-bit coordinates. -/
structure Point where
  x : Int32
  y : Int32
deriving DecidableEq

namespace Point

/-- The point `(0, 0)`, where every newly allocated point starts. -/
def origin : Point := ⟨0, 0⟩

instance : Inhabited Point := ⟨origin⟩

/-- The coordinates as a pair. -/
def toPair (p : Point) : Int32 × Int32 := (p.x, p.y)

/-- The point with the given pair of coordinates. -/
def ofPair (c : Int32 × Int32) : Point := ⟨c.1, c.2⟩

/-- The point moved by a vector, each coordinate modulo `2 ^ 32`. -/
def translate (p v : Point) : Point := ⟨p.x + v.x, p.y + v.y⟩

/-- The point mirrored at the origin, each coordinate modulo `2 ^ 32`. -/
def reflect (p : Point) : Point := ⟨-p.x, -p.y⟩

@[simp] theorem ofPair_toPair (p : Point) : ofPair p.toPair = p := rfl

@[simp] theorem toPair_ofPair (c : Int32 × Int32) : (ofPair c).toPair = c := rfl

end Point

end PointBridge
