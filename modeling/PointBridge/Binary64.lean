/-!
# Double-precision numbers by their bits

`Binary64` is a floating-point number of the IEEE 754 interchange format, held as its 64 bits, so
that two results can be compared exactly. Two operations are needed: `ofInt`, which rounds an
integer to the nearest number, a half going to the even neighbour, and `sqrt`, the square root
with the same rounding. Both compute on natural numbers only. The root of `m * 2 ^ (2 * k)` is
taken with more than 53 bits by `floorSqrt`, and one further bit remembers whether anything was
cut off; rounding that number once rounds the exact root.
-/

namespace PointBridge

/-- A double-precision number, given by its bits: sign, 11 bits of exponent, 52 of fraction. -/
structure Binary64 where
  bits : UInt64
deriving DecidableEq

namespace Binary64

/-! ## The parts of a number -/

/-- The power `2 ^ k`. -/
def twoPow (k : Nat) : Nat := Nat.pow 2 k

/-- Positive zero. -/
def zero : Binary64 := ⟨0⟩

/-- The value that stands for no number. -/
def nan : Binary64 := ⟨0x7ff8000000000000⟩

instance : Inhabited Binary64 := ⟨zero⟩

/-- Whether the sign bit is set. -/
def isNegative (x : Binary64) : Bool := twoPow 63 ≤ x.bits.toNat

/-- The exponent field, biased by 1023. -/
def exponentField (x : Binary64) : Nat := x.bits.toNat / twoPow 52 % twoPow 11

/-- The fraction field. -/
def fractionField (x : Binary64) : Nat := x.bits.toNat % twoPow 52

/-- Whether the bits stand for no number. -/
def isNaN (x : Binary64) : Bool := x.exponentField == 2047 && x.fractionField != 0

/-- Whether the number is an infinity of either sign. -/
def isInfinite (x : Binary64) : Bool := x.exponentField == 2047 && x.fractionField == 0

/-- Whether the number is a zero of either sign. -/
def isZero (x : Binary64) : Bool := x.exponentField == 0 && x.fractionField == 0

/-- The integer `m` in the magnitude `m * 2 ^ e` of a finite number. -/
def significand (x : Binary64) : Nat :=
  if x.exponentField = 0 then x.fractionField else twoPow 52 + x.fractionField

/-- The exponent `e` in the magnitude `m * 2 ^ e` of a finite number. -/
def exponent (x : Binary64) : Int := (max x.exponentField 1 : Nat) - 1075

/-- The number with the opposite sign. -/
def negate (x : Binary64) : Binary64 := ⟨x.bits ^^^ 0x8000000000000000⟩

/-! ## Rounding -/

/-- The integer nearest to `n / 2 ^ shift`, the even one of two equally near. -/
def roundShift (n shift : Nat) : Nat :=
  let unit := twoPow shift
  let quotient := n / unit
  let twice := 2 * (n % unit)
  if twice > unit ∨ (twice = unit ∧ quotient % 2 = 1) then quotient + 1 else quotient

/-- The number nearest to `n * 2 ^ e`, the even one of two equally near, provided that it lies
between the least normal number and the greatest finite one. The leading bit of the significand
is not stored: it adds one to the exponent field, and so does a carry out of the rounding. -/
def ofScaled (n : Nat) (e : Int) : Binary64 :=
  if n = 0 then zero
  else
    let width := n.log2
    let significand := if width ≤ 52 then n * twoPow (52 - width) else roundShift n (width - 52)
    ⟨UInt64.ofNat ((e + width + 1022).toNat * twoPow 52 + significand)⟩

/-- The number nearest to a natural number below `2 ^ 1023`. -/
def ofNat (n : Nat) : Binary64 := ofScaled n 0

/-- The number nearest to an integer of magnitude below `2 ^ 1023`. -/
def ofInt (i : Int) : Binary64 := if i < 0 then (ofNat i.natAbs).negate else ofNat i.natAbs

/-! ## The square root -/

/-- Extend the root `r` of `n` by `count` lower binary digits, each set if the square stays
at most `n`. -/
def extendRoot (n : Nat) : Nat → Nat → Nat
  | 0, r => r
  | count + 1, r =>
    let candidate := r + twoPow count
    extendRoot n count (if candidate * candidate ≤ n then candidate else r)

/-- The greatest natural number whose square is at most `n`. -/
def floorSqrt (n : Nat) : Nat := extendRoot n (n.log2 / 2 + 1) 0

/-- The square root rounded to the nearest number, a half to the even neighbour. A negative
number has none; a zero keeps its sign. -/
def sqrt (x : Binary64) : Binary64 :=
  if x.isNaN then nan
  else if x.isZero then x
  else if x.isNegative then nan
  else if x.isInfinite then x
  else
    let shift : Nat := if x.exponent % 2 = 0 then 110 else 111
    let radicand := x.significand * twoPow shift
    let root := floorSqrt radicand
    let inexact := if root * root = radicand then 0 else 1
    ofScaled (2 * root + inexact) ((x.exponent - shift) / 2 - 1)

end Binary64

end PointBridge
