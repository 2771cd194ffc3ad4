import Mathlib.Data.Int.ModEq
import PointBridge.Distance
import PointBridge.Proofs.Binary64

/-!
# The squared distances under the roots

The exact squared distance of two points (`Point.exactSquare`) takes up to 65 bits. The 128-bit form
computes it, and no operation on the way overflows (`Point.toInt_wideSquare`). The 32-bit form wraps
around at every operation, and its magnitudes may even be negative; yet a square does not depend on
the sign of what is squared, so that the sum is that of the squared differences in the ring of words
(`Point.wrappedSquare_eq`). Hence it is the word that is congruent to the exact squared distance
(`Point.eq_wrappedSquare_iff`), and it does not change under what leaves the differences alone.
`Point.squared_distances` puts together how the two forms differ.
-/

namespace PointBridge

/-! ## Words -/

/-- The least integer is its own magnitude and its own opposite, so that this holds of it, too. -/
theorem Word.abs_mul_abs (w : Int32) : w.abs * w.abs = w * w := by
  have habs : w.abs = -w ∨ w.abs = w := by
    have h := Int32.toBitVec_abs w
    unfold BitVec.abs at h
    split at h
    · exact .inl (Int32.toBitVec_inj.1 h)
    · exact .inr (Int32.toBitVec_inj.1 h)
  rcases habs with h | h
  · rw [h, Int32.neg_mul_neg]
  · rw [h]

theorem Word.toInt_toUInt32 (w : Int32) : (w.toUInt32.toNat : ℤ) = w.toInt % 2 ^ 32 := by
  have hword := w.toUInt32.toNat_lt
  have hsigned : w.toInt = if 2 * w.toUInt32.toNat < 2 ^ 32 then (w.toUInt32.toNat : ℤ)
      else w.toUInt32.toNat - 2 ^ 32 := BitVec.toInt_eq_toNat_cond w.toBitVec
  split at hsigned <;> omega

section Congruence

variable (v w : Int32)

theorem Word.toInt_add_modEq : (v + w).toInt ≡ v.toInt + w.toInt [ZMOD 2 ^ 32] := by
  rw [Int32.toInt_add]
  exact Int.bmod_emod

theorem Word.toInt_sub_modEq : (v - w).toInt ≡ v.toInt - w.toInt [ZMOD 2 ^ 32] := by
  rw [Int32.toInt_sub]
  exact Int.bmod_emod

theorem Word.toInt_mul_modEq : (v * w).toInt ≡ v.toInt * w.toInt [ZMOD 2 ^ 32] := by
  rw [Int32.toInt_mul]
  exact Int.bmod_emod

/-- A word is given by its residue. -/
theorem Word.toInt_modEq_iff : v.toInt ≡ w.toInt [ZMOD 2 ^ 32] ↔ v = w := by
  refine ⟨fun h => Int32.toInt_inj.1 ?_, fun h => by rw [h]⟩
  have hv := v.le_toInt
  have hv' := v.toInt_lt
  have hw := w.le_toInt
  have hw' := w.toInt_lt
  unfold Int.ModEq at h
  omega

end Congruence

namespace Point

/-- The squared distance over the integers. -/
def exactSquare (p q : Point) : ℤ := (p.x.toInt - q.x.toInt) ^ 2 + (p.y.toInt - q.y.toInt) ^ 2

/-! ## The squared distance in 32-bit words -/

theorem wrappedSquare_eq (p q : Point) : p.wrappedSquare q =
    (p.x - q.x) * (p.x - q.x) + (p.y - q.y) * (p.y - q.y) := by
  unfold wrappedSquare
  dsimp only
  rw [Word.abs_mul_abs, Word.abs_mul_abs]

/-- The squared distance in words is the residue of the exact one. -/
theorem wrappedSquare_modEq (p q : Point) :
    (p.wrappedSquare q).toInt ≡ p.exactSquare q [ZMOD 2 ^ 32] := by
  have squared (v w : Int32) :
      ((v - w) * (v - w)).toInt ≡ (v.toInt - w.toInt) ^ 2 [ZMOD 2 ^ 32] := by
    have hsub := Word.toInt_sub_modEq v w
    rw [pow_two]
    exact (Word.toInt_mul_modEq _ _).trans (hsub.mul hsub)
  rw [wrappedSquare_eq]
  exact (Word.toInt_add_modEq _ _).trans ((squared p.x q.x).add (squared p.y q.y))

theorem eq_wrappedSquare_iff (p q : Point) (w : Int32) :
    w.toInt ≡ p.exactSquare q [ZMOD 2 ^ 32] ↔ w = p.wrappedSquare q := by
  rw [← Word.toInt_modEq_iff]
  have residue := p.wrappedSquare_modEq q
  exact ⟨fun h => h.trans residue.symm, fun h => h.trans residue⟩

theorem wrappedSquare_comm (p q : Point) : p.wrappedSquare q = q.wrappedSquare p := by
  rw [wrappedSquare_eq, wrappedSquare_eq]
  grind

theorem wrappedSquare_translate (p q v : Point) :
    (p.translate v).wrappedSquare (q.translate v) = p.wrappedSquare q := by
  rw [wrappedSquare_eq, wrappedSquare_eq]
  unfold translate
  grind

theorem wrappedSquare_reflect (p q : Point) :
    p.reflect.wrappedSquare q.reflect = p.wrappedSquare q := by
  rw [wrappedSquare_eq, wrappedSquare_eq]
  unfold reflect
  grind

/-! ## The squared distance in 128-bit words -/

theorem toNat_gap (i j : Int32) : (gap i j).toNat = (i.toInt - j.toInt).natAbs := by
  -- the lesser coordinate is taken from the greater one, modulo `2 ^ 32`
  have below {v w : Int32} (h : v.toInt ≤ w.toInt) :
      ((w.toUInt32 - v.toUInt32).toNat : ℤ) = w.toInt - v.toInt := by
    have hv := v.le_toInt
    have hw := w.toInt_lt
    have hv' := Word.toInt_toUInt32 v
    have hw' := Word.toInt_toUInt32 w
    have hlt := v.toUInt32.toNat_lt
    rw [UInt32.toNat_sub]
    omega
  unfold gap
  split
  next less =>
    have h := Int32.lt_iff_toInt_lt.1 less
    have hgap := below (Int.le_of_lt h)
    omega
  next other =>
    have h : j.toInt ≤ i.toInt := Int.not_lt.1 fun h => other (Int32.lt_iff_toInt_lt.2 h)
    have hgap := below h
    omega

theorem toNat_wideGap (i j : Int32) : (wideGap i j).toNat = (gap i j).toNat :=
  BitVec.toNat_setWidth_of_le (by decide)

theorem wideGap_mul_lt (i j : Int32) :
    (wideGap i j).toNat * (wideGap i j).toNat < 2 ^ 64 := by
  have hgap : (wideGap i j).toNat < 2 ^ 32 := by
    rw [toNat_wideGap]
    exact (gap i j).toNat_lt
  calc (wideGap i j).toNat * (wideGap i j).toNat < 2 ^ 32 * 2 ^ 32 :=
        Nat.mul_lt_mul'' hgap hgap
    _ = 2 ^ 64 := by decide

/-- No operation on the way to the squared distance in 128-bit words overflows: neither square does,
nor their sum. -/
structure WideSquareFits (p q : Point) : Prop where
  first : (wideGap p.x q.x).umulOverflow (wideGap p.x q.x) = false
  second : (wideGap p.y q.y).umulOverflow (wideGap p.y q.y) = false
  sum : (wideGap p.x q.x * wideGap p.x q.x).uaddOverflow (wideGap p.y q.y * wideGap p.y q.y) = false

theorem umulOverflow_wideGap (i j : Int32) :
    (wideGap i j).umulOverflow (wideGap i j) = false := by
  have h := wideGap_mul_lt i j
  simp only [BitVec.umulOverflow, decide_eq_false_iff_not]
  omega

theorem toNat_wideGap_mul (i j : Int32) : (wideGap i j * wideGap i j).toNat =
    (wideGap i j).toNat * (wideGap i j).toNat :=
  BitVec.toNat_mul_of_not_umulOverflow (by simp [umulOverflow_wideGap])

theorem wideSquareFits (p q : Point) : p.WideSquareFits q := by
  refine ⟨umulOverflow_wideGap _ _, umulOverflow_wideGap _ _, ?_⟩
  have hx := wideGap_mul_lt p.x q.x
  have hy := wideGap_mul_lt p.y q.y
  simp only [BitVec.uaddOverflow, toNat_wideGap_mul, decide_eq_false_iff_not]
  omega

/-- The squared distance in 128-bit words is the exact one. -/
theorem toInt_wideSquare (p q : Point) : ((p.wideSquare q).toNat : ℤ) = p.exactSquare q := by
  have squared (i j : Int32) :
      (((wideGap i j * wideGap i j).toNat : ℕ) : ℤ) = (i.toInt - j.toInt) ^ 2 := by
    rw [toNat_wideGap_mul, toNat_wideGap, toNat_gap, Int.natAbs_mul_self, pow_two]
  have hsum : (p.wideSquare q).toNat =
      (wideGap p.x q.x * wideGap p.x q.x).toNat + (wideGap p.y q.y * wideGap p.y q.y).toNat :=
    BitVec.toNat_add_of_not_uaddOverflow (by simp [(p.wideSquareFits q).sum])
  rw [hsum, Nat.cast_add, squared, squared]
  rfl

/-! ## The two forms -/

/-- What is taken the root of for the distances of two points. The 32-bit form takes the one word
that is congruent to the exact squared distance, and is no number where the sign bit of that word is
set. The 128-bit form takes the exact squared distance itself, and no operation on it overflows.
Both take the same where that is small. The distance does not change if the points are exchanged,
moved by a vector or mirrored at the origin. -/
structure SquaredDistances (p q : Point) : Prop where
  wrapped : p.distance q = (Binary64.ofInt (p.wrappedSquare q).toInt).sqrt
  residue (w : Int32) : w.toInt ≡ p.exactSquare q [ZMOD 2 ^ 32] ↔ w = p.wrappedSquare q
  wide : p.distanceWide q = (Binary64.ofNat (p.wideSquare q).toNat).sqrt
  exact : ((p.wideSquare q).toNat : ℤ) = p.exactSquare q
  fits : p.WideSquareFits q
  agree : (p.wrappedSquare q).toInt = (p.wideSquare q).toNat ↔ p.exactSquare q < 2 ^ 31
  negative : p.wrappedSquare q < 0 ↔ 2 ^ 31 ≤ p.exactSquare q % 2 ^ 32
  noNumber : (p.distance q).isNaN = true ↔ 2 ^ 31 ≤ p.exactSquare q % 2 ^ 32
  comm : p.distance q = q.distance p
  translate (v : Point) : (p.translate v).distance (q.translate v) = p.distance q
  reflect : p.reflect.distance q.reflect = p.distance q

theorem wrappedSquare_neg_iff (p q : Point) :
    p.wrappedSquare q < 0 ↔ 2 ^ 31 ≤ p.exactSquare q % 2 ^ 32 := by
  have hresidue : (p.wrappedSquare q).toInt % 2 ^ 32 = p.exactSquare q % 2 ^ 32 :=
    p.wrappedSquare_modEq q
  have hlow := (p.wrappedSquare q).le_toInt
  have hhigh := (p.wrappedSquare q).toInt_lt
  have hneg : p.wrappedSquare q < 0 ↔ (p.wrappedSquare q).toInt < 0 := Int32.lt_iff_toInt_lt
  rw [hneg]
  omega

/-- **The distance in 32-bit words takes the root of the exact squared distance modulo `2 ^ 32`, the
one in 128-bit words that of the exact squared distance itself**, which may take more than 64
bits. -/
theorem squared_distances : (∀ p q : Point, p.SquaredDistances q) ∧
    ∃ p q : Point, 2 ^ 64 < p.exactSquare q := by
  refine ⟨fun p q => ?_, ⟨-2147483648, -2147483648⟩, ⟨2147483647, 2147483647⟩, by decide⟩
  have hresidue : (p.wrappedSquare q).toInt % 2 ^ 32 = p.exactSquare q % 2 ^ 32 :=
    p.wrappedSquare_modEq q
  have hlow := (p.wrappedSquare q).le_toInt
  have hhigh := (p.wrappedSquare q).toInt_lt
  have hexact := p.toInt_wideSquare q
  constructor
  case wrapped => rfl
  case residue => exact p.eq_wrappedSquare_iff q
  case wide => rfl
  case exact => exact hexact
  case fits => exact p.wideSquareFits q
  case agree => omega
  case negative => exact p.wrappedSquare_neg_iff q
  case noNumber =>
    have hneg : p.wrappedSquare q < 0 ↔ (p.wrappedSquare q).toInt < 0 := Int32.lt_iff_toInt_lt
    rw [← p.wrappedSquare_neg_iff q, hneg]
    exact Binary64.isNaN_sqrt_ofInt_iff (by omega)
  case comm => rw [distance, wrappedSquare_comm, distance]
  case translate =>
    intro v
    rw [distance, wrappedSquare_translate, distance]
  case reflect => rw [distance, wrappedSquare_reflect, distance]

end Point

end PointBridge
