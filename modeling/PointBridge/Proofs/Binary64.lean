import Mathlib.Algebra.Group.Nat.Defs
import PointBridge.Binary64

/-!
# Small integers as double-precision numbers

A positive integer that fits in the significand is stored as it is, scaled so that its leading bit
is the hidden one (`toNat_bits_ofNat`). So its opposite has the sign set and is no zero, and has no
square root (`sqrt_ofInt_of_neg`).

A root that is taken is a number, since the exponent of a finite number is halved and stays away
from the greatest one (`isNaN_sqrt_iff`). So of the small integers just the negative ones have no
root (`isNaN_sqrt_ofInt_iff`).
-/

namespace PointBridge

namespace Binary64

theorem twoPow_eq (k : Nat) : twoPow k = 2 ^ k := rfl

/-- The bits of a positive integer that fits in the significand. -/
theorem toNat_bits_ofNat {n : Nat} (pos : 0 < n) (fits : n < 2 ^ 53) :
    ∃ width scaled, width ≤ 52 ∧ 2 ^ 52 ≤ scaled ∧ scaled < 2 ^ 53 ∧
      (ofNat n).bits.toNat = (width + 1022) * 2 ^ 52 + scaled := by
  have hwidth : n.log2 < 53 := (Nat.log2_lt (Nat.pos_iff_ne_zero.1 pos)).2 fits
  have hlow : 2 ^ n.log2 ≤ n := Nat.log2_self_le (Nat.pos_iff_ne_zero.1 pos)
  have hhigh : n < 2 ^ (n.log2 + 1) := Nat.lt_log2_self
  -- the scaling moves the leading bit to the place of the hidden one
  have hscale (k : Nat) : 2 ^ (n.log2 + k) * 2 ^ (52 - n.log2) = 2 ^ (52 + k) := by
    rw [← Nat.pow_add]
    congr 1
    omega
  have hleast : 2 ^ 52 ≤ n * 2 ^ (52 - n.log2) := by
    rw [← hscale 0]
    exact Nat.mul_le_mul_right _ hlow
  have hmost : n * 2 ^ (52 - n.log2) < 2 ^ 53 := by
    rw [← hscale 1]
    exact Nat.mul_lt_mul_of_pos_right hhigh (Nat.two_pow_pos _)
  refine ⟨n.log2, _, by omega, hleast, hmost, ?_⟩
  have hexponent : ((0 : Int) + n.log2 + 1022).toNat = n.log2 + 1022 := by omega
  simp only [ofNat, ofScaled, twoPow_eq, if_neg (Nat.pos_iff_ne_zero.1 pos),
    if_pos (Nat.le_of_lt_succ hwidth), hexponent]
  refine UInt64.toNat_ofNat_of_lt' ?_
  change _ < 2 ^ 64
  omega

/-- The opposite of a positive number has the sign set, and the other bits as they were. -/
theorem toNat_bits_negate {x : Binary64} (positive : x.bits.toNat < 2 ^ 63) :
    x.negate.bits.toNat = 2 ^ 63 + x.bits.toNat := by
  have hsum := Nat.two_pow_add_eq_or_of_lt positive 1
  rw [Nat.mul_one] at hsum
  rw [hsum]
  refine Nat.eq_of_testBit_eq fun i => ?_
  have hsign : (0x8000000000000000 : UInt64).toNat = 2 ^ 63 := rfl
  rw [negate, UInt64.toNat_xor, hsign, Nat.testBit_xor, Nat.testBit_or, Nat.testBit_two_pow]
  by_cases hi : 63 = i
  · subst hi
    rw [Nat.testBit_lt_two_pow positive]
    rfl
  · simp [hi]

/-- **A negative integer that fits in the significand has no square root.** -/
theorem sqrt_ofInt_of_neg {i : Int} (negative : i < 0) (fits : i.natAbs < 2 ^ 53) :
    (ofInt i).sqrt = nan := by
  obtain ⟨width, scaled, hwidth, hleast, hmost, hbits⟩ :=
    toNat_bits_ofNat (Int.natAbs_pos.2 (Int.ne_of_lt negative)) fits
  have hpositive : (ofNat i.natAbs).bits.toNat < 2 ^ 63 := by omega
  have hnegate := toNat_bits_negate hpositive
  have hzero : (ofNat i.natAbs).negate.isZero = false := by
    simp only [isZero, exponentField, fractionField, twoPow_eq, hnegate, Bool.and_eq_false_iff,
      beq_eq_false_iff_ne]
    omega
  have hsign : (ofNat i.natAbs).negate.isNegative = true := by
    simp only [isNegative, twoPow_eq, hnegate, decide_eq_true_eq]
    omega
  rw [ofInt, if_pos negative, sqrt, hzero, hsign]
  simp

/-! ## Square roots that are numbers -/

theorem roundShift_le (n shift : Nat) : roundShift n shift ≤ n / 2 ^ shift + 1 := by
  unfold roundShift
  dsimp only
  rw [twoPow_eq]
  split <;> omega

/-- The significand of a scaled number, the hidden bit and a carry out of the rounding included. -/
theorem bits_ofScaled {n : Nat} (pos : n ≠ 0) (e : Int) : ∃ significand, significand ≤ 2 ^ 53 ∧
    (ofScaled n e).bits =
      UInt64.ofNat ((e + n.log2 + 1022).toNat * 2 ^ 52 + significand) := by
  have hhigh : n < 2 ^ (n.log2 + 1) := Nat.lt_log2_self
  simp only [ofScaled, if_neg pos, twoPow_eq]
  split
  next small =>
    refine ⟨_, ?_, rfl⟩
    calc n * 2 ^ (52 - n.log2) ≤ 2 ^ (n.log2 + 1) * 2 ^ (52 - n.log2) :=
          Nat.mul_le_mul_right _ (Nat.le_of_lt hhigh)
      _ = 2 ^ 53 := by
          rw [← Nat.pow_add]
          congr 1
          omega
  next large =>
    have hquotient : n / 2 ^ (n.log2 - 52) < 2 ^ 53 := by
      refine Nat.div_lt_of_lt_mul ?_
      rw [← Nat.pow_add]
      refine Nat.lt_of_lt_of_le hhigh (Nat.pow_le_pow_right (by decide) ?_)
      omega
    have hround := roundShift_le n (n.log2 - 52)
    exact ⟨_, by omega, rfl⟩

/-- A scaled number is a number if its exponent stays below the greatest one, which stands for
infinities and for no number, even if the rounding carries. -/
theorem isNaN_ofScaled {n : Nat} {e : Int} (fits : e + n.log2 ≤ 1022) :
    (ofScaled n e).isNaN = false := by
  by_cases pos : n = 0
  · have hzero : zero.isNaN = false := by decide
    rw [ofScaled, if_pos pos, hzero]
  obtain ⟨significand, hsignificand, hbits⟩ := bits_ofScaled pos e
  have hexponent : (e + n.log2 + 1022).toNat ≤ 2044 := by omega
  have hnat : (ofScaled n e).bits.toNat =
      (e + n.log2 + 1022).toNat * 2 ^ 52 + significand := by
    rw [hbits]
    refine UInt64.toNat_ofNat_of_lt' ?_
    change _ < 2 ^ 64
    omega
  have hfield : (ofScaled n e).exponentField ≠ 2047 := by
    rw [exponentField, hnat, twoPow_eq, twoPow_eq]
    omega
  simp [isNaN, hfield]

/-- Each further digit adds less than its place. -/
theorem extendRoot_lt (n count r : Nat) : extendRoot n count r < r + 2 ^ count := by
  induction count generalizing r with
  | zero =>
    rw [extendRoot]
    omega
  | succ count ih =>
    rw [extendRoot, Nat.pow_succ, twoPow_eq]
    split
    · have hlater := ih (r + 2 ^ count)
      omega
    · have hlater := ih r
      omega

theorem floorSqrt_lt {n k : Nat} (h : n < 2 ^ (2 * k)) : floorSqrt n < 2 ^ k := by
  have hroot := extendRoot_lt n (n.log2 / 2 + 1) 0
  by_cases pos : n = 0
  · subst pos
    exact Nat.two_pow_pos k
  have hlog : n.log2 < 2 * k := (Nat.log2_lt pos).2 h
  have hmost : 2 ^ (n.log2 / 2 + 1) ≤ 2 ^ k := Nat.pow_le_pow_right (by decide) (by omega)
  unfold floorSqrt
  omega

theorem significand_lt (x : Binary64) : x.significand < 2 ^ 53 := by
  have hfraction : x.fractionField < 2 ^ 52 := Nat.mod_lt _ (Nat.two_pow_pos 52)
  unfold significand
  rw [twoPow_eq]
  split <;> omega

theorem exponent_le {x : Binary64} (number : x.isNaN = false) (finite : x.isInfinite = false) :
    x.exponent ≤ 971 := by
  have hfield : x.exponentField < 2 ^ 11 := Nat.mod_lt _ (Nat.two_pow_pos 11)
  have hgreatest : x.exponentField ≠ 2047 := by
    intro greatest
    simp only [isNaN, isInfinite, greatest, beq_self_eq_true, Bool.true_and, bne_eq_false_iff_eq,
      beq_eq_false_iff_ne] at number finite
    exact finite number
  unfold exponent
  omega

/-- The root of a finite number is scaled to a number. -/
theorem isNaN_scaledRoot {m shift inexact : Nat} {e : Int} (hm : m < 2 ^ 53) (hshift : shift ≤ 111)
    (hinexact : inexact ≤ 1) (he : e ≤ 429) :
    (ofScaled (2 * floorSqrt (m * twoPow shift) + inexact) e).isNaN = false := by
  have hradicand : m * twoPow shift < 2 ^ (2 * 82) :=
    calc m * twoPow shift ≤ m * 2 ^ 111 :=
          Nat.mul_le_mul_left _ (Nat.pow_le_pow_right (by decide) hshift)
      _ < 2 ^ 53 * 2 ^ 111 := Nat.mul_lt_mul_of_pos_right hm (Nat.two_pow_pos 111)
      _ = 2 ^ (2 * 82) := (Nat.pow_add 2 53 111).symm
  have hroot := floorSqrt_lt hradicand
  have hwidth : (2 * floorSqrt (m * twoPow shift) + inexact).log2 ≤ 82 := by
    by_cases pos : 2 * floorSqrt (m * twoPow shift) + inexact = 0
    · rw [pos]
      decide
    · refine Nat.le_of_lt_succ ((Nat.log2_lt pos).2 ?_)
      omega
  exact isNaN_ofScaled (by omega)

/-- **A square root is no number just where the operand is none, or is negative and no zero.** -/
theorem isNaN_sqrt_iff (x : Binary64) : x.sqrt.isNaN = true ↔
    x.isNaN = true ∨ (x.isNegative = true ∧ x.isZero = false) := by
  have hnan : nan.isNaN = true := by decide
  unfold sqrt
  cases number : x.isNaN with
  | true => simp [hnan]
  | false =>
    cases zero : x.isZero with
    | true => simp [number]
    | false =>
      cases negative : x.isNegative with
      | true => simp [hnan]
      | false =>
        cases finite : x.isInfinite with
        | true => simp [number]
        | false =>
          have hexponent := exponent_le number finite
          have hroot (shift : Nat) (hleast : 110 ≤ shift) (hmost : shift ≤ 111) :
              let radicand := x.significand * twoPow shift
              let root := floorSqrt radicand
              let inexact := if root * root = radicand then 0 else 1
              (ofScaled (2 * root + inexact) ((x.exponent - shift) / 2 - 1)).isNaN = false := by
            refine isNaN_scaledRoot x.significand_lt hmost ?_ (by omega)
            split <;> decide
          simp only [Bool.false_eq_true, if_false, false_and, or_false, iff_false,
            Bool.not_eq_true]
          split
          · exact hroot 110 (by decide) (by decide)
          · exact hroot 111 (by decide) (by decide)

/-- **Of the integers that fit in the significand, just the negative ones have no square root.** -/
theorem isNaN_sqrt_ofInt_iff {i : Int} (fits : i.natAbs < 2 ^ 53) :
    (ofInt i).sqrt.isNaN = true ↔ i < 0 := by
  refine ⟨fun h => ?_, fun negative => ?_⟩
  · refine Decidable.byContradiction fun nonneg => ?_
    rw [ofInt, if_neg nonneg] at h
    by_cases hzero : i.natAbs = 0
    · rw [hzero] at h
      revert h
      decide
    obtain ⟨width, scaled, hwidth, hleast, hmost, hbits⟩ :=
      toNat_bits_ofNat (Nat.pos_of_ne_zero hzero) fits
    rcases (isNaN_sqrt_iff _).1 h with hnan | ⟨hsign, -⟩
    · simp only [isNaN, exponentField, twoPow_eq, hbits, Bool.and_eq_true, beq_iff_eq] at hnan
      omega
    · simp only [isNegative, twoPow_eq, hbits, decide_eq_true_eq] at hsign
      omega
  · rw [sqrt_ofInt_of_neg negative fits]
    decide

end Binary64

end PointBridge
