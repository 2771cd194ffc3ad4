import Mathlib.Data.List.DropRight
import PointBridge.Text.Blank
import PointBridge.Text.Decimal

/-!
# Blank texts and decimal numbers

What is left of a text without white space at its ends is empty if the text is blank
(`trim_eq_nil_iff`). A number has as many written forms as zeros and a sign `+` can be put in front
of its digits (`Numeral`); these are what a reader takes for it, and nothing else is
(`readWord?_eq_some_iff`).
-/

namespace PointBridge.Text

/-! ## White space -/

/-- A text of nothing but white space. -/
def Blank (s : List Char) : Prop := ∀ c ∈ s, isBlank c = true

theorem trim_eq_nil_iff {s : List Char} : trim s = [] ↔ Blank s := by
  have hright : trim s = (s.dropWhile isBlank).rdropWhile isBlank := rfl
  rw [hright, List.rdropWhile_eq_nil_iff]
  constructor
  · intro behind c hc
    rw [← List.takeWhile_append_dropWhile (p := isBlank) (l := s)] at hc
    exact (List.mem_append.1 hc).elim List.mem_takeWhile_imp (behind c)
  · exact fun blank c hc => blank c ((List.dropWhile_sublist isBlank).mem hc)

/-! ## Digits -/

variable {s : List Char} {n : Nat}

theorem toNat_sub_lt {c : Char} (digit : c.isDigit = true) : c.toNat - '0'.toNat < 10 := by
  have high : c.toNat ≤ 57 := (Char.isDigit_iff_toNat.1 digit).2
  change c.toNat - 48 < 10
  omega

/-- A digit alone is the digits of its number. -/
theorem toDigits_toNat_sub {c : Char} (digit : c.isDigit = true) :
    Nat.toDigits 10 (c.toNat - '0'.toNat) = [c] := by
  have low : 48 ≤ c.toNat := (Char.isDigit_iff_toNat.1 digit).1
  rw [Nat.toDigits_of_lt_base (toNat_sub_lt digit), List.singleton_inj, ← Char.toNat_inj,
    Nat.toNat_digitChar_of_lt_ten (toNat_sub_lt digit)]
  exact Nat.add_sub_cancel' low

/-- Digits behind those of a number that is not zero give the digits of a number. -/
theorem toDigits_append (pos : 0 < n) (digits : ∀ c ∈ s, c.isDigit = true) :
    Nat.toDigits 10 n ++ s = Nat.toDigits 10 (Nat.ofDigitChars 10 s n) := by
  induction s generalizing n with
  | nil => simp
  | cons c rest ih =>
    obtain ⟨digit, later⟩ := List.forall_mem_cons.1 digits
    calc Nat.toDigits 10 n ++ c :: rest
        = Nat.toDigits 10 n ++ Nat.toDigits 10 (c.toNat - '0'.toNat) ++ rest := by
          rw [toDigits_toNat_sub digit, List.append_assoc, List.singleton_append]
      _ = Nat.toDigits 10 (10 * n + (c.toNat - '0'.toNat)) ++ rest := by
          rw [Nat.toDigits_append_toDigits (by decide) pos (toNat_sub_lt digit)]
      _ = Nat.toDigits 10 (Nat.ofDigitChars 10 (c :: rest) n) := by
          rw [ih (by omega) later, Nat.ofDigitChars_cons]

/-- Digits are the digits of a number with zeros in front. -/
theorem exists_eq_replicate_append (nonempty : s ≠ []) (digits : ∀ c ∈ s, c.isDigit = true) :
    ∃ zeros, s = List.replicate zeros '0' ++ Nat.toDigits 10 (Nat.ofDigitChars 10 s 0) := by
  induction s with
  | nil => exact absurd rfl nonempty
  | cons c rest ih =>
    obtain ⟨digit, later⟩ := List.forall_mem_cons.1 digits
    by_cases zero : c = '0'
    · subst zero
      cases rest with
      | nil => exact ⟨0, rfl⟩
      | cons d rest =>
        obtain ⟨zeros, hrest⟩ := ih (List.cons_ne_nil d rest) later
        refine ⟨zeros + 1, ?_⟩
        rw [Nat.ofDigitChars_cons, List.replicate_succ, List.cons_append]
        exact congrArg ('0' :: ·) hrest
    · refine ⟨0, ?_⟩
      have low : 48 ≤ c.toNat := (Char.isDigit_iff_toNat.1 digit).1
      have pos : 0 < c.toNat - '0'.toNat :=
        Nat.sub_pos_of_lt (Nat.lt_of_le_of_ne low fun h => zero (Char.toNat_inj.1 h.symm))
      have whole := toDigits_append pos later
      rw [toDigits_toNat_sub digit] at whole
      rw [Nat.ofDigitChars_cons, Nat.mul_zero, Nat.zero_add]
      exact whole

/-- A number is read from its digits with any zeros in front, and from nothing else. -/
theorem readNat?_eq_some_iff : readNat? s = some n ↔
    ∃ zeros, s = List.replicate zeros '0' ++ Nat.toDigits 10 n := by
  have hvalue : ofDigits s = Nat.ofDigitChars 10 s 0 := Nat.ofDigitChars_eq_foldl.symm
  unfold readNat?
  rw [Option.ite_none_right_eq_some, Option.some.injEq, hvalue, List.all_eq_true]
  constructor
  · rintro ⟨⟨nonempty, digits⟩, rfl⟩
    exact exists_eq_replicate_append nonempty digits
  · rintro ⟨zeros, rfl⟩
    refine ⟨⟨by simp, fun c hc => ?_⟩, ?_⟩
    · rcases List.mem_append.1 hc with hc | hc
      · rw [List.eq_of_mem_replicate hc]
        rfl
      · exact Nat.isDigit_of_mem_toDigits (by decide) (by decide) hc
    · rw [Nat.ofDigitChars_append, Nat.ofDigitChars_replicate_zero, Nat.mul_zero,
        Nat.ofDigitChars_ten_toDigits]

/-! ## Written forms -/

/-- The written forms of a number: a sign `+` or none, any zeros, and the decimal digits. -/
inductive Numeral (n : Nat) : List Char → Prop
  | unsigned (zeros : Nat) : Numeral n (List.replicate zeros '0' ++ Nat.toDigits 10 n)
  | signed (zeros : Nat) : Numeral n ('+' :: (List.replicate zeros '0' ++ Nat.toDigits 10 n))

theorem numeral_iff : Numeral n s ↔ readNat? (dropPlus s) = some n := by
  rw [readNat?_eq_some_iff]
  constructor
  · rintro (zeros | zeros)
    · -- digits do not start with the sign
      have unsigned : dropPlus (List.replicate zeros '0' ++ Nat.toDigits 10 n) =
          List.replicate zeros '0' ++ Nat.toDigits 10 n := by
        unfold dropPlus
        split
        next rest hplus =>
          have hread := readNat?_eq_some_iff (n := n).2 ⟨zeros, rfl⟩
          rw [hplus] at hread
          cases hread
        next => rfl
      exact ⟨zeros, unsigned⟩
    · exact ⟨zeros, rfl⟩
  · rintro ⟨zeros, hs⟩
    unfold dropPlus at hs
    split at hs
    next rest =>
      rw [hs]
      exact .signed zeros
    next =>
      rw [hs]
      exact .unsigned zeros

/-- **A word is read from the written forms of its number**, and from nothing else. -/
theorem readWord?_eq_some_iff {w : UInt64} : readWord? s = some w ↔ Numeral w.toNat s := by
  rw [numeral_iff]
  unfold readWord?
  cases readNat? (dropPlus s) with
  | none => simp
  | some m =>
    simp only [Option.ite_none_right_eq_some, Option.some.injEq]
    constructor
    · rintro ⟨hlt, rfl⟩
      exact (UInt64.toNat_ofNat_of_lt' hlt).symm
    · rintro rfl
      exact ⟨w.toNat_lt, UInt64.ofNat_toNat⟩

end PointBridge.Text
