import Mathlib.Algebra.Group.Nat.Defs
import Mathlib.Logic.ExistsUnique
import Mathlib.Logic.Function.Iterate
import PointBridge.Arena

/-!
# Handles and generations

A handle is determined by its index and its generation, and every pair of these is a handle
(`Handle.index_pack`, `Handle.generation_pack`, `Handle.pack_index_generation`), also where a host
carries it as a signed word (`Handle.signed_words_denote_halves`). The generations of a slot run
through the words from 1 to `2 ^ 32 - 1` and then start over, so that a generation comes back only
after that many retirements (`Slot.iterate_nextGeneration_ne`).
-/

namespace PointBridge

/-! ## The halves of a handle -/

namespace Handle

theorem toNat_index (h : Handle) : h.index.toNat = h.raw.toNat % 2 ^ 32 := by
  simp only [index, UInt64.toNat_toUInt32]

theorem toNat_generation (h : Handle) : h.generation.toNat = h.raw.toNat / 2 ^ 32 := by
  have hlt : h.raw.toNat / 2 ^ 32 < 2 ^ 32 := by
    have := h.raw.toNat_lt
    omega
  simp only [generation, UInt64.toNat_toUInt32, UInt64.toNat_shiftRight, UInt64.toNat_ofNat,
    Nat.shiftRight_eq_div_pow]
  exact Nat.mod_eq_of_lt hlt

/-- The two halves do not overlap in the word. -/
theorem toNat_raw_pack (index generation : UInt32) :
    (pack index generation).raw.toNat = generation.toNat * 2 ^ 32 + index.toNat := by
  have hi := index.toNat_lt
  have hg := generation.toNat_lt
  have hshift : generation.toNat <<< 32 < 2 ^ 64 := by
    rw [Nat.shiftLeft_eq]
    omega
  simp only [pack, UInt64.toNat_or, UInt64.toNat_shiftLeft, UInt32.toNat_toUInt64]
  change generation.toNat <<< 32 % 2 ^ 64 ||| index.toNat = _
  rw [Nat.mod_eq_of_lt hshift, ← Nat.shiftLeft_add_eq_or_of_lt hi, Nat.shiftLeft_eq]

theorem eq_of_toNat_raw {h k : Handle} (e : h.raw.toNat = k.raw.toNat) : h = k := by
  cases h
  cases k
  exact congrArg Handle.mk (UInt64.toNat_inj.1 e)

@[simp] theorem index_pack (index generation : UInt32) : (pack index generation).index = index := by
  have hi := index.toNat_lt
  apply UInt32.toNat_inj.1
  rw [toNat_index, toNat_raw_pack]
  omega

@[simp] theorem generation_pack (index generation : UInt32) :
    (pack index generation).generation = generation := by
  have hi := index.toNat_lt
  apply UInt32.toNat_inj.1
  rw [toNat_generation, toNat_raw_pack]
  omega

@[simp] theorem pack_index_generation (h : Handle) : pack h.index h.generation = h := by
  apply eq_of_toNat_raw
  rw [toNat_raw_pack, toNat_index, toNat_generation]
  omega

/-- Handles with the same index and the same generation are the same. -/
theorem eq_of_halves {h k : Handle} (hi : h.index = k.index) (hg : h.generation = k.generation) :
    h = k := by
  rw [← pack_index_generation h, hi, hg, pack_index_generation]

theorem pack_inj {i g i' g' : UInt32} : pack i g = pack i' g' ↔ i = i' ∧ g = g' := by
  constructor
  · intro same
    exact ⟨by simpa using congrArg index same, by simpa using congrArg generation same⟩
  · rintro ⟨rfl, rfl⟩
    rfl

@[simp] theorem generation_null : null.generation = 0 := rfl

/-! ## Signed words -/

@[simp] theorem ofSigned_toSigned (h : Handle) : ofSigned h.toSigned = h := rfl

@[simp] theorem toSigned_ofSigned (word : Int64) : (ofSigned word).toSigned = word := rfl

/-- The sign of the word is the highest bit of the generation. -/
theorem neg_iff_le_generation (word : Int64) :
    word < 0 ↔ 2 ^ 31 ≤ (ofSigned word).generation.toNat := by
  have hneg : word < 0 ↔ 2 ^ 64 ≤ 2 * (ofSigned word).raw.toNat :=
    Int64.lt_iff_toInt_lt.trans BitVec.toInt_neg_iff
  rw [hneg, toNat_generation]
  omega

/-- **A signed word denotes one pair of an index and a generation.** The halves of a handle are
those of which it was made, and a word is made of its halves; so different pairs have different
words, and only that of zeros is the word 0. To carry a word as a signed one loses nothing in either
direction, and the negative words are those whose generation is at least `2 ^ 31`. -/
theorem signed_words_denote_halves :
    (∀ i g : UInt32, (pack i g).index = i ∧ (pack i g).generation = g) ∧
    (∀ raw : UInt64, (pack (index ⟨raw⟩) (generation ⟨raw⟩)).raw = raw) ∧
    (∀ i g i' g' : UInt32, (pack i g).raw = (pack i' g').raw ↔ i = i' ∧ g = g') ∧
    (∀ i g : UInt32, (pack i g).raw = 0 ↔ i = 0 ∧ g = 0) ∧
    (∀ h : Handle, ofSigned h.toSigned = h) ∧
    (∀ word : Int64, (ofSigned word).toSigned = word) ∧
    ∀ word : Int64, (∃! halves : UInt32 × UInt32, ofSigned word = pack halves.1 halves.2) ∧
      (word < 0 ↔ 2 ^ 31 ≤ (ofSigned word).generation.toNat) := by
  have apart (i g i' g' : UInt32) : (pack i g).raw = (pack i' g').raw ↔ i = i' ∧ g = g' :=
    ⟨fun same => pack_inj.1 (congrArg Handle.mk same), fun same => congrArg raw (pack_inj.2 same)⟩
  refine ⟨fun i g => ⟨index_pack i g, generation_pack i g⟩,
    fun word => congrArg raw (pack_index_generation ⟨word⟩), apart, fun i g => apart i g 0 0,
    ofSigned_toSigned, toSigned_ofSigned, fun word => ⟨?_, neg_iff_le_generation word⟩⟩
  refine ⟨((ofSigned word).index, (ofSigned word).generation), (pack_index_generation _).symm, ?_⟩
  rintro ⟨i, g⟩ made
  rw [made, index_pack, generation_pack]

end Handle

/-! ## The cycle of generations -/

namespace Slot

/-- The number of generations that a slot goes through before they repeat. -/
def generationCount : Nat := 2 ^ 32 - 1

theorem toNat_nextGeneration (g : UInt32) :
    (nextGeneration g).toNat = g.toNat % generationCount + 1 := by
  have hg := g.toNat_lt
  have hadd : (g + 1).toNat = (g.toNat + 1) % 2 ^ 32 := UInt32.toNat_add g 1
  unfold nextGeneration generationCount
  split
  next h0 =>
    rw [h0] at hadd
    change 0 = _ at hadd
    change 1 = _
    omega
  next h0 =>
    have : (g + 1).toNat ≠ 0 := fun h => h0 (UInt32.toNat_inj.1 h)
    omega

theorem one_le_nextGeneration (g : UInt32) : 1 ≤ nextGeneration g := by
  have h := toNat_nextGeneration g
  change 1 ≤ (nextGeneration g).toNat
  omega

theorem toNat_iterate_nextGeneration (g : UInt32) (r : Nat) :
    (nextGeneration^[r + 1] g).toNat = (g.toNat + r) % generationCount + 1 := by
  induction r with
  | zero => exact toNat_nextGeneration g
  | succ r ih =>
    rw [Function.iterate_succ_apply', toNat_nextGeneration, ih]
    unfold generationCount
    omega

/-- **Generations in closed form.** -/
theorem generationAfter_eq (g : UInt32) (r : Nat) : generationAfter g r = nextGeneration^[r] g := by
  cases r with
  | zero => rfl
  | succ r =>
    apply UInt32.toNat_inj.1
    rw [toNat_iterate_nextGeneration, generationAfter, UInt32.toNat_ofNat_of_lt']
    · rfl
    · have := Nat.mod_lt (g.toNat + r) (by decide : 0 < UInt32.size - 1)
      have : UInt32.size = 2 ^ 32 := rfl
      omega

/-- After all of its generations a slot is in the one that it was in. -/
theorem iterate_nextGeneration_generationCount {g : UInt32} (hg : 1 ≤ g) :
    nextGeneration^[generationCount] g = g := by
  apply UInt32.toNat_inj.1
  have h1 : 1 ≤ g.toNat := hg
  have h2 := g.toNat_lt
  have count : generationCount = 4294967294 + 1 := rfl
  rw [count, toNat_iterate_nextGeneration, count]
  omega

/-- Below the last one, generations count up. -/
theorem iterate_nextGeneration_of_lt {g : UInt32} {r : Nat} (hr : g.toNat + r < 2 ^ 32) :
    nextGeneration^[r] g = .ofNat (g.toNat + r) := by
  apply UInt32.toNat_inj.1
  rw [UInt32.toNat_ofNat_of_lt' hr]
  cases r with
  | zero => rfl
  | succ r =>
    rw [toNat_iterate_nextGeneration]
    unfold generationCount
    omega

/-- **A generation does not come back** before the slot has gone through all the others. -/
theorem iterate_nextGeneration_ne {g : UInt32} (hg : 1 ≤ g) {r : Nat} (h0 : 0 < r)
    (hr : r < generationCount) : nextGeneration^[r] g ≠ g := by
  obtain ⟨r, rfl⟩ := Nat.exists_eq_succ_of_ne_zero (Nat.ne_of_gt h0)
  intro e
  have h := toNat_iterate_nextGeneration g r
  rw [e] at h
  have h1 : 1 ≤ g.toNat := hg
  have h2 := g.toNat_lt
  unfold generationCount at h hr
  omega

end Slot

end PointBridge
