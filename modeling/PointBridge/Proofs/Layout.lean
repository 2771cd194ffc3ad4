import Mathlib.Algebra.Group.Nat.Defs
import PointBridge.Layout

/-!
# Points written to memory and read back

The four bytes of a word decode to the word (`wordOfBytes_wordBytes`), since each byte holds the
bits of the word at its place. So a buffer that a point was written to holds that point, whatever
was in the buffer and however long it is (`read?_of_write?`), and the distance of two such buffers
is that of the points (`distanceOfBuffers_of_write?`).

Conversely the bytes of a decoded word are those that it was decoded from
(`wordBytes_wordOfBytes`). So a buffer holds a point if and only if it starts with the bytes of the
point (`read?_eq_ok_iff`), and writing and reading are inverse to each other
(`codec_round_trips`).
-/

namespace PointBridge

/-! ## Words -/

/-- The bits that a byte of a number contributes at its place in a word. -/
theorem testBit_byte (n k i : Nat) : ((n >>> k % 2 ^ 8) <<< k % 2 ^ 32).testBit i =
    (decide (k ≤ i ∧ i < k + 8 ∧ i < 32) && n.testBit i) := by
  simp only [Nat.testBit_mod_two_pow, Nat.testBit_shiftLeft, Nat.testBit_shiftRight]
  by_cases hk : k ≤ i
  · have hi : k + (i - k) = i := by omega
    have hlt : i - k < 8 ↔ i < k + 8 := by omega
    by_cases h8 : i < k + 8 <;> by_cases h32 : i < 32 <;> simp [hk, hi, hlt, h8, h32]
  · simp [hk]

/-- The bytes of a word, each at its place, make up the word. -/
theorem or_bytes {n : Nat} (h : n < 2 ^ 32) :
    n % 2 ^ 8 ||| (n >>> 8 % 2 ^ 8) <<< 8 % 2 ^ 32 ||| (n >>> 16 % 2 ^ 8) <<< 16 % 2 ^ 32 |||
      (n >>> 24 % 2 ^ 8) <<< 24 % 2 ^ 32 = n := by
  refine Nat.eq_of_testBit_eq fun i => ?_
  rw [Nat.testBit_or, Nat.testBit_or, Nat.testBit_or, testBit_byte, testBit_byte, testBit_byte,
    Nat.testBit_mod_two_pow]
  cases hbit : n.testBit i with
  | false => simp
  | true =>
    have hi : i < 32 := by
      refine Nat.lt_of_not_le fun hi => ?_
      rw [Nat.testBit_lt_two_pow
        (Nat.lt_of_lt_of_le h (Nat.pow_le_pow_right (by decide) hi))] at hbit
      cases hbit
    simp only [Bool.and_true, Bool.or_eq_true, decide_eq_true_eq]
    omega

namespace Point

theorem wordOfBytes_wordBytes (word : Int32) : ∃ b₀ b₁ b₂ b₃,
    wordBytes word = [b₀, b₁, b₂, b₃] ∧ wordOfBytes b₀ b₁ b₂ b₃ = word := by
  refine ⟨_, _, _, _, rfl, ?_⟩
  have hword : word.toUInt32.toUInt8.toUInt32 ||| (word.toUInt32 >>> 8).toUInt8.toUInt32 <<< 8 |||
      (word.toUInt32 >>> 16).toUInt8.toUInt32 <<< 16 |||
      (word.toUInt32 >>> 24).toUInt8.toUInt32 <<< 24 = word.toUInt32 := by
    refine UInt32.toNat_inj.1 ?_
    simp only [UInt32.toNat_or, UInt32.toNat_shiftLeft, UInt8.toNat_toUInt32,
      UInt32.toNat_toUInt8, UInt32.toNat_shiftRight]
    exact or_bytes word.toUInt32.toNat_lt
  unfold wordOfBytes
  rw [hword]
  rfl

/-- Bits behind those of a number are added to it. -/
theorem or_shiftLeft {n b k : Nat} (hn : n < 2 ^ k) : n ||| b <<< k = n + b * 2 ^ k := by
  rw [Nat.or_comm, ← Nat.shiftLeft_add_eq_or_of_lt hn, Nat.shiftLeft_eq, Nat.add_comm]

/-- The word with the given bytes as a number to the base 256. -/
theorem toNat_wordOfBytes (b₀ b₁ b₂ b₃ : UInt8) : (wordOfBytes b₀ b₁ b₂ b₃).toUInt32.toNat =
    b₀.toNat + b₁.toNat * 2 ^ 8 + b₂.toNat * 2 ^ 16 + b₃.toNat * 2 ^ 24 := by
  have h₀ := b₀.toNat_lt
  have h₁ := b₁.toNat_lt
  have h₂ := b₂.toNat_lt
  have h₃ := b₃.toNat_lt
  -- no byte is shifted out of the word
  have fits (b : UInt8) (k : Nat) (hk : k ≤ 24) : b.toNat <<< k % 2 ^ 32 = b.toNat <<< k := by
    refine Nat.mod_eq_of_lt ?_
    calc b.toNat <<< k = b.toNat * 2 ^ k := Nat.shiftLeft_eq ..
      _ ≤ b.toNat * 2 ^ 24 := Nat.mul_le_mul_left _ (Nat.pow_le_pow_right (by decide) hk)
      _ < 2 ^ 8 * 2 ^ 24 := Nat.mul_lt_mul_of_pos_right b.toNat_lt (by decide)
  simp only [wordOfBytes, UInt32.toUInt32_toInt32, UInt32.toNat_or, UInt32.toNat_shiftLeft,
    UInt8.toNat_toUInt32]
  change b₀.toNat ||| b₁.toNat <<< 8 % 2 ^ 32 ||| b₂.toNat <<< 16 % 2 ^ 32 |||
    b₃.toNat <<< 24 % 2 ^ 32 = _
  rw [fits b₁ 8 (by decide), fits b₂ 16 (by decide), fits b₃ 24 (by decide),
    or_shiftLeft h₀, or_shiftLeft (k := 16) (by omega), or_shiftLeft (k := 24) (by omega)]

/-- The bytes of a decoded word are those that it was decoded from. -/
theorem wordBytes_wordOfBytes (b₀ b₁ b₂ b₃ : UInt8) :
    wordBytes (wordOfBytes b₀ b₁ b₂ b₃) = [b₀, b₁, b₂, b₃] := by
  have hw := toNat_wordOfBytes b₀ b₁ b₂ b₃
  have h₀ := b₀.toNat_lt
  have h₁ := b₁.toNat_lt
  have h₂ := b₂.toNat_lt
  have h₃ := b₃.toNat_lt
  have byte {k : UInt32} {b : UInt8} (n : Nat) (hk : k.toNat % 32 = n)
      (hb : (wordOfBytes b₀ b₁ b₂ b₃).toUInt32.toNat / 2 ^ n % 2 ^ 8 = b.toNat) :
      ((wordOfBytes b₀ b₁ b₂ b₃).toUInt32 >>> k).toUInt8 = b := by
    apply UInt8.toNat_inj.1
    rw [UInt32.toNat_toUInt8, UInt32.toNat_shiftRight, hk, Nat.shiftRight_eq_div_pow, hb]
  have first : (wordOfBytes b₀ b₁ b₂ b₃).toUInt32.toUInt8 = b₀ := by
    apply UInt8.toNat_inj.1
    rw [UInt32.toNat_toUInt8]
    omega
  rw [wordBytes, first, byte 8 rfl (b := b₁) (by omega), byte 16 rfl (b := b₂) (by omega),
    byte 24 rfl (b := b₃) (by omega)]

/-! ## Points -/

/-- The point at the start of some bytes is the one whose bytes stand there. -/
theorem read?_toBytes (p : Point) (rest : Bytes) : read? (p.toBytes ++ rest) = .ok p := by
  obtain ⟨x₀, x₁, x₂, x₃, hx, hx'⟩ := wordOfBytes_wordBytes p.x
  obtain ⟨y₀, y₁, y₂, y₃, hy, hy'⟩ := wordOfBytes_wordBytes p.y
  have hbytes : p.toBytes ++ rest = x₀ :: x₁ :: x₂ :: x₃ :: y₀ :: y₁ :: y₂ :: y₃ :: rest := by
    simp [toBytes, hx, hy]
  rw [hbytes, read?, hx', hy']

/-- **What was written is read back.** -/
theorem read?_of_write? {buffer written : Bytes} {p : Point}
    (h : write? buffer p = .ok written) : read? written = .ok p := by
  unfold write? at h
  split at h
  next => cases h
  next =>
    cases h
    exact p.read?_toBytes _

/-- A buffer that is long enough holds a point in its first bytes; a shorter one is refused. -/
theorem exists_read? (buffer : Bytes) : ∃ p : Point,
    read? buffer = (if buffer.length < layoutSize then
      .error (.bufferTooSmall layoutSize buffer.length) else .ok p) ∧
    (layoutSize ≤ buffer.length → read? (buffer.take layoutSize) = .ok p) := by
  by_cases short : buffer.length < layoutSize
  · refine ⟨⟨0, 0⟩, ?_, fun h => absurd short (Nat.not_lt.2 h)⟩
    rw [if_pos short]
    unfold read?
    split
    next => simp [layoutSize] at short; omega
    next => rfl
  · have long : layoutSize ≤ buffer.length := Nat.le_of_not_lt short
    match buffer, long with
    | x₀ :: x₁ :: x₂ :: x₃ :: y₀ :: y₁ :: y₂ :: y₃ :: rest, _ =>
      refine ⟨_, ?_, fun _ => rfl⟩
      rw [if_neg short]
      rfl

@[simp] theorem length_toBytes (p : Point) : p.toBytes.length = layoutSize := rfl

/-- **A buffer holds a point if it starts with the bytes of the point**, and only then. -/
theorem read?_eq_ok_iff {buffer : Bytes} {p : Point} :
    read? buffer = .ok p ↔ buffer.take layoutSize = p.toBytes := by
  constructor
  · intro h
    unfold read? at h
    split at h
    next =>
      obtain rfl := Except.ok.inj h
      rw [toBytes, wordBytes_wordOfBytes, wordBytes_wordOfBytes]
      rfl
    next => cases h
  · intro h
    rw [← List.take_append_drop layoutSize buffer, h]
    exact p.read?_toBytes _

theorem read?_eq_error_iff {buffer : Bytes} {e : PointError} : read? buffer = .error e ↔
    buffer.length < layoutSize ∧ e = .bufferTooSmall layoutSize buffer.length := by
  obtain ⟨p, hp, -⟩ := exists_read? buffer
  rw [hp]
  split
  next short => simp [short, eq_comm]
  next long => simp [long]

/-- What writing a point to a buffer answers, and the buffer afterwards. -/
def overwrite (buffer : Bytes) (p : Point) : Except PointError Unit × Bytes :=
  match write? buffer p with
  | .ok written => (.ok (), written)
  | .error e => (.error e, buffer)

section Overwriting

variable {buffer : Bytes} {p : Point}

theorem overwrite_of_le (long : layoutSize ≤ buffer.length) :
    overwrite buffer p = (.ok (), p.toBytes ++ buffer.drop layoutSize) := by
  rw [overwrite, write?, if_neg (Nat.not_lt.2 long)]

theorem overwrite_of_lt (short : buffer.length < layoutSize) :
    overwrite buffer p = (.error (.bufferTooSmall layoutSize buffer.length), buffer) := by
  rw [overwrite, write?, if_pos short]

theorem overwrite_fst_eq_ok_iff : (overwrite buffer p).1 = .ok () ↔ layoutSize ≤ buffer.length := by
  by_cases long : layoutSize ≤ buffer.length
  · simp [overwrite_of_le long, long]
  · simp [overwrite_of_lt (Nat.lt_of_not_le long), long]

theorem overwrite_fst_eq_error_iff {e : PointError} : (overwrite buffer p).1 = .error e ↔
    buffer.length < layoutSize ∧ e = .bufferTooSmall layoutSize buffer.length := by
  by_cases long : layoutSize ≤ buffer.length
  · simp [overwrite_of_le long, Nat.not_lt.2 long]
  · simp [overwrite_of_lt (Nat.lt_of_not_le long), Nat.lt_of_not_le long, eq_comm]

/-- Only the bytes of the point are replaced. -/
theorem getElem?_overwrite {i : Nat} (hi : layoutSize ≤ i) :
    (overwrite buffer p).2[i]? = buffer[i]? := by
  by_cases long : layoutSize ≤ buffer.length
  · rw [overwrite_of_le long, List.getElem?_append_right hi, length_toBytes, List.getElem?_drop,
      Nat.add_sub_cancel' hi]
  · rw [overwrite_of_lt (Nat.lt_of_not_le long)]

theorem length_overwrite : (overwrite buffer p).2.length = buffer.length := by
  by_cases long : layoutSize ≤ buffer.length
  · rw [overwrite_of_le long, List.length_append, length_toBytes, List.length_drop,
      Nat.add_sub_cancel' long]
  · rw [overwrite_of_lt (Nat.lt_of_not_le long)]

/-- A buffer holds a point if one fits. -/
theorem exists_read?_of_le (long : layoutSize ≤ buffer.length) : ∃ p, read? buffer = .ok p := by
  cases h : read? buffer with
  | ok p => exact ⟨p, rfl⟩
  | error e => exact absurd (read?_eq_error_iff.1 h).1 (Nat.not_lt.2 long)

/-- Writing back the point that is there changes nothing. -/
theorem overwrite_of_read? (h : read? buffer = .ok p) : overwrite buffer p = (.ok (), buffer) := by
  have start := read?_eq_ok_iff.1 h
  have long : layoutSize ≤ buffer.length := by
    have hlen := congrArg List.length start
    rw [List.length_take, length_toBytes] at hlen
    omega
  rw [overwrite_of_le long, ← start, List.take_append_drop]

end Overwriting

/-- Buffers hold the same point if they start with the same bytes of one. -/
theorem read?_eq_read?_iff {a b : Bytes} (long : layoutSize ≤ a.length) :
    read? a = read? b ↔ a.take layoutSize = b.take layoutSize := by
  obtain ⟨p, hp⟩ := exists_read?_of_le long
  rw [hp, eq_comm, read?_eq_ok_iff, read?_eq_ok_iff.1 hp, eq_comm]

/-- **Writing and reading points are inverse to each other.** Writing succeeds where a point fits
into the buffer, and only there. Then the length and the bytes behind the point are as before, and
the point is read back; otherwise the length is reported and nothing changes. In a buffer of any
length, at any offset where a point fits, the point that is read there can be written back without
a change. Two buffers hold the same point if they start with the same bytes of a point, and only
then. Reading is refused where writing is, with the same error. -/
theorem codec_round_trips :
    (∀ (buffer : Bytes) (p : Point),
      ((overwrite buffer p).1 = .ok () ↔ 8 ≤ buffer.length) ∧
      ((overwrite buffer p).1 = .ok () →
        (overwrite buffer p).2.length = buffer.length ∧
        (∀ i, 8 ≤ i → (overwrite buffer p).2[i]? = buffer[i]?) ∧
        read? (overwrite buffer p).2 = .ok p) ∧
      ∀ e, (overwrite buffer p).1 = .error e →
        e = .bufferTooSmall 8 buffer.length ∧ (overwrite buffer p).2 = buffer) ∧
    (∀ (buffer : Bytes) (offset : Nat), offset + 8 ≤ buffer.length →
      ∃ p, read? (buffer.drop offset) = .ok p ∧
        overwrite (buffer.drop offset) p = (.ok (), buffer.drop offset)) ∧
    (∀ a b : Bytes, 8 ≤ a.length → 8 ≤ b.length → (read? a = read? b ↔ a.take 8 = b.take 8)) ∧
    ∀ (buffer : Bytes) (p : Point) (e : PointError),
      read? buffer = .error e ↔ (overwrite buffer p).1 = .error e := by
  refine ⟨fun buffer p => ⟨overwrite_fst_eq_ok_iff, fun done => ?_, fun e refused => ?_⟩,
    fun buffer offset fits => ?_, fun a b long _ => read?_eq_read?_iff long, fun buffer p e => ?_⟩
  · have long := overwrite_fst_eq_ok_iff.1 done
    refine ⟨length_overwrite, fun i hi => getElem?_overwrite hi, ?_⟩
    rw [overwrite_of_le long]
    exact p.read?_toBytes _
  · obtain ⟨short, rfl⟩ := overwrite_fst_eq_error_iff.1 refused
    rw [overwrite_of_lt short]
    exact ⟨rfl, rfl⟩
  · have long : layoutSize ≤ (buffer.drop offset).length := by
      rw [List.length_drop, layoutSize]
      omega
    obtain ⟨p, hp⟩ := exists_read?_of_le long
    exact ⟨p, hp, overwrite_of_read? hp⟩
  · rw [read?_eq_error_iff, overwrite_fst_eq_error_iff]

/-- The distance of two buffers is that of the points that were written to them. -/
theorem distanceOfBuffers_of_write? {a b a' b' : Bytes} {p q : Point}
    (ha : write? a p = .ok a') (hb : write? b q = .ok b') :
    distanceOfBuffers a' b' = .ok (p.distance q) := by
  unfold distanceOfBuffers
  rw [read?_of_write? ha, read?_of_write? hb]
  rfl

end Point

end PointBridge
