/-
# Words and their bytes

Machine words that are put together from bytes, and taken apart, by shifts and masks: what these
operations mean for the numbers.
-/
import Mathlib

namespace Words

/-- Numbers whose bits do not overlap are put together by adding them. -/
lemma or_shiftLeft {a b k : ℕ} (h : a < 2 ^ k) : a ||| b <<< k = a + 2 ^ k * b := by
  rw [Nat.or_comm, ← Nat.shiftLeft_add_eq_or_of_lt h, Nat.shiftLeft_eq]
  ring

/-- The conversion of a signed number to a word of `k` bits keeps a number that fits. -/
lemma toNat_emod {n k : ℕ} (h : n < 2 ^ k) : ((n : ℤ) % 2 ^ k).toNat = n := by
  rw [show (2 : ℤ) ^ k = ((2 ^ k : ℕ) : ℤ) by push_cast; rfl, ← Int.natCast_mod, Int.toNat_natCast,
    Nat.mod_eq_of_lt h]

/-- A byte that is shifted inside a word of 32 bits. -/
lemma toNat_shiftLeft (p : UInt8) {k : UInt32} (hk : k.toNat ≤ 24) :
    (p.toUInt32 <<< k).toNat = p.toNat <<< k.toNat := by
  have hfit : p.toNat <<< k.toNat < 2 ^ 32 := by
    rw [Nat.shiftLeft_eq]
    calc p.toNat * 2 ^ k.toNat < 2 ^ 8 * 2 ^ 24 :=
          Nat.mul_lt_mul_of_lt_of_le p.toNat_lt (Nat.pow_le_pow_right (by omega) hk) (by positivity)
      _ = 2 ^ 32 := by norm_num
  have hk' : k.toNat % 32 = k.toNat := Nat.mod_eq_of_lt (by omega)
  rw [UInt32.toNat_shiftLeft, UInt8.toNat_toUInt32, hk', Nat.mod_eq_of_lt hfit]

/-- Four bytes, least significant first. -/
lemma toNat_le32 (p0 p1 p2 p3 : UInt8) :
    (p0.toUInt32 ||| (p1.toUInt32 <<< 8) ||| (p2.toUInt32 <<< 16) ||| (p3.toUInt32 <<< 24)).toNat
      = p0.toNat + 2 ^ 8 * p1.toNat + 2 ^ 16 * p2.toNat + 2 ^ 24 * p3.toNat := by
  have h0 := p0.toNat_lt
  have h1 := p1.toNat_lt
  have h2 := p2.toNat_lt
  rw [UInt32.toNat_or, UInt32.toNat_or, UInt32.toNat_or, toNat_shiftLeft p1 (by decide),
    toNat_shiftLeft p2 (by decide), toNat_shiftLeft p3 (by decide), UInt8.toNat_toUInt32]
  simp only [UInt32.reduceToNat]
  rw [or_shiftLeft h0, @or_shiftLeft _ p2.toNat 16 (by omega),
    @or_shiftLeft _ p3.toNat 24 (by omega)]

/-- Two bytes, most significant first. -/
lemma toNat_be16 (p0 p1 : UInt8) :
    ((p0.toUInt32 <<< 8) ||| p1.toUInt32).toNat = 2 ^ 8 * p0.toNat + p1.toNat := by
  rw [UInt32.toNat_or, toNat_shiftLeft p0 (by decide), UInt8.toNat_toUInt32, Nat.or_comm]
  exact (or_shiftLeft p1.toNat_lt).trans (Nat.add_comm _ _)

/-- One byte of a word of 32 bits. -/
lemma toNat_byte (v : UInt32) {k : UInt32} (hk : k.toNat < 32) :
    ((v >>> k) &&& 0xff).toUInt8.toNat = v.toNat / 2 ^ k.toNat % 256 := by
  rw [UInt32.toNat_toUInt8, UInt32.toNat_and, UInt32.toNat_shiftRight, Nat.mod_eq_of_lt hk,
    Nat.shiftRight_eq_div_pow, show UInt32.toNat 0xff = 2 ^ 8 - 1 from rfl,
    Nat.and_two_pow_sub_one_eq_mod]
  omega

/-- **A word is put together from its bytes.** -/
lemma le32_bytes (v : UInt32) :
    (v &&& 0xff).toUInt8.toUInt32 ||| (((v >>> 8) &&& 0xff).toUInt8.toUInt32 <<< 8)
      ||| (((v >>> 16) &&& 0xff).toUInt8.toUInt32 <<< 16)
      ||| (((v >>> 24) &&& 0xff).toUInt8.toUInt32 <<< 24) = v := by
  have hv := v.toNat_lt
  have h0 : (v &&& 0xff).toUInt8.toNat = v.toNat % 256 := by
    simpa using @toNat_byte v 0 (by decide)
  rw [← UInt32.toNat_inj, toNat_le32, h0, toNat_byte v (by decide), toNat_byte v (by decide),
    toNat_byte v (by decide)]
  simp only [UInt32.reduceToNat]
  omega

end Words
