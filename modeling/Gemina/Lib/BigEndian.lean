/-
# Big-endian numbers

The big-endian encoding of natural numbers in a fixed number of bytes, and its inverse.
-/
import Mathlib

namespace BigEndian

/-- The low `k` bytes of `n`, most significant byte first. -/
def encode : ℕ → ℕ → List UInt8
  | 0, _ => []
  | k + 1, n => UInt8.ofNat (n / 256 ^ k) :: encode k n

/-- The number that a byte string denotes, most significant byte first. -/
def decode : List UInt8 → ℕ
  | [] => 0
  | b :: l => b.toNat * 256 ^ l.length + decode l

@[simp] lemma length_encode (k n : ℕ) : (encode k n).length = k := by
  induction k with
  | zero => rfl
  | succ k ih => simp [encode, ih]

lemma decode_lt (l : List UInt8) : decode l < 256 ^ l.length := by
  induction l with
  | nil => simp [decode]
  | cons b l ih =>
    have hb : b.toNat + 1 ≤ 256 := b.toNat_lt
    calc decode (b :: l) < b.toNat * 256 ^ l.length + 256 ^ l.length := by
          simp only [decode]
          omega
      _ = (b.toNat + 1) * 256 ^ l.length := by ring
      _ ≤ 256 * 256 ^ l.length := Nat.mul_le_mul_right _ hb
      _ = 256 ^ (b :: l).length := by rw [List.length_cons, pow_succ']

/-- Decoding undoes encoding, up to the bytes that did not fit. -/
lemma decode_encode (k n : ℕ) : decode (encode k n) = n % 256 ^ k := by
  induction k with
  | zero => simp [encode, decode, Nat.mod_one]
  | succ k ih =>
    simp only [encode, decode, length_encode, ih, UInt8.toNat_ofNat']
    rw [show (256 : ℕ) ^ (k + 1) = 256 ^ k * 256 from pow_succ 256 k, Nat.mod_mul,
      Nat.mul_comm, Nat.add_comm]

lemma decode_encode_of_lt {k n : ℕ} (h : n < 256 ^ k) : decode (encode k n) = n := by
  rw [decode_encode, Nat.mod_eq_of_lt h]

/-- Bytes above the encoded ones do not matter. -/
lemma encode_mul_add (k c n : ℕ) : encode k (c * 256 ^ k + n) = encode k n := by
  induction k generalizing c with
  | zero => rfl
  | succ k ih =>
    have hpos : 0 < 256 ^ k := by positivity
    have heq : c * 256 ^ (k + 1) + n = (c * 256) * 256 ^ k + n := by ring
    have hhead : UInt8.ofNat ((c * 256 * 256 ^ k + n) / 256 ^ k) = UInt8.ofNat (n / 256 ^ k) := by
      rw [← UInt8.toNat_inj, UInt8.toNat_ofNat', UInt8.toNat_ofNat', Nat.add_comm,
        Nat.add_mul_div_right _ _ hpos]
      omega
    rw [heq, encode, encode, hhead, ih]

/-- Encoding undoes decoding. -/
lemma encode_decode (l : List UInt8) : encode l.length (decode l) = l := by
  induction l with
  | nil => rfl
  | cons b l ih =>
    have hpos : 0 < 256 ^ l.length := by positivity
    have hlt := decode_lt l
    have hdiv : (b.toNat * 256 ^ l.length + decode l) / 256 ^ l.length = b.toNat := by
      rw [Nat.add_comm, Nat.add_mul_div_right _ _ hpos, Nat.div_eq_of_lt hlt, zero_add]
    simp only [List.length_cons, encode, decode, hdiv, UInt8.ofNat_toNat, encode_mul_add, ih]

lemma encode_inj {k m n : ℕ} (hm : m < 256 ^ k) (hn : n < 256 ^ k)
    (h : encode k m = encode k n) : m = n := by
  rw [← decode_encode_of_lt hm, h, decode_encode_of_lt hn]

end BigEndian
