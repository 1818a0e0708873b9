/-
# Hexadecimal strings

Bytes as pairs of hexadecimal digits.  Small letters are written; when reading, small and
capital letters are the same.
-/
import Mathlib

namespace Hex

/-- The digit with the value `d`. -/
def digit (d : ℕ) : UInt8 := UInt8.ofNat (if d < 10 then 48 + d else 87 + d)

/-- The value of a digit. -/
def digitValue (c : UInt8) : Option ℕ :=
  if 48 ≤ c.toNat ∧ c.toNat ≤ 57 then some (c.toNat - 48)
  else if 97 ≤ c.toNat ∧ c.toNat ≤ 102 then some (c.toNat - 87)
  else if 65 ≤ c.toNat ∧ c.toNat ≤ 70 then some (c.toNat - 55)
  else none

/-- Two digits for each byte. -/
def encode : List UInt8 → List UInt8
  | [] => []
  | b :: l => digit (b.toNat / 16) :: digit (b.toNat % 16) :: encode l

/-- The bytes that a string of digits stands for; there is none for an odd number of digits. -/
def decode : List UInt8 → Option (List UInt8)
  | [] => some []
  | [_] => none
  | a :: b :: l =>
    match digitValue a, digitValue b, decode l with
    | some x, some y, some r => some (UInt8.ofNat (16 * x + y) :: r)
    | _, _, _ => none

lemma toNat_digit {d : ℕ} (h : d < 16) :
    (digit d).toNat = if d < 10 then 48 + d else 87 + d := by
  rw [digit, UInt8.toNat_ofNat']
  split <;> omega

lemma digitValue_digit {d : ℕ} (h : d < 16) : digitValue (digit d) = some d := by
  rw [digitValue, toNat_digit h]
  by_cases hd : d < 10
  · rw [if_pos hd, if_pos (by omega), Nat.add_sub_cancel_left]
  · rw [if_neg hd, if_neg (by omega), if_pos (by omega), Nat.add_sub_cancel_left]

/-- **Decoding undoes encoding.** -/
lemma decode_encode (l : List UInt8) : decode (encode l) = some l := by
  induction l with
  | nil => rfl
  | cons b l ih =>
    have hb := b.toNat_lt
    have hsum : 16 * (b.toNat / 16) + b.toNat % 16 = b.toNat := by omega
    simp only [encode, decode, digitValue_digit (show b.toNat / 16 < 16 by omega),
      digitValue_digit (show b.toNat % 16 < 16 by omega), ih, hsum, UInt8.ofNat_toNat]

/-- An encoding consists of digits and small letters. -/
lemma of_mem_encode {l : List UInt8} {c : UInt8} (h : c ∈ encode l) :
    48 ≤ c.toNat ∧ c.toNat ≤ 102 := by
  induction l with
  | nil => cases h
  | cons b l ih =>
    have hb := b.toNat_lt
    simp only [encode, List.mem_cons] at h
    rcases h with rfl | rfl | h
    · rw [toNat_digit (by omega)]
      split <;> omega
    · rw [toNat_digit (by omega)]
      split <;> omega
    · exact ih h

lemma encode_ne_nil {l : List UInt8} (h : l ≠ []) : encode l ≠ [] := by
  cases l with
  | nil => exact absurd rfl h
  | cons b l => simp [encode]

end Hex
