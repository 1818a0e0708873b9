/-
# Decimal numerals

Natural numbers as strings of ASCII digits, most significant digit first and without leading
zeros, and their value.
-/
import Mathlib

namespace Decimal

/-- The decimal numeral of a number. -/
def encode (n : ℕ) : List UInt8 :=
  if n = 0 then [48] else (Nat.digits 10 n).reverse.map fun d => UInt8.ofNat (48 + d)

/-- The value of a string of digits. -/
def value (s : List UInt8) : ℕ := s.foldl (fun n c => 10 * n + (c.toNat - 48)) 0

lemma toNat_digit {d : ℕ} (h : d < 10) : (UInt8.ofNat (48 + d)).toNat = 48 + d := by
  rw [UInt8.toNat_ofNat', Nat.mod_eq_of_lt (by omega)]

lemma encode_ne_nil (n : ℕ) : encode n ≠ [] := by
  rw [encode]
  split
  · simp
  · rename_i hn
    simpa [Nat.digits_eq_nil_iff_eq_zero] using hn

/-- A numeral consists of digits. -/
lemma digit_of_mem_encode {n : ℕ} {c : UInt8} (h : c ∈ encode n) :
    48 ≤ c.toNat ∧ c.toNat ≤ 57 := by
  rw [encode] at h
  split at h
  · rw [List.mem_singleton.mp h]
    decide
  · obtain ⟨d, hd, rfl⟩ := List.mem_map.mp h
    have hlt := Nat.digits_lt_base (by norm_num) (List.mem_reverse.mp hd)
    rw [toNat_digit hlt]
    omega

/-- **A numeral has the value that it was made from.** -/
lemma value_encode (n : ℕ) : value (encode n) = n := by
  rw [encode]
  split
  · rename_i hn
    rw [hn]
    rfl
  · -- reading the digits from the left is Horner's rule
    rw [value, List.foldl_map, List.foldl_reverse]
    conv_rhs => rw [← Nat.ofDigits_digits 10 n, Nat.ofDigits_eq_foldr]
    have hdigits : ∀ d ∈ Nat.digits 10 n, d < 10 := fun d => Nat.digits_lt_base (by norm_num)
    generalize Nat.digits 10 n = l at hdigits
    induction l with
    | nil => rfl
    | cons d l ih =>
      rw [List.foldr_cons, List.foldr_cons, toNat_digit (hdigits d (by simp)),
        ih fun d hd => hdigits d (List.mem_cons_of_mem _ hd)]
      simp only [Nat.cast_id]
      omega

end Decimal
