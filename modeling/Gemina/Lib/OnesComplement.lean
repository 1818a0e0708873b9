/-
# One's-complement sums

The Internet checksum adds words of 16 bits and carries what leaves them back in at the low end.
Such a sum is the sum modulo `2 ^ 16 - 1`, except that zero and `2 ^ 16 - 1` are told apart: the
carry never makes a zero out of a sum that is not zero.
-/
import Mathlib

namespace OnesComplement

/-- Carry what is above 16 bits back in, until nothing is. -/
def fold (sum : ℕ) : ℕ :=
  if sum / 2 ^ 16 = 0 then sum else fold (sum % 2 ^ 16 + sum / 2 ^ 16)
termination_by sum
decreasing_by omega

lemma fold_lt (sum : ℕ) : fold sum < 2 ^ 16 := by
  fun_induction fold sum with
  | case1 sum h => omega
  | case2 sum h ih => exact ih

lemma fold_mod (sum : ℕ) : fold sum % 65535 = sum % 65535 := by
  fun_induction fold sum with
  | case1 sum h => rfl
  | case2 sum h ih =>
    rw [ih]
    omega

lemma fold_eq_zero {sum : ℕ} : fold sum = 0 ↔ sum = 0 := by
  fun_induction fold sum with
  | case1 sum h => rfl
  | case2 sum h ih =>
    rw [ih]
    omega

/-- **A sum that vanishes modulo `2 ^ 16 - 1` folds to all ones.** -/
lemma fold_eq_ones {sum : ℕ} (hpos : 0 < sum) (hmod : sum % 65535 = 0) : fold sum = 65535 := by
  have hlt := fold_lt sum
  have hmod' := fold_mod sum
  have hne : fold sum ≠ 0 := fun h => hpos.ne' (fold_eq_zero.mp h)
  omega

/-- The complement of a sum makes it vanish. -/
lemma add_compl_mod (sum : ℕ) : (sum + (65535 - fold sum)) % 65535 = 0 := by
  have hlt := fold_lt sum
  have hmod := fold_mod sum
  omega

/-! ## Words of a byte string -/

/-- The sum of the words of 16 bits of a byte string, most significant byte first; a last byte
without a partner is the high one of its word. -/
def wordSum : List UInt8 → ℕ
  | [] => 0
  | [a] => 256 * a.toNat
  | a :: b :: l => 256 * a.toNat + b.toNat + wordSum l

/-- The words of two parts are added, if the first part has whole words. -/
lemma wordSum_append {l : List UInt8} (h : l.length % 2 = 0) (m : List UInt8) :
    wordSum (l ++ m) = wordSum l + wordSum m := by
  induction l using wordSum.induct with
  | case1 => simp [wordSum]
  | case2 a => simp at h
  | case3 a b l ih =>
    have hl : l.length % 2 = 0 := by
      simp only [List.length_cons] at h
      omega
    simp only [List.cons_append, wordSum, ih hl]
    omega

/-- The sum of the words is bounded by their number. -/
lemma wordSum_le (l : List UInt8) : wordSum l ≤ 65535 * ((l.length + 1) / 2) := by
  induction l using wordSum.induct with
  | case1 => simp [wordSum]
  | case2 a =>
    have := a.toNat_lt
    simp only [wordSum, List.length_singleton]
    omega
  | case3 a b l ih =>
    have := a.toNat_lt
    have := b.toNat_lt
    simp only [wordSum, List.length_cons]
    omega

end OnesComplement
