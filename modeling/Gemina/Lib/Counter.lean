/-
# Counters that wrap around

A counter of 64 bits that starts at zero and is incremented before use: the number after `i`
others is `i + 1`.  As long as fewer than `2 ^ 64` numbers were drawn, all of them are different
and none is zero.
-/
import Mathlib

namespace Counter

lemma ofNat_inj {i j : ℕ} (hi : i < 2 ^ 64) (hj : j < 2 ^ 64)
    (h : UInt64.ofNat i = UInt64.ofNat j) : i = j := by
  have := congrArg UInt64.toNat h
  rwa [UInt64.toNat_ofNat', UInt64.toNat_ofNat', Nat.mod_eq_of_lt hi, Nat.mod_eq_of_lt hj] at this

lemma ofNat_succ_toNat {i : ℕ} (hi : i + 1 < 2 ^ 64) : (UInt64.ofNat i + 1).toNat = i + 1 := by
  rw [UInt64.toNat_add, UInt64.toNat_ofNat', UInt64.toNat_one]
  omega

lemma ofNat_succ_ne_zero {i : ℕ} (hi : i + 1 < 2 ^ 64) : UInt64.ofNat i + 1 ≠ 0 := by
  intro h
  have hn := ofNat_succ_toNat hi
  rw [h, UInt64.toNat_zero] at hn
  omega

lemma ofNat_succ_inj {i j : ℕ} (hi : i + 1 < 2 ^ 64) (hj : j + 1 < 2 ^ 64)
    (h : UInt64.ofNat i + 1 = UInt64.ofNat j + 1) : i = j :=
  ofNat_inj (by omega) (by omega) (add_right_cancel h)

/-- The counter has drawn these numbers, in this order. -/
def Issued (next : UInt64) (ns : List UInt64) : Prop :=
  next = UInt64.ofNat ns.length ∧ ns = (List.range ns.length).map fun j => UInt64.ofNat j + 1

lemma issued_zero : Issued 0 [] := ⟨rfl, rfl⟩

variable {next n : UInt64} {ns : List UInt64}

lemma Issued.draw (h : Issued next ns) : Issued (next + 1) (ns ++ [next + 1]) := by
  obtain ⟨hnext, hns⟩ := h
  refine ⟨by simp [hnext], ?_⟩
  rw [List.length_append, List.length_singleton, List.range_succ, List.map_append, ← hns, hnext]
  rfl

/-- The numbers that were drawn, by their position. -/
lemma Issued.mem_iff (h : Issued next ns) :
    n ∈ ns ↔ ∃ j < ns.length, n = UInt64.ofNat j + 1 := by
  rw [h.2, List.mem_map]
  simp only [List.mem_range, List.length_map, List.length_range, eq_comm]

/-- The next number is a new one, even if it is the zero after the last. -/
lemma Issued.not_mem (h : Issued next ns) (hfew : ns.length < 2 ^ 64) : next + 1 ∉ ns := by
  intro hmem
  obtain ⟨j, hj, heq⟩ := h.mem_iff.mp hmem
  rw [h.1] at heq
  have := ofNat_inj hfew (by omega) (add_right_cancel heq)
  omega

/-- As long as the counter does not wrap around, the next number is new and not zero. -/
lemma Issued.fresh (h : Issued next ns) (hfew : ns.length + 1 < 2 ^ 64) :
    next + 1 ≠ 0 ∧ next + 1 ∉ ns :=
  ⟨h.1 ▸ ofNat_succ_ne_zero hfew, h.not_mem (by omega)⟩

lemma Issued.ne_zero (h : Issued next ns) (hfew : ns.length < 2 ^ 64) (hn : n ∈ ns) : n ≠ 0 := by
  obtain ⟨j, hj, rfl⟩ := h.mem_iff.mp hn
  exact ofNat_succ_ne_zero (by omega)

/-- The first `2 ^ 64` numbers are different, the zero at the end included. -/
lemma Issued.nodup (h : Issued next ns) (hfew : ns.length ≤ 2 ^ 64) : ns.Nodup := by
  rw [h.2]
  refine List.nodup_range.map_on fun i hi j hj heq => ?_
  rw [List.mem_range] at hi hj
  exact ofNat_inj (by omega) (by omega) (add_right_cancel heq)

end Counter
