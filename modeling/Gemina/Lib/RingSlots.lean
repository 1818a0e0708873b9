/-
# Residues on a ring of slots

A ring of `W` slots stores the item with number `p` in slot `p % W`.  As long as only
numbers of one window of `W` consecutive values are live, distinct live numbers never
share a slot.  This file collects the arithmetic of such a ring: where the slots of a
block of consecutive numbers lie, with and without the block running over the end of the
ring, and when two numbers collide.
-/
import Mathlib

namespace RingSlots

variable {W : ℕ}

/-- Walking `i ≤ W` slots forward from the slot of `x` wraps around at most once. -/
lemma add_mod_cases (x : ℕ) {i : ℕ} (hi : i ≤ W) :
    (x % W + i < W ∧ (x + i) % W = x % W + i) ∨
      (W ≤ x % W + i ∧ (x + i) % W = x % W + i - W) := by
  rcases Nat.eq_zero_or_pos W with rfl | hW
  · right
    simp only [Nat.mod_zero]
    omega
  have hx : x % W < W := Nat.mod_lt x hW
  have hmod : (x + i) % W = (x % W + i) % W := by
    rw [Nat.add_mod, Nat.add_mod (x % W) i, Nat.mod_mod]
  by_cases h : x % W + i < W
  · left
    exact ⟨h, by rw [hmod, Nat.mod_eq_of_lt h]⟩
  · right
    refine ⟨by omega, ?_⟩
    rw [hmod, Nat.mod_eq_sub_mod (by omega)]
    have hlt : x % W + i - W < W ∨ i = W := by omega
    rcases hlt with hlt | rfl
    · exact Nat.mod_eq_of_lt hlt
    · rw [Nat.add_sub_cancel, Nat.mod_mod]

/-- Two different numbers less than `W` apart occupy different slots. -/
lemma mod_ne_of_lt {p q : ℕ} (hpq : p < q) (hd : q - p < W) : p % W ≠ q % W := by
  intro h
  have hdvd : W ∣ q - p := (Nat.modEq_iff_dvd' hpq.le).mp h
  have hle := Nat.le_of_dvd (by omega) hdvd
  omega

/-- Numbers of one window of width `W` are determined by their slots. -/
lemma eq_of_mod_eq {p q M : ℕ} (hp : p ≤ M) (hq : q ≤ M) (hpM : M - p < W) (hqM : M - q < W)
    (h : p % W = q % W) : p = q := by
  rcases lt_trichotomy p q with hlt | heq | hlt
  · exact absurd h (mod_ne_of_lt hlt (by omega))
  · exact heq
  · exact absurd h.symm (mod_ne_of_lt hlt (by omega))

/-- The slot `r` lies on the walk that starts in the slot `lo` and ends in the slot `hi`,
going forward around the ring. -/
def OnArc (lo hi r : ℕ) : Prop :=
  if lo ≤ hi then lo ≤ r ∧ r ≤ hi else lo ≤ r ∨ r ≤ hi

/-- The slots of the block `a, a + 1, …, b` form the arc from the slot of `a` to the slot
of `b`: every number of the block lies on it. -/
lemma onArc_of_mem {a b p : ℕ} (hap : a ≤ p) (hpb : p ≤ b) (hd : b - a < W) :
    OnArc (a % W) (b % W) (p % W) := by
  obtain ⟨i, rfl⟩ := Nat.exists_eq_add_of_le hap
  obtain ⟨j, rfl⟩ := Nat.exists_eq_add_of_le hpb
  have hW : 0 < W := by omega
  have ha := Nat.mod_lt a hW
  have hi := add_mod_cases (W := W) a (i := i) (by omega)
  have hij := add_mod_cases (W := W) a (i := i + j) (by omega)
  rw [add_assoc]
  unfold OnArc
  split <;> omega

/-- No number of the window that ends in `b` and lies below the block `a, …, b` occupies a
slot of the block's arc. -/
lemma not_onArc_of_lt {a b p : ℕ} (hpa : p < a) (hab : a ≤ b) (hd : b - p < W) :
    ¬ OnArc (a % W) (b % W) (p % W) := by
  obtain ⟨i, rfl⟩ := Nat.exists_eq_add_of_le hpa.le
  obtain ⟨j, rfl⟩ := Nat.exists_eq_add_of_le hab
  have hW : 0 < W := by omega
  have hp := Nat.mod_lt p hW
  have hi := add_mod_cases (W := W) p (i := i) (by omega)
  have hij := add_mod_cases (W := W) p (i := i + j) (by omega)
  rw [add_assoc]
  unfold OnArc
  split <;> omega

end RingSlots
