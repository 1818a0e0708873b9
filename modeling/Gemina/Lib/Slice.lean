/-
# Slices of a list, and lists that grow at the end

The part of a list between two positions, as a parser of a format with fixed offsets cuts it
out.  A list is put together again from its slices, and a part that was appended at a known
position is cut out again.  A list without repetitions that grows at its end stays one if the
new element is new.  A loop that compacts a slice in place filters it.
-/
import Mathlib

namespace List

variable {α : Type*} {l p m s : List α} {i j k : ℕ}

/-- The elements at the positions from `i` up to but not including `j`. -/
def slice (l : List α) (i j : ℕ) : List α := (l.drop i).take (j - i)

lemma slice_zero (l : List α) (j : ℕ) : l.slice 0 j = l.take j := by simp [slice]

@[simp] lemma length_slice (h : j ≤ l.length) : (l.slice i j).length = j - i := by
  simp only [slice, length_take, length_drop]
  omega

/-- Two slices that meet make one. -/
lemma slice_append_slice (l : List α) (hij : i ≤ j) (hjk : j ≤ k) :
    l.slice i j ++ l.slice j k = l.slice i k := by
  have hdrop : l.drop j = (l.drop i).drop (j - i) := by
    rw [drop_drop]
    congr 1
    omega
  rw [slice, slice, slice, hdrop, show k - i = (j - i) + (k - j) by omega, ← take_add]

/-- A slice that reaches the end. -/
lemma slice_append_drop (l : List α) (hij : i ≤ j) : l.slice i j ++ l.drop j = l.drop i := by
  have hdrop : l.drop j = (l.drop i).drop (j - i) := by
    rw [drop_drop]
    congr 1
    omega
  rw [slice, hdrop, take_append_drop]

/-- A slice of one element. -/
lemma slice_succ (d : α) (h : i < l.length) : l.slice i (i + 1) = [l.getD i d] := by
  rw [slice, Nat.add_sub_cancel_left, drop_eq_getElem_cons h, getD_eq_getElem _ _ h]
  rfl

/-- Cutting out a part that stands between two others. -/
lemma slice_mid (hi : p.length = i) (hj : i + m.length = j) : (p ++ (m ++ s)).slice i j = m := by
  rw [slice, drop_left' hi, take_left' (by omega)]

/-- Cutting inside the first of two parts. -/
lemma slice_append_left (h : j ≤ p.length) (s : List α) : (p ++ s).slice i j = p.slice i j := by
  rw [slice, slice, drop_append, take_append_of_le_length]
  rw [length_drop]
  omega

/-- Cutting inside the second of two parts. -/
lemma slice_append_right (hi : p.length ≤ i) (s : List α) :
    (p ++ s).slice i j = s.slice (i - p.length) (j - p.length) := by
  obtain ⟨k, rfl⟩ := Nat.exists_eq_add_of_le hi
  rw [slice, slice, drop_length_add_append, Nat.add_sub_cancel_left]
  congr 1
  omega

/-! ## Lists that grow and shrink -/

lemma nodup_append_singleton {a : α} : (l ++ [a]).Nodup ↔ a ∉ l ∧ l.Nodup := by
  rw [← concat_eq_append, nodup_concat]

/-- A loop that compacts a slice in place: it reads from position `i` on, and writes what it
keeps from position `j` on. -/
def compactFrom (p : α → Bool) (l : List α) (i j : ℕ) : List α :=
  if h : i < l.length then
    if p l[i] then compactFrom p (l.set j l[i]) (i + 1) (j + 1)
    else compactFrom p l (i + 1) j
  else l.take j
termination_by l.length - i
decreasing_by
  · rw [length_set]
    omega
  · omega

/-- Writing never overtakes reading, so the loop filters the slice. -/
lemma compactFrom_eq (p : α → Bool) (l : List α) (i j : ℕ) (hij : j ≤ i) :
    compactFrom p l i j = l.take j ++ (l.drop i).filter p := by
  fun_induction compactFrom p l i j with
  | case1 l i j h hp ih =>
    have hj : j < (l.set j l[i]).length := by
      simp only [length_set]
      omega
    have htake : (l.set j l[i]).take (j + 1) = l.take j ++ [l[i]] := by
      rw [take_succ_eq_append_getElem hj, getElem_set_self, take_set_of_le le_rfl]
    rw [ih (by omega), htake, drop_set_of_lt (by omega), append_assoc, singleton_append,
      drop_eq_getElem_cons h, filter_cons_of_pos hp]
  | case2 l i j h hp ih =>
    rw [ih (by omega), drop_eq_getElem_cons h, filter_cons_of_neg hp]
  | case3 l i j h =>
    rw [drop_eq_nil_of_le (by omega), filter_nil, append_nil]

end List
