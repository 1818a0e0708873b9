/-
# Writing into buffers

A buffer is a list, and `write` replaces a part of it, as `memcpy` does.  The lemmas describe a
buffer as what has been written up to some point, followed by what was there before.
-/
import Mathlib

namespace Buffer

variable {α : Type*}

/-- The buffer after `data` was written at the offset `off`. -/
def write (buf : List α) (off : ℕ) (data : List α) : List α :=
  buf.take off ++ data ++ buf.drop (off + data.length)

/-- Writing behind a part of a buffer. -/
lemma write_skip {a b data : List α} {off : ℕ} (h : a.length ≤ off) :
    write (a ++ b) off data = a ++ write b (off - a.length) data := by
  obtain ⟨k, rfl⟩ := Nat.exists_eq_add_of_le h
  rw [write, write, List.take_length_add_append, Nat.add_assoc, List.drop_length_add_append,
    Nat.add_sub_cancel_left, List.append_assoc, List.append_assoc, List.append_assoc]

/-- Writing over the first part of a buffer. -/
lemma write_here {old data : List α} (h : old.length = data.length) (c : List α) :
    write (old ++ c) 0 data = data ++ c := by
  simp [write, ← h]

/-- Writing where the last write has ended. -/
lemma write_next {done : List α} {off : ℕ} (hoff : done.length = off) (buf data : List α) :
    write (done ++ buf.drop off) off data = (done ++ data) ++ buf.drop (off + data.length) := by
  subst hoff
  simp [write]

/-- A loop that writes one element after the other. -/
lemma foldl_write (f : ℕ → α) {done : List α} {off : ℕ} (hoff : done.length = off) (buf : List α)
    (k : ℕ) :
    (List.range k).foldl (fun out i => write out (off + i) [f i]) (done ++ buf.drop off)
      = done ++ (List.range k).map f ++ buf.drop (off + k) := by
  induction k with
  | zero => simp
  | succ k ih =>
    have hlen : (done ++ (List.range k).map f).length = off + k := by simp [hoff]
    rw [List.range_succ, List.foldl_append, ih, List.foldl_cons, List.foldl_nil, write_next hlen]
    simp [add_assoc]

end Buffer
