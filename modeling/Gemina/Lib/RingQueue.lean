/-
# A queue in a ring

A queue of bounded length is kept in a ring of slots: its elements stand in `count` slots from
the slot `head` on, going around at the end.  An element is added in the slot after the last
one and removed by moving the head.
-/
import Gemina.Lib.RingSlots

namespace RingQueue

variable {α : Type*} {d a : α} {ring : List α} {head count : ℕ}

/-- The elements of the queue, oldest first. -/
def contents (d : α) (ring : List α) (head count : ℕ) : List α :=
  (List.range count).map fun i => ring.getD ((head + i) % ring.length) d

@[simp] lemma length_contents (d : α) (ring : List α) (head count : ℕ) :
    (contents d ring head count).length = count := by
  simp [contents]

@[simp] lemma contents_zero (d : α) (ring : List α) (head : ℕ) : contents d ring head 0 = [] := rfl

/-- The slot after the last element is free, so writing to it adds an element. -/
lemma contents_push (d a : α) (h : count < ring.length) :
    contents d (ring.set ((head + count) % ring.length) a) head (count + 1) =
      contents d ring head count ++ [a] := by
  have hpos : 0 < ring.length := by omega
  simp only [contents, List.range_succ, List.map_append, List.map_singleton, List.length_set]
  congr 1
  · refine List.map_congr_left fun i hi => ?_
    rw [List.mem_range] at hi
    have hne : (head + i) % ring.length ≠ (head + count) % ring.length :=
      RingSlots.mod_ne_of_lt (by omega) (by omega)
    rw [List.getD_eq_getElem?_getD, List.getD_eq_getElem?_getD, List.getElem?_set_ne hne.symm]
  · rw [List.getD_eq_getElem?_getD, List.getElem?_set_self (Nat.mod_lt _ hpos), Option.getD_some]

/-- The element in the slot `head` is the oldest, and moving the head removes it. -/
lemma contents_pop (d : α) (hhead : head < ring.length) :
    contents d ring head (count + 1) =
      ring.getD head d :: contents d ring ((head + 1) % ring.length) count := by
  simp only [contents, List.range_succ_eq_map, List.map_cons, List.map_map, List.cons.injEq]
  refine ⟨by rw [Nat.add_zero, Nat.mod_eq_of_lt hhead], List.map_congr_left fun i _ => ?_⟩
  simp only [Function.comp_apply, Nat.mod_add_mod]
  rw [show head + i.succ = head + 1 + i by omega]

end RingQueue
