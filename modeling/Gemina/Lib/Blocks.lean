/-
# Maximal blocks of a list

The maximal blocks of consecutive elements that satisfy `p`, of those blocks that stand behind an
element that satisfies `q`.  A block is given by the position where it starts and the position where
it ends.

A program that reads the list once knows the blocks of what it has read, and whether the next
element would continue or start a block.  The lemmas say how both change with one more element:
the blocks themselves, their number, the sum of a weight over all of them, and the greatest weight
of a block.
-/
import Gemina.Lib.Slice

namespace Blocks

variable {α : Type*} {p q : α → Prop} {l : List α} {a : α} {i j : ℕ}

/-- The element just before position `i` exists and satisfies `q`, but not `p`. -/
def Before (p q : α → Prop) (l : List α) (i : ℕ) : Prop :=
  ∃ k b, i = k + 1 ∧ l[k]? = some b ∧ q b ∧ ¬ p b

/-- The elements from position `i` up to but not including `j` satisfy `p`. -/
def Inside (p : α → Prop) (l : List α) (i j : ℕ) : Prop :=
  ∀ k, i ≤ k → k < j → ∃ b, l[k]? = some b ∧ p b

/-- The elements from position `i` up to but not including `j` are a maximal block. -/
structure IsBlock (p q : α → Prop) (l : List α) (i j : ℕ) : Prop where
  lt : i < j
  inside : Inside p l i j
  before : Before p q l i
  after : ∀ b, l[j]? = some b → ¬ p b

/-- One more element that satisfies `p` would be in the block that starts at `i`. -/
structure Open (p q : α → Prop) (l : List α) (i : ℕ) : Prop where
  inside : Inside p l i l.length
  before : Before p q l i

open Classical in
/-- The maximal blocks. -/
noncomputable def blocks (p q : α → Prop) (l : List α) : Finset (ℕ × ℕ) :=
  {b ∈ Finset.range (l.length + 1) ×ˢ Finset.range (l.length + 1) | IsBlock p q l b.1 b.2}

/-! ## Positions -/

lemma getElem?_concat_of_lt (h : i < l.length) : (l ++ [a])[i]? = l[i]? :=
  List.getElem?_append_left h

lemma Inside.le_length (h : Inside p l i j) (hlt : i < j) : j ≤ l.length := by
  obtain ⟨b, hb, -⟩ := h (j - 1) (by omega) (by omega)
  have hlen := (List.getElem?_eq_some_iff.mp hb).1
  omega

lemma Before.le_length (h : Before p q l i) : i ≤ l.length := by
  obtain ⟨k, b, rfl, hb, -⟩ := h
  exact (List.getElem?_eq_some_iff.mp hb).1

lemma inside_concat (hj : j ≤ l.length) : Inside p (l ++ [a]) i j ↔ Inside p l i j := by
  constructor
  · intro h k hik hkj
    rw [← @getElem?_concat_of_lt _ l a k (by omega)]
    exact h k hik hkj
  · intro h k hik hkj
    rw [getElem?_concat_of_lt (by omega)]
    exact h k hik hkj

lemma before_concat (hi : i ≤ l.length) : Before p q (l ++ [a]) i ↔ Before p q l i := by
  constructor
  · rintro ⟨k, b, rfl, hb, hqp⟩
    rw [getElem?_concat_of_lt hi] at hb
    exact ⟨k, b, rfl, hb, hqp⟩
  · rintro ⟨k, b, rfl, hb, hqp⟩
    exact ⟨k, b, rfl, by rw [getElem?_concat_of_lt hi]; exact hb, hqp⟩

lemma mem_blocks {b : ℕ × ℕ} : b ∈ blocks p q l ↔ IsBlock p q l b.1 b.2 := by
  simp only [blocks, Finset.mem_filter, Finset.mem_product, Finset.mem_range, and_iff_right_iff_imp]
  intro h
  have hj := h.inside.le_length h.lt
  have hlt := h.lt
  omega

lemma blocks_nil : blocks p q ([] : List α) = ∅ := by
  rw [Finset.eq_empty_iff_forall_notMem]
  intro b hb
  obtain ⟨k, c, -, hc, -⟩ := (mem_blocks.mp hb).before
  simp at hc

/-- A block that reaches the end is open. -/
lemma isBlock_length : IsBlock p q l i l.length ↔ Open p q l i ∧ i < l.length := by
  constructor
  · intro h
    exact ⟨⟨h.inside, h.before⟩, h.lt⟩
  · rintro ⟨h, hlt⟩
    exact ⟨hlt, h.inside, h.before, fun b hb => by simp at hb⟩

/-- There is at most one open block. -/
lemma Open.unique (h : Open p q l i) (h' : Open p q l j) : i = j := by
  -- the element before the later start would be inside of the other block
  have key : ∀ {i j : ℕ}, Open p q l i → Open p q l j → ¬ i < j := by
    intro i j h h' hlt
    obtain ⟨k, b, rfl, hb, -, hnp⟩ := h'.before
    obtain ⟨c, hc, hp⟩ := h.inside k (by omega) (by have := h'.before.le_length; omega)
    rw [hb, Option.some_inj] at hc
    exact hnp (hc ▸ hp)
  exact le_antisymm (not_lt.mp (key h' h)) (not_lt.mp (key h h'))

/-! ## One more element -/

lemma isBlock_concat_of_not (ha : ¬ p a) : IsBlock p q (l ++ [a]) i j ↔ IsBlock p q l i j := by
  constructor
  · intro h
    have hlt := h.lt
    have hlen := h.inside.le_length hlt
    rw [List.length_append, List.length_singleton] at hlen
    have hj : j ≤ l.length := by
      by_contra hj
      obtain ⟨b, hb, hp⟩ := h.inside l.length (by omega) (by omega)
      rw [List.getElem?_concat_length, Option.some_inj] at hb
      exact ha (hb ▸ hp)
    refine ⟨hlt, (inside_concat hj).mp h.inside, (before_concat (by omega)).mp h.before, ?_⟩
    intro b hb
    refine h.after b ?_
    rw [getElem?_concat_of_lt (List.getElem?_eq_some_iff.mp hb).1]
    exact hb
  · intro h
    have hlt := h.lt
    have hj := h.inside.le_length h.lt
    refine ⟨hlt, (inside_concat hj).mpr h.inside, (before_concat (by omega)).mpr h.before, ?_⟩
    intro b hb
    rcases hj.lt_or_eq with hj | rfl
    · rw [getElem?_concat_of_lt hj] at hb
      exact h.after b hb
    · rw [List.getElem?_concat_length, Option.some_inj] at hb
      exact hb ▸ ha

lemma isBlock_concat_of (ha : p a) :
    IsBlock p q (l ++ [a]) i j ↔
      (IsBlock p q l i j ∧ j < l.length) ∨ (j = l.length + 1 ∧ Open p q l i) := by
  constructor
  · intro h
    have hlt := h.lt
    have hj := h.inside.le_length h.lt
    rw [List.length_append, List.length_singleton] at hj
    rcases hj.lt_or_eq with hj | rfl
    · -- a block that ends at the old end would go on
      have hne : j ≠ l.length := by
        rintro rfl
        exact h.after a List.getElem?_concat_length ha
      refine Or.inl ⟨⟨hlt, (inside_concat (by omega)).mp h.inside,
        (before_concat (by omega)).mp h.before, ?_⟩, by omega⟩
      intro b hb
      refine h.after b ?_
      rw [getElem?_concat_of_lt (by omega)]
      exact hb
    · refine Or.inr ⟨rfl, ?_, (before_concat (by omega)).mp h.before⟩
      exact (inside_concat le_rfl).mp fun k hik hk => h.inside k hik (by omega)
  · rintro (⟨h, hj⟩ | ⟨rfl, h⟩)
    · have hlt := h.lt
      refine ⟨hlt, (inside_concat (by omega)).mpr h.inside,
        (before_concat (by omega)).mpr h.before, ?_⟩
      intro b hb
      rw [getElem?_concat_of_lt hj] at hb
      exact h.after b hb
    · have hi := h.before.le_length
      refine ⟨by omega, ?_, (before_concat hi).mpr h.before, fun b hb => by simp at hb⟩
      intro k hik hk
      rcases (Nat.lt_succ_iff.mp hk).lt_or_eq with hk | rfl
      · exact (inside_concat le_rfl).mpr h.inside k hik hk
      · exact ⟨a, List.getElem?_concat_length, ha⟩

/-- The block after one more element, if it is open. -/
lemma open_concat_of (ha : p a) : Open p q (l ++ [a]) i ↔ Open p q l i := by
  constructor
  · intro h
    have hi : i ≤ l.length := by
      by_contra hi
      obtain ⟨k, b, rfl, hb, -, hnp⟩ := h.before
      have hlen := (List.getElem?_eq_some_iff.mp hb).1
      rw [List.length_append, List.length_singleton] at hlen
      obtain rfl : k = l.length := by omega
      rw [List.getElem?_concat_length, Option.some_inj] at hb
      exact hnp (hb ▸ ha)
    refine ⟨(@inside_concat _ p l a i _ le_rfl).mp fun k hik hk => ?_,
      (before_concat hi).mp h.before⟩
    exact h.inside k hik (by rw [List.length_append, List.length_singleton]; omega)
  · intro h
    have hblock : IsBlock p q (l ++ [a]) i (l.length + 1) :=
      (isBlock_concat_of ha).mpr (Or.inr ⟨rfl, h⟩)
    refine ⟨?_, hblock.before⟩
    rw [List.length_append, List.length_singleton]
    exact hblock.inside

lemma open_concat_of_not (ha : ¬ p a) :
    Open p q (l ++ [a]) i ↔ i = l.length + 1 ∧ q a := by
  constructor
  · intro h
    have hi := h.before.le_length
    rw [List.length_append, List.length_singleton] at hi
    rcases hi.lt_or_eq with hi | rfl
    · obtain ⟨b, hb, hp⟩ := h.inside l.length (by omega) (by simp)
      rw [List.getElem?_concat_length, Option.some_inj] at hb
      exact absurd (hb ▸ hp) ha
    · obtain ⟨k, b, hk, hb, hq, -⟩ := h.before
      obtain rfl : k = l.length := by omega
      rw [List.getElem?_concat_length, Option.some_inj] at hb
      exact ⟨rfl, hb ▸ hq⟩
  · rintro ⟨rfl, hq⟩
    refine ⟨fun k hik hk => ?_, l.length, a, rfl, List.getElem?_concat_length, hq, ha⟩
    rw [List.length_append, List.length_singleton] at hk
    omega

lemma not_open_nil : ¬ Open p q ([] : List α) i := by
  rintro ⟨-, k, b, -, hb, -⟩
  simp at hb

lemma blocks_concat_of_not (ha : ¬ p a) : blocks p q (l ++ [a]) = blocks p q l := by
  ext b
  rw [mem_blocks, mem_blocks, isBlock_concat_of_not ha]

lemma blocks_concat_of_closed (ha : p a) (h : ∀ i, ¬ Open p q l i) :
    blocks p q (l ++ [a]) = blocks p q l := by
  ext b
  rw [mem_blocks, mem_blocks, isBlock_concat_of ha]
  constructor
  · rintro (⟨hb, -⟩ | ⟨-, hb⟩)
    · exact hb
    · exact absurd hb (h _)
  · intro hb
    refine Or.inl ⟨hb, lt_of_le_of_ne (hb.inside.le_length hb.lt) ?_⟩
    intro hlen
    rw [hlen] at hb
    exact h _ (isBlock_length.mp hb).1

/-- The open block grows. -/
lemma blocks_concat_of_open (ha : p a) (h : Open p q l i) :
    blocks p q (l ++ [a])
      = insert (i, l.length + 1) ((blocks p q l).erase (i, l.length)) := by
  ext ⟨i', j'⟩
  rw [mem_blocks, isBlock_concat_of ha, Finset.mem_insert, Finset.mem_erase, mem_blocks]
  constructor
  · rintro (⟨hb, hj⟩ | ⟨hj, hopen⟩)
    · refine Or.inr ⟨?_, hb⟩
      simp only [ne_eq, Prod.mk.injEq, not_and]
      omega
    · exact Or.inl (Prod.ext (hopen.unique h) hj)
  · rintro (heq | ⟨hne, hb⟩)
    · obtain ⟨rfl, rfl⟩ := Prod.mk.inj heq
      exact Or.inr ⟨rfl, h⟩
    · refine Or.inl ⟨hb, lt_of_le_of_ne (hb.inside.le_length hb.lt) ?_⟩
      rintro rfl
      exact hne (Prod.ext ((isBlock_length.mp hb).1.unique h) rfl)

lemma notMem_blocks_succ : (i, l.length + 1) ∉ (blocks p q l).erase (i, l.length) := by
  intro hmem
  have hb := mem_blocks.mp (Finset.mem_of_mem_erase hmem)
  have := hb.inside.le_length hb.lt
  omega

/-- A new block is one more. -/
lemma card_blocks_concat_of_open (ha : p a) (h : Open p q l i) :
    (blocks p q (l ++ [a])).card
      = (blocks p q l).card + if i = l.length then 1 else 0 := by
  rw [blocks_concat_of_open ha h, Finset.card_insert_of_notMem notMem_blocks_succ]
  by_cases hi : i = l.length
  · have hnot : (i, l.length) ∉ blocks p q l := by
      intro hmem
      have := (mem_blocks.mp hmem).lt
      omega
    rw [Finset.erase_eq_of_notMem hnot, if_pos hi]
  · have hmem : (i, l.length) ∈ blocks p q l :=
      mem_blocks.mpr (isBlock_length.mpr ⟨h, lt_of_le_of_ne h.before.le_length hi⟩)
    rw [Finset.card_erase_add_one hmem, if_neg hi, Nat.add_zero]

/-! ## Weights -/

section Weight

variable {M : Type*} [AddCommMonoid M] (w : α → M)

/-- The weight of the elements of a block. -/
def total (l : List α) (b : ℕ × ℕ) : M := ((l.slice b.1 b.2).map w).sum

lemma total_concat_of_le {b : ℕ × ℕ} (hb : b.2 ≤ l.length) :
    total w (l ++ [a]) b = total w l b := by
  rw [total, total, List.slice, List.slice]
  congr 2
  by_cases hle : b.1 ≤ l.length
  · rw [List.drop_append_of_le_length hle, List.take_append_of_le_length]
    rw [List.length_drop]
    omega
  · rw [show b.2 - b.1 = 0 by omega, List.take_zero, List.take_zero]

lemma total_concat_succ (hi : i ≤ l.length) :
    total w (l ++ [a]) (i, l.length + 1) = total w l (i, l.length) + w a := by
  rw [total, total, List.slice, List.slice, List.drop_append_of_le_length hi,
    List.take_of_length_le (by simp; omega), List.take_of_length_le (by simp)]
  simp

lemma total_length : total w l (l.length, l.length) = 0 := by
  simp [total, List.slice]

lemma total_concat_of_mem {b : ℕ × ℕ} (hb : b ∈ blocks p q l) :
    total w (l ++ [a]) b = total w l b :=
  total_concat_of_le w ((mem_blocks.mp hb).inside.le_length (mem_blocks.mp hb).lt)

lemma sum_total_concat_of_eq (h : blocks p q (l ++ [a]) = blocks p q l) :
    ∑ b ∈ blocks p q (l ++ [a]), total w (l ++ [a]) b = ∑ b ∈ blocks p q l, total w l b := by
  rw [h]
  exact Finset.sum_congr rfl fun b hb => total_concat_of_mem w hb

/-- The weight of the new element is added, if it is in a block. -/
lemma sum_total_concat_of_open (ha : p a) (h : Open p q l i) :
    ∑ b ∈ blocks p q (l ++ [a]), total w (l ++ [a]) b = ∑ b ∈ blocks p q l, total w l b + w a := by
  have hi := h.before.le_length
  have hrest : ∑ b ∈ (blocks p q l).erase (i, l.length), total w (l ++ [a]) b
      = ∑ b ∈ (blocks p q l).erase (i, l.length), total w l b :=
    Finset.sum_congr rfl fun b hb => total_concat_of_mem w (Finset.mem_of_mem_erase hb)
  rw [blocks_concat_of_open ha h, Finset.sum_insert notMem_blocks_succ, hrest,
    total_concat_succ w hi]
  by_cases hmem : (i, l.length) ∈ blocks p q l
  · rw [← Finset.add_sum_erase _ _ hmem]
    exact add_right_comm _ _ _
  · -- the block is new, and has been empty
    have hnew : i = l.length := by
      by_contra hne
      exact hmem (mem_blocks.mpr (isBlock_length.mpr ⟨h, lt_of_le_of_ne hi hne⟩))
    rw [Finset.erase_eq_of_notMem hmem, hnew, total_length, zero_add, add_comm]

end Weight

/-! ## The greatest weight -/

section Greatest

variable {M : Type*} [AddCommMonoid M] [LinearOrder M] [IsOrderedAddMonoid M] {w : α → M} {m : M}

/-- The weights of all blocks, and zero. -/
def weights (p q : α → Prop) (w : α → M) (l : List α) : Set M :=
  insert 0 (total w l '' blocks p q l)

omit [LinearOrder M] [IsOrderedAddMonoid M] in
lemma weights_concat_of_eq (h : blocks p q (l ++ [a]) = blocks p q l) :
    weights p q w (l ++ [a]) = weights p q w l := by
  rw [weights, weights, h]
  congr 1
  exact Set.image_congr fun b hb => total_concat_of_mem w hb

/-- The open block may become the heaviest one. -/
lemma isGreatest_weights_concat_of_open (ha : p a) (hw : 0 ≤ w a) (h : Open p q l i)
    (hm : IsGreatest (weights p q w l) m) :
    IsGreatest (weights p q w (l ++ [a])) (max m (total w l (i, l.length) + w a)) := by
  have hi := h.before.le_length
  have hnew : total w l (i, l.length) + w a ∈ weights p q w (l ++ [a]) := by
    refine Or.inr ⟨(i, l.length + 1), ?_, total_concat_succ w hi⟩
    rw [blocks_concat_of_open ha h]
    exact Finset.mem_insert_self _ _
  constructor
  · rcases le_total m (total w l (i, l.length) + w a) with hle | hle
    · rw [max_eq_right hle]
      exact hnew
    · -- the heaviest block so far, unless it is the one that grows
      rw [max_eq_left hle]
      rcases hm.1 with hzero | ⟨b, hb, hbm⟩
      · exact Or.inl hzero
      · by_cases hbi : b = (i, l.length)
        · have heq : m = total w l (i, l.length) + w a := by
            refine le_antisymm ?_ hle
            rw [← hbm, hbi]
            exact le_add_of_nonneg_right hw
          rw [heq]
          exact hnew
        · refine Or.inr ⟨b, ?_, (total_concat_of_mem w hb).trans hbm⟩
          rw [blocks_concat_of_open ha h]
          exact Finset.mem_insert_of_mem (Finset.mem_erase.mpr ⟨hbi, hb⟩)
  · rintro x (rfl | ⟨b, hb, rfl⟩)
    · exact le_max_of_le_left (hm.2 (Or.inl rfl))
    · rw [blocks_concat_of_open ha h, Finset.mem_coe, Finset.mem_insert] at hb
      rcases hb with rfl | hb
      · rw [total_concat_succ w hi]
        exact le_max_right _ _
      · have hmem := Finset.mem_of_mem_erase hb
        rw [total_concat_of_mem w hmem]
        exact le_max_of_le_left (hm.2 (Or.inr ⟨b, hmem, rfl⟩))

end Greatest

end Blocks
