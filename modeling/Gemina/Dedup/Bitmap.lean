/-
# The ring bitmap, bit by bit

What each operation of the bitmap of `internal/dedup/replay.go` does to every single
position.  A position `p` is bit `p % 64` of word `p / 64`.
-/
import Gemina.Lib.RingSlots
import Gemina.Dedup.Replay

namespace Gemina
namespace ReplayWindow

variable {nw : ℕ}

/-- The bit at position `p` of the bitmap. -/
def bit (ws : Words nw) (p : ℕ) : Bool := (ws[p / 64]?.getD 0).getLsbD (p % 64)

lemma bit_eq (ws : Words nw) {p : ℕ} (h : p / 64 < nw) :
    bit ws p = ws[p / 64].getLsbD (p % 64) := by
  simp [bit, h]

lemma bit_set (ws : Words nw) (i : ℕ) (hi : i < nw) (v : BitVec 64) (p : ℕ) :
    bit (ws.set i v) p = if i = p / 64 then v.getLsbD (p % 64) else bit ws p := by
  unfold bit
  rw [Vector.getElem?_set]
  split <;> simp

@[simp] lemma bit_replicate_zero (p : ℕ) : bit (Vector.replicate nw 0#64) p = false := by
  unfold bit
  rw [Vector.getElem?_replicate]
  split <;> simp

/-! ## Masks -/

lemma getLsbD_two_pow_sub_one {n : ℕ} (hn : n < 64) (i : ℕ) :
    (((1 : BitVec 64) <<< n) - 1).getLsbD i = decide (i < n) := by
  have hpow : 2 ^ n < 2 ^ 64 := Nat.pow_lt_pow_right (by omega) hn
  have hone : 1 ≤ 2 ^ n := Nat.one_le_two_pow
  have htn : (((1 : BitVec 64) <<< n) - 1).toNat = 2 ^ n - 1 := by
    rw [BitVec.toNat_sub, BitVec.toNat_shiftLeft]
    simp only [BitVec.ofNat_eq_ofNat, BitVec.toNat_ofNat, Nat.one_mod_two_pow_eq_one.mpr,
      Nat.zero_lt_succ, Nat.shiftLeft_eq, one_mul, Nat.mod_eq_of_lt hpow]
    omega
  rw [← BitVec.testBit_toNat, htn, Nat.testBit_two_pow_sub_one]

/-- `wordMask lo hi` has exactly the bits `lo, …, hi` set. -/
lemma getLsbD_wordMask (lo : ℕ) {hi : ℕ} (hhi : hi < 64) (i : ℕ) :
    (wordMask lo hi).getLsbD i = decide (lo ≤ i ∧ i ≤ hi) := by
  unfold wordMask
  split
  · rw [eq_comm]
    simp only [BitVec.ofNat_eq_ofNat, BitVec.getLsbD_zero, decide_eq_false_iff_not]
    omega
  · rename_i hle
    simp only
    split
    · -- the only mask of 64 bits is the whole word
      simp only [BitVec.ofNat_eq_ofNat, BitVec.getLsbD_not, BitVec.getLsbD_zero, Bool.not_false,
        Bool.and_true, decide_eq_decide]
      omega
    · rename_i hn
      rw [BitVec.getLsbD_shiftLeft, getLsbD_two_pow_sub_one (by omega)]
      simp only [← decide_not, ← Bool.decide_and, decide_eq_decide]
      omega

lemma getLsbD_highMask (lo i : ℕ) :
    (~~~(0 : BitVec 64) <<< lo).getLsbD i = decide (lo ≤ i ∧ i < 64) := by
  rw [BitVec.getLsbD_shiftLeft, BitVec.getLsbD_not]
  simp only [BitVec.ofNat_eq_ofNat, BitVec.getLsbD_zero, Bool.not_false, Bool.and_true,
    ← decide_not, ← Bool.decide_and, decide_eq_decide]
  omega

/-! ## Clearing a range -/

lemma bit_andNot (ws : Words nw) (i : ℕ) (hi : i < nw) (mask : BitVec 64) (p : ℕ) :
    bit (andNot ws i hi mask) p
      = (bit ws p && !(decide (i = p / 64) && mask.getLsbD (p % 64))) := by
  have hp : p % 64 < 64 := Nat.mod_lt p (by omega)
  rw [andNot, bit_set]
  by_cases h : i = p / 64
  · subst h
    simp [bit_eq ws hi, hp]
  · simp [h]

lemma bit_zeroWords (ws : Words nw) (wd count : ℕ) (h : wd + count ≤ nw) (p : ℕ) :
    bit (zeroWords ws wd count h) p
      = (bit ws p && !decide (wd ≤ p / 64 ∧ p / 64 < wd + count)) := by
  induction count generalizing ws wd with
  | zero =>
    have hno : ¬ (wd ≤ p / 64 ∧ p / 64 < wd + 0) := by omega
    rw [zeroWords, decide_eq_false hno, Bool.not_false, Bool.and_true]
  | succ count ih =>
    rw [zeroWords, ih, bit_set]
    by_cases hp : wd = p / 64
    · have hin : wd ≤ p / 64 ∧ p / 64 < wd + (count + 1) := by omega
      simp [hp]
    · have hiff : (wd + 1 ≤ p / 64 ∧ p / 64 < wd + 1 + count) ↔
          (wd ≤ p / 64 ∧ p / 64 < wd + (count + 1)) := by omega
      simp only [hp, if_false, hiff]

/-- `clearRange` zeroes the positions `lo, …, hi` and leaves every other position alone. -/
lemma bit_clearRange (ws : Words nw) {lo hi : ℕ} (hle : lo ≤ hi) (hlt : hi < nw * 64) (p : ℕ) :
    bit (clearRange ws lo hi hle hlt) p = (bit ws p && !decide (lo ≤ p ∧ p ≤ hi)) := by
  have hp := Nat.div_add_mod p 64
  have hp64 : p % 64 < 64 := Nat.mod_lt p (by omega)
  have hhi64 : hi % 64 < 64 := Nat.mod_lt hi (by omega)
  unfold clearRange
  simp only
  split
  · -- the range lies inside one word
    rename_i hword
    rw [bit_andNot, getLsbD_wordMask _ hhi64, ← Bool.decide_and]
    congr 2
    rw [decide_eq_decide]
    omega
  · -- low word, complete middle words, high word
    rename_i hword
    rw [bit_andNot, bit_zeroWords, bit_andNot, getLsbD_wordMask _ hhi64, getLsbD_highMask,
      Bool.and_assoc, Bool.and_assoc]
    congr 1
    simp only [← Bool.decide_and, ← decide_not, decide_eq_decide]
    omega

/-! ## Setting and testing the bit of a packet number -/

lemma pos_div_lt (w : ReplayWindow) (n : ℕ) : n % w.width / 64 < w.nw :=
  Nat.div_lt_of_lt_mul (by simpa [mul_comm] using w.pos_lt n)

lemma getLsbD_one_shiftLeft {k : ℕ} (hk : k < 64) (i : ℕ) :
    ((1 : BitVec 64) <<< k).getLsbD i = decide (i = k) := by
  rw [BitVec.getLsbD_shiftLeft]
  simp only [BitVec.ofNat_eq_ofNat, BitVec.getLsbD_one, ← decide_not, ← Bool.decide_and,
    decide_eq_decide]
  omega

lemma bit_setBit (w : ReplayWindow) (n : PacketNumber) (p : ℕ) :
    bit (w.setBit n).words p = (decide (p = n.toNat % w.width) || bit w.words p) := by
  have hk : n.toNat % w.width % 64 < 64 := Nat.mod_lt _ (by omega)
  have hi := w.pos_div_lt n.toNat
  unfold setBit
  simp only
  rw [bit_set]
  by_cases h : n.toNat % w.width / 64 = p / 64
  · have hbit : bit w.words p = (w.words.get ⟨n.toNat % w.width / 64, hi⟩).getLsbD (p % 64) := by
      rw [bit_eq w.words (h ▸ hi)]
      simp [Vector.get, h]
    have hiff : p % 64 = n.toNat % w.width % 64 ↔ p = n.toNat % w.width := by omega
    rw [if_pos h, BitVec.getLsbD_or, getLsbD_one_shiftLeft hk, hbit, Bool.or_comm]
    simp only [hiff]
    rfl
  · have hne : ¬ p = n.toNat % w.width := by omega
    simp [h, hne]

lemma and_one_shiftLeft_ne_zero (x : BitVec 64) {k : ℕ} (hk : k < 64) :
    x &&& ((1 : BitVec 64) <<< k) ≠ 0 ↔ x.getLsbD k = true := by
  constructor
  · intro hne
    by_contra hx
    refine hne (BitVec.eq_of_getLsbD_eq fun i _ => ?_)
    rw [BitVec.getLsbD_and, getLsbD_one_shiftLeft hk]
    by_cases hik : i = k
    · subst hik
      simpa using hx
    · simp [hik]
  · intro hx hzero
    have hbit := congrArg (fun v => BitVec.getLsbD v k) hzero
    rw [BitVec.getLsbD_and, getLsbD_one_shiftLeft hk, hx] at hbit
    simp at hbit

lemma testBit_eq (w : ReplayWindow) (n : PacketNumber) :
    w.testBit n = bit w.words (n.toNat % w.width) := by
  have hk : n.toNat % w.width % 64 < 64 := Nat.mod_lt _ (by omega)
  unfold testBit
  simp only
  rw [bit_eq w.words (w.pos_div_lt n.toNat), Bool.eq_iff_iff, bne_iff_ne]
  exact and_one_shiftLeft_ne_zero _ hk

/-! ## Advancing the window -/

/-- A jump at least as wide as the window clears the whole bitmap. -/
lemma bit_advanceWords_of_ge (w : ReplayWindow) {n : PacketNumber}
    (h : w.width ≤ (n - w.last).toNat) (r : ℕ) : bit (w.advanceWords n) r = false := by
  simp [advanceWords, h]

/-- A shorter jump clears the arc from the slot after `last` to the slot of `n`. -/
lemma bit_advanceWords_of_lt (w : ReplayWindow) {n : PacketNumber}
    (h : ¬ w.width ≤ (n - w.last).toNat) {r : ℕ} (hr : r < w.width) :
    bit (w.advanceWords n) r = true ↔ bit w.words r = true ∧
      ¬ RingSlots.OnArc ((w.last + 1).toNat % w.width) (n.toNat % w.width) r := by
  unfold advanceWords RingSlots.OnArc
  simp only [h, if_false]
  by_cases hle : (w.last + 1).toNat % w.width ≤ n.toNat % w.width
  · rw [dif_pos hle, if_pos hle, bit_clearRange]
    simp only [Bool.and_eq_true, Bool.not_eq_true', decide_eq_false_iff_not]
  · -- the arc runs over the end of the ring and is cleared in two pieces
    rw [dif_neg hle, if_neg hle, bit_clearRange, bit_clearRange]
    simp only [Bool.and_eq_true, Bool.not_eq_true', decide_eq_false_iff_not]
    constructor
    · rintro ⟨⟨hbit, h1⟩, h2⟩
      exact ⟨hbit, by omega⟩
    · rintro ⟨hbit, h1⟩
      exact ⟨⟨hbit, by omega⟩, by omega⟩

/-! ## Observing a number twice -/

/-- What an observation can do: it leaves the window alone, or it accepts the number and sets its
bit, in a window that reaches the number. -/
lemma observe_cases (w : ReplayWindow) (n : PacketNumber) :
    ((w.observe n).1 ≠ .firstCopy ∧ (w.observe n).2 = w) ∨
    ∃ w' : ReplayWindow, w.observe n = (.firstCopy, w'.setBit n) ∧ n ≠ 0 ∧ n ≤ w'.last ∧
      (w'.last - n).toNat < w'.width := by
  have hself : (n - n).toNat < w.width := by simpa using w.width_pos
  by_cases h0 : n = 0
  · simp [observe, h0]
  by_cases hempty : w.last = 0
  · exact Or.inr ⟨{ w with last := n }, by simp [observe, h0, hempty], h0, UInt64.le_refl n, hself⟩
  by_cases hgt : w.last < n
  · refine Or.inr ⟨{ w with words := w.advanceWords n, last := n }, ?_, h0, UInt64.le_refl n, hself⟩
    simp [observe, h0, hempty, hgt, advance]
  by_cases hstale : w.width ≤ (w.last - n).toNat
  · simp [observe, h0, hempty, hgt, hstale]
  by_cases hbit : w.testBit n = true
  · simp [observe, h0, hempty, hgt, hstale, hbit]
  · refine Or.inr ⟨w, by simp [observe, h0, hempty, hgt, hstale, hbit], h0, UInt64.not_lt.mp hgt,
      not_le.mp hstale⟩

/-- Only a first copy changes the window. -/
lemma observe_snd_of_ne {w : ReplayWindow} {n : PacketNumber}
    (h : (w.observe n).1 ≠ .firstCopy) : (w.observe n).2 = w := by
  rcases w.observe_cases n with ⟨-, hsame⟩ | ⟨w', heq, -⟩
  · exact hsame
  · rw [heq] at h
    exact absurd rfl h

/-- **The second copy is a duplicate**, whatever the window was before the first. -/
lemma observe_again {w : ReplayWindow} {n : PacketNumber} (h : (w.observe n).1 = .firstCopy) :
    ((w.observe n).2.observe n).1 = .duplicate := by
  rcases w.observe_cases n with ⟨hne, -⟩ | ⟨w', heq, hn, hle, hwidth⟩
  · exact absurd h hne
  rw [heq]
  have hlast : w'.last ≠ 0 := by
    intro h0
    rw [h0] at hle
    exact hn (UInt64.le_zero_iff.mp hle)
  have hbit : (w'.setBit n).testBit n = true := by
    rw [testBit_eq, bit_setBit]
    simp [setBit]
  have hset : (w'.setBit n).last = w'.last ∧ (w'.setBit n).width = w'.width := ⟨rfl, rfl⟩
  simp [observe, hn, hset, hlast, UInt64.not_lt.mpr hle, not_le.mpr hwidth, hbit]

end ReplayWindow
end Gemina
