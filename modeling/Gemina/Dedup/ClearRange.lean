/-
# Clearing a range, with the checks of an index

`ReplayWindow.clearRange` has its bounds as arguments, so that an index outside the bitmap cannot
be written down.  Here `clearRange` of `internal/dedup/replay.go` is read as it stands, on any two
numbers of type `int`: an index outside the slice is a run-time panic, which is `none`.  For a range
inside the bitmap the two agree, so that nothing panics.
-/
import Gemina.Dedup.Bitmap

namespace Gemina
namespace ReplayWindow

variable {nw : ℕ}

/-- `words[i]`. -/
def loadWord (ws : Words nw) (i : ℤ) : Option (BitVec 64) :=
  if 0 ≤ i then ws[i.toNat]? else none

/-- `words[i] = v`. -/
def storeWord (ws : Words nw) (i : ℤ) (v : BitVec 64) : Option (Words nw) :=
  if h : 0 ≤ i ∧ i < nw then some (ws.set i.toNat v (by omega)) else none

/-- `words[i] &^= mask`. -/
def andNotWord (ws : Words nw) (i : ℤ) (mask : BitVec 64) : Option (Words nw) := do
  let v ← loadWord ws i
  storeWord ws i (v &&& ~~~mask)

/-- The loop `for wd := wd; wd < hiWord; wd++`. -/
def zeroWordsUpTo (ws : Words nw) (wd hiWord : ℤ) : Option (Words nw) :=
  if wd < hiWord then do
    let ws ← storeWord ws wd 0
    zeroWordsUpTo ws (wd + 1) hiWord
  else some ws
termination_by (hiWord - wd).toNat

/-- `clearRange`, on arbitrary positions. -/
def clearRangeChecked (ws : Words nw) (lo hi : ℤ) : Option (Words nw) := do
  let loWord := lo.tdiv 64
  let hiWord := hi.tdiv 64
  let loBit := ((lo.tmod 64) % 2 ^ 64).toNat
  let hiBit := ((hi.tmod 64) % 2 ^ 64).toNat
  if loWord = hiWord then andNotWord ws loWord (wordMask loBit hiBit)
  else
    let ws ← andNotWord ws loWord (~~~(0 : BitVec 64) <<< loBit)
    let ws ← zeroWordsUpTo ws (loWord + 1) hiWord
    andNotWord ws hiWord (wordMask 0 hiBit)

/-! ## Inside the bitmap nothing panics -/

lemma loadWord_natCast (ws : Words nw) {i : ℕ} (hi : i < nw) : loadWord ws i = some ws[i] := by
  rw [loadWord, if_pos (by omega), Int.toNat_natCast, Vector.getElem?_eq_getElem hi]

lemma storeWord_natCast (ws : Words nw) {i : ℕ} (hi : i < nw) (v : BitVec 64) :
    storeWord ws i v = some (ws.set i v) := by
  rw [storeWord, dif_pos (by omega)]
  simp only [Int.toNat_natCast]

lemma andNotWord_natCast (ws : Words nw) {i : ℕ} (hi : i < nw) (mask : BitVec 64) :
    andNotWord ws i mask = some (andNot ws i hi mask) := by
  rw [andNotWord, loadWord_natCast ws hi]
  exact storeWord_natCast ws hi _

lemma zeroWordsUpTo_natCast (ws : Words nw) {wd count stop : ℕ} (hstop : wd + count = stop)
    (h : wd + count ≤ nw) : zeroWordsUpTo ws wd stop = some (zeroWords ws wd count h) := by
  induction count generalizing ws wd with
  | zero => rw [zeroWordsUpTo, if_neg (by omega), zeroWords]
  | succ count ih =>
    rw [zeroWordsUpTo, if_pos (by omega), storeWord_natCast ws (by omega), zeroWords]
    exact @ih (ws.set wd 0) (wd + 1) (by omega) (by omega)

/-- **The two readings agree** on a range inside the bitmap. -/
lemma clearRangeChecked_natCast (ws : Words nw) {lo hi : ℕ} (hle : lo ≤ hi) (hlt : hi < nw * 64) :
    clearRangeChecked ws lo hi = some (clearRange ws lo hi hle hlt) := by
  have hword : ∀ n : ℕ, (n : ℤ).tdiv 64 = ((n / 64 : ℕ) : ℤ) := fun n => rfl
  have hbit : ∀ n : ℕ, (((n : ℤ).tmod 64) % 2 ^ 64).toNat = n % 64 := by
    intro n
    rw [Int.tmod_eq_emod_of_nonneg (by omega)]
    omega
  have hhi : hi / 64 < nw := by omega
  have hlo : lo / 64 ≤ hi / 64 := Nat.div_le_div_right hle
  rw [clearRangeChecked, clearRange]
  simp only [hword, hbit, Nat.cast_inj]
  by_cases hsame : lo / 64 = hi / 64
  · rw [if_pos hsame, if_pos hsame]
    exact andNotWord_natCast ws (by omega) _
  · have hcount : lo / 64 + 1 + (hi / 64 - (lo / 64 + 1)) = hi / 64 := by omega
    rw [if_neg hsame, if_neg hsame, andNotWord_natCast ws (by omega)]
    simp only [Option.bind_eq_bind, Option.bind_some]
    have hzero := fun ws : Words nw => zeroWordsUpTo_natCast ws hcount (by omega)
    rw [Nat.cast_succ] at hzero
    rw [hzero, Option.bind_some]
    exact andNotWord_natCast _ hhi _

/-! ## The result -/

/-- **A range is cleared, and nothing else.**  For every bitmap and every range of positions inside
it, `clearRange` does not index outside the slice.  Afterwards the bits of the range are zero and
all others are as before. -/
theorem clears_exactly_the_range (ws : Words nw) {lo hi : ℤ} (h0 : 0 ≤ lo) (hle : lo ≤ hi)
    (hlt : hi < 64 * nw) :
    ∃ ws', clearRangeChecked ws lo hi = some ws' ∧
      ∀ p : ℕ, (lo ≤ p ∧ p ≤ hi → bit ws' p = false) ∧
        (¬ (lo ≤ p ∧ p ≤ hi) → bit ws' p = bit ws p) := by
  obtain ⟨l, rfl⟩ := Int.eq_ofNat_of_zero_le h0
  obtain ⟨h, rfl⟩ := Int.eq_ofNat_of_zero_le (h0.trans hle)
  have hle' : l ≤ h := by omega
  have hlt' : h < nw * 64 := by omega
  refine ⟨_, clearRangeChecked_natCast ws hle' hlt', fun p => ?_⟩
  rw [bit_clearRange]
  constructor
  · intro hp
    have hin : l ≤ p ∧ p ≤ h := by omega
    simp [hin]
  · intro hp
    have hout : ¬ (l ≤ p ∧ p ≤ h) := by omega
    simp [hout]

/-- A range that covers the second of three words and touches both others. -/
theorem clears_exactly_the_range_three :
    ∃ ws', clearRangeChecked (Vector.replicate 3 (~~~(0 : BitVec 64))) 63 128 = some ws' ∧
      bit ws' 62 = true ∧ bit ws' 63 = false ∧ bit ws' 100 = false ∧ bit ws' 128 = false ∧
      bit ws' 129 = true := by
  obtain ⟨ws', hws', hbit⟩ := @clears_exactly_the_range 3
    (Vector.replicate 3 (~~~(0 : BitVec 64))) 63 128 (by decide) (by decide) (by decide)
  refine ⟨ws', hws', ?_, ?_, ?_, ?_, ?_⟩
  · rw [(hbit 62).2 (by decide)]
    decide
  · exact (hbit 63).1 (by decide)
  · exact (hbit 100).1 (by decide)
  · exact (hbit 128).1 (by decide)
  · rw [(hbit 129).2 (by decide)]
    decide

end ReplayWindow
end Gemina
