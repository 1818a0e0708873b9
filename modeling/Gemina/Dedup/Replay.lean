/-
# The anti-replay window

The sliding window of `internal/dedup/replay.go`: the highest packet number seen and a ring
bitmap of `nw` words of 64 bits, in which packet number `n` has position `n % width`.

The words are a vector whose length is part of its type, so every word that the code reads
or writes is shown to exist where it is used.
-/
import Gemina.Protocol

namespace Gemina

/-- `dedup.ReplayDecision`. -/
inductive ReplayDecision where
  /-- The packet number is zero. -/
  | invalid
  /-- Not seen before, and inside or ahead of the window. -/
  | firstCopy
  /-- Seen before, and still inside the window. -/
  | duplicate
  /-- Behind the window. -/
  | stale
deriving DecidableEq, Repr

/-- `dedup.ErrInvalidCapacity`. -/
def errInvalidCapacity : GoError := ⟨"dedup window capacity must be positive"⟩

/-- The run-time panic of `make([]uint64, n)` for a negative `n`. -/
def panicMakeSlice : GoError := ⟨"runtime error: makeslice: len out of range"⟩

/-- Reduction of an exact integer to a 64-bit Go `int`. -/
def goInt (x : ℤ) : ℤ := (x + 2 ^ 63) % 2 ^ 64 - 2 ^ 63

/-- A ring bitmap of `nw` words. -/
abbrev Words (nw : ℕ) : Type := Vector (BitVec 64) nw

/-- `dedup.ReplayWindow`, without its mutex. -/
structure ReplayWindow where
  /-- The highest packet number observed; `0` means not yet set. -/
  last : PacketNumber
  /-- The number of words. -/
  nw : ℕ
  /-- The ring bitmap. -/
  words : Words nw
  /-- The effective width of the window. -/
  width : ℕ
  width_eq : width = nw * 64
  nw_pos : 0 < nw
  /-- The width is a Go `int`, so its conversion to `uint64` is exact. -/
  width_lt : width < 2 ^ 63

namespace ReplayWindow

variable {nw : ℕ}

lemma width_pos (w : ReplayWindow) : 0 < w.width := by
  have h := w.nw_pos
  rw [w.width_eq]
  omega

/-- `NewReplayWindow`.  Go's `/` truncates towards zero.  `make` panics for a negative length; for
one that is too large to allocate the source panics too or runs out of memory, and here it gets a
window. -/
def newReplayWindow (width : ℤ) : Except GoError ReplayWindow :=
  if width ≤ 0 then .error errInvalidCapacity
  else
    let nw := (goInt (width + 63)).tdiv 64
    if h : 0 < nw ∧ nw * 64 < 2 ^ 63 then
      .ok {
        last := 0
        nw := nw.toNat
        words := Vector.replicate nw.toNat 0
        width := nw.toNat * 64
        width_eq := rfl
        nw_pos := by omega
        width_lt := by omega }
    else .error panicMakeSlice

/-! ## The bitmap -/

/-- `wordMask`: the word with the bits `lo, …, hi` set. -/
def wordMask (lo hi : ℕ) : BitVec 64 :=
  if lo > hi then 0
  else
    let n := hi - lo + 1
    if n = 64 then ~~~(0 : BitVec 64)
    else (((1 : BitVec 64) <<< n) - 1) <<< lo

/-- `words[i] &^= mask`. -/
def andNot (ws : Words nw) (i : ℕ) (hi : i < nw) (mask : BitVec 64) : Words nw :=
  ws.set i (ws[i] &&& ~~~mask)

/-- The loop of `clearRange` over the complete middle words: `count` words from `wd` on. -/
def zeroWords (ws : Words nw) (wd count : ℕ) (h : wd + count ≤ nw) : Words nw :=
  match count with
  | 0 => ws
  | count + 1 => zeroWords (ws.set wd 0) (wd + 1) count (by omega)

/-- `clearRange`: clear the positions `lo, …, hi`. -/
def clearRange (ws : Words nw) (lo hi : ℕ) (hle : lo ≤ hi) (hlt : hi < nw * 64) : Words nw :=
  let loWord := lo / 64
  let hiWord := hi / 64
  let loBit := lo % 64
  let hiBit := hi % 64
  have hhi : hiWord < nw := by omega
  have hlo : loWord ≤ hiWord := Nat.div_le_div_right hle
  if loWord = hiWord then andNot ws loWord (by omega) (wordMask loBit hiBit)
  else
    let ws := andNot ws loWord (by omega) (~~~(0 : BitVec 64) <<< loBit)
    let ws := zeroWords ws (loWord + 1) (hiWord - (loWord + 1)) (by omega)
    andNot ws hiWord hhi (wordMask 0 hiBit)

lemma pos_lt (w : ReplayWindow) (n : ℕ) : n % w.width < w.nw * 64 :=
  w.width_eq ▸ Nat.mod_lt n w.width_pos

/-- `setBit`. -/
def setBit (w : ReplayWindow) (n : PacketNumber) : ReplayWindow :=
  let pos := n.toNat % w.width
  have hpos : pos / 64 < w.nw := Nat.div_lt_of_lt_mul (by simpa [mul_comm] using w.pos_lt n.toNat)
  { w with
    words := w.words.set (pos / 64) (w.words[pos / 64] ||| ((1 : BitVec 64) <<< (pos % 64))) }

/-- `testBit`. -/
def testBit (w : ReplayWindow) (n : PacketNumber) : Bool :=
  let pos := n.toNat % w.width
  have hpos : pos / 64 < w.nw := Nat.div_lt_of_lt_mul (by simpa [mul_comm] using w.pos_lt n.toNat)
  w.words[pos / 64] &&& ((1 : BitVec 64) <<< (pos % 64)) != 0

/-! ## Observing a packet number -/

/-- The words after `advance` to `n`, before the bit of `n` is set. -/
def advanceWords (w : ReplayWindow) (n : PacketNumber) : Words w.nw :=
  let diff := n - w.last
  if w.width ≤ diff.toNat then
    -- the jump is wider than the window: every existing bit is stale
    Vector.replicate w.nw 0
  else
    let startPos := (w.last + 1).toNat % w.width
    let endPos := n.toNat % w.width
    if h : startPos ≤ endPos then
      clearRange w.words startPos endPos h (w.pos_lt _)
    else
      -- the range runs over the end of the ring
      let ws := clearRange w.words startPos (w.width - 1)
        (Nat.le_sub_one_of_lt (Nat.mod_lt _ w.width_pos))
        (by have := w.width_pos; rw [← w.width_eq]; omega)
      clearRange ws 0 endPos (Nat.zero_le _) (w.pos_lt _)

/-- `advance`: slide the window so that `n` becomes the last number. -/
def advance (w : ReplayWindow) (n : PacketNumber) : ReplayWindow :=
  setBit { w with words := w.advanceWords n, last := n } n

/-- `Observe`: classify one inbound packet number. -/
def observe (w : ReplayWindow) (n : PacketNumber) : ReplayDecision × ReplayWindow :=
  if n = 0 then (.invalid, w)
  else if w.last = 0 then
    (.firstCopy, setBit { w with last := n } n)
  else if n > w.last then
    (.firstCopy, w.advance n)
  else
    let diff := w.last - n
    if w.width ≤ diff.toNat then (.stale, w)
    else if w.testBit n then (.duplicate, w)
    else (.firstCopy, w.setBit n)

end ReplayWindow
end Gemina
