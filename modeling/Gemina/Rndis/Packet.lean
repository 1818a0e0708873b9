/-
# Packets over RNDIS

Ethernet frames travel to and from the phone in packet messages (`rl_wrap_packet` and
`rl_unwrap_packet` of `rndis_lib.c`).  The header holds numbers of 32 bits, least significant byte
first, among them the offset and the length of the frame; what the phone sends there is arbitrary.

A read outside a buffer is undefined in C.  Here it is `none`, so that a function that returns has
read inside its buffers only.
-/
import Gemina.Protocol
import Gemina.Lib.Slice
import Gemina.Lib.Buffer
import Gemina.Lib.Words

namespace Gemina
namespace Rndis

open Buffer (write)

/-- `INT_MAX`. -/
def intMax : ℕ := 2 ^ 31 - 1

/-- `RNDIS_MSG_PACKET`. -/
def msgPacket : UInt32 := 1

/-- `RNDIS_PACKET_HDR`. -/
def packetHdr : ℕ := 44

/-- `rl_rd32`, of the bytes from `off` on. -/
def rd32 (buf : Bytes) (off : ℕ) : Option UInt32 := do
  let p0 ← buf[off]?
  let p1 ← buf[off + 1]?
  let p2 ← buf[off + 2]?
  let p3 ← buf[off + 3]?
  return p0.toUInt32 ||| (p1.toUInt32 <<< 8) ||| (p2.toUInt32 <<< 16) ||| (p3.toUInt32 <<< 24)

/-- The bytes that `rl_wr32` writes. -/
def le32 (v : UInt32) : Bytes :=
  [(v &&& 0xff).toUInt8, ((v >>> 8) &&& 0xff).toUInt8, ((v >>> 16) &&& 0xff).toUInt8,
    ((v >>> 24) &&& 0xff).toUInt8]

/-- `rl_wr32`, to the bytes from `off` on. -/
def wr32 (buf : Bytes) (off : ℕ) (v : UInt32) : Bytes := write buf off (le32 v)

/-- The conversion of an `int` to `uint32_t`. -/
def uint32OfInt (n : ℤ) : UInt32 := UInt32.ofInt n

/-- The conversion of an `uint32_t` to `int`. -/
def intOfUInt32 (v : UInt32) : ℤ := v.toInt32.toInt

/-- `rl_wrap_packet`: the length or -1, and the message buffer. -/
def wrapPacket (frame : Bytes) (frameLen : ℤ) (msg : Bytes) (msgCap : ℤ) : ℤ × Bytes :=
  let total : ℤ := packetHdr + frameLen
  if frameLen < 0 ∨ total > msgCap then (-1, msg)
  else
    let msg := write msg 0 (List.replicate packetHdr 0)
    let msg := wr32 msg 0 msgPacket
    let msg := wr32 msg 4 (uint32OfInt total)
    let msg := wr32 msg 8 (uint32OfInt (packetHdr - 8))
    let msg := wr32 msg 12 (uint32OfInt frameLen)
    let msg := write msg packetHdr (frame.take frameLen.toNat)
    (total, msg)

/-- `rl_unwrap_packet`, of `got` bytes: the length of the frame, 0 or -1, and the position of the
frame, if it is set. -/
def unwrapPacket (buf : Bytes) (got : ℤ) : Option (ℤ × Option ℕ) :=
  if got < packetHdr then some (-1, none)
  else do
    let type ← rd32 buf 0
    if type ≠ msgPacket then return (0, none)
    let dataOff ← rd32 buf 8
    let dataLen ← rd32 buf 12
    if (8 : UInt64) + dataOff.toUInt64 + dataLen.toUInt64 > UInt64.ofInt got then return (-1, none)
    return (intOfUInt32 dataLen, some (8 + dataOff.toNat))

/-! ## Numbers of 32 bits -/

/-- A number is read where it was written. -/
lemma rd32_le32 {a : Bytes} {off : ℕ} (hoff : a.length = off) (v : UInt32) (c : Bytes) :
    rd32 (a ++ (le32 v ++ c)) off = some v := by
  subst hoff
  have hget : ∀ i < 4, (a ++ (le32 v ++ c))[a.length + i]? = (le32 v)[i]? := by
    intro i hi
    rw [List.getElem?_append_right (by omega), Nat.add_sub_cancel_left,
      List.getElem?_append_left (by simpa [le32] using hi)]
  have h0 := hget 0 (by omega)
  rw [Nat.add_zero] at h0
  rw [rd32, h0, hget 1 (by omega), hget 2 (by omega), hget 3 (by omega)]
  exact congrArg some (Words.le32_bytes v)

/-- Four bytes inside the buffer are read. -/
lemma rd32_isSome {buf : Bytes} {off : ℕ} (h : off + 4 ≤ buf.length) :
    ∃ v, rd32 buf off = some v := by
  have hget : ∀ i < 4, ∃ p, buf[off + i]? = some p :=
    fun i hi => ⟨_, List.getElem?_eq_getElem (by omega)⟩
  obtain ⟨p0, h0⟩ := hget 0 (by omega)
  obtain ⟨p1, h1⟩ := hget 1 (by omega)
  obtain ⟨p2, h2⟩ := hget 2 (by omega)
  obtain ⟨p3, h3⟩ := hget 3 (by omega)
  rw [Nat.add_zero] at h0
  rw [rd32, h0, h1, h2, h3]
  exact ⟨_, rfl⟩

lemma uint64_ofInt {n : ℕ} (h : n < 2 ^ 64) : (UInt64.ofInt n).toNat = n := by
  rw [UInt64.ofInt, Words.toNat_emod h, UInt64.toNat_ofNat', Nat.mod_eq_of_lt h]

lemma uint32OfInt_natCast {n : ℕ} (h : n < 2 ^ 32) : (uint32OfInt n).toNat = n := by
  rw [uint32OfInt, UInt32.ofInt, Words.toNat_emod h, UInt32.toNat_ofNat', Nat.mod_eq_of_lt h]

lemma intOfUInt32_of_lt {v : UInt32} (h : v.toNat < 2 ^ 31) : intOfUInt32 v = v.toNat := by
  rw [intOfUInt32, ← Int32.toInt_toBitVec]
  simp only [UInt32.toBitVec_toInt32]
  rw [BitVec.toInt_eq_toNat_of_lt (by simp only [UInt32.toNat_toBitVec]; omega)]
  rfl

/-- The sum that bounds the frame does not wrap around. -/
lemma toNat_bound (off len : UInt32) :
    ((8 : UInt64) + off.toUInt64 + len.toUInt64).toNat = 8 + off.toNat + len.toNat := by
  have hoff := off.toNat_lt
  have hlen := len.toNat_lt
  rw [UInt64.toNat_add, UInt64.toNat_add, UInt32.toNat_toUInt64, UInt32.toNat_toUInt64]
  simp only [UInt64.reduceToNat]
  omega

/-! ## The header -/

/-- The header of a message with a frame of this length. -/
def packetHeader (frameLen : ℤ) : Bytes :=
  le32 msgPacket ++ (le32 (uint32OfInt (packetHdr + frameLen)) ++
    (le32 (uint32OfInt (packetHdr - 8)) ++ (le32 (uint32OfInt frameLen) ++ List.replicate 28 0)))

@[simp] lemma length_packetHeader (frameLen : ℤ) : (packetHeader frameLen).length = packetHdr := rfl

/-- **The message is its header and the frame.**  What was behind it in the buffer stays. -/
lemma wrapPacket_of_le {frame msg : Bytes} {msgCap : ℤ}
    (h : (packetHdr : ℤ) + frame.length ≤ msgCap) :
    wrapPacket frame frame.length msg msgCap = ((packetHdr : ℤ) + frame.length,
      packetHeader frame.length ++ (frame ++ msg.drop (packetHdr + frame.length))) := by
  have hcond : ¬ ((frame.length : ℤ) < 0 ∨ (packetHdr : ℤ) + frame.length > msgCap) := by omega
  have hzero : write msg 0 (List.replicate packetHdr 0)
      = List.replicate packetHdr 0 ++ msg.drop packetHdr := by
    simp [write]
  have hheader : ∀ v0 v1 v2 v3 tail, wr32 (wr32 (wr32 (wr32 (List.replicate packetHdr 0 ++ tail)
      0 v0) 4 v1) 8 v2) 12 v3
      = le32 v0 ++ (le32 v1 ++ (le32 v2 ++ (le32 v3 ++ (List.replicate 28 0 ++ tail)))) :=
    fun _ _ _ _ _ => rfl
  rw [wrapPacket, if_neg hcond]
  simp only [hzero, hheader, Int.toNat_natCast, List.take_length]
  have hframe := @Buffer.write_next _ (packetHeader frame.length) packetHdr rfl msg frame
  simp only [packetHeader, List.append_assoc] at hframe ⊢
  rw [hframe]

lemma wrapPacket_of_gt {frame msg : Bytes} {msgCap : ℤ}
    (h : msgCap < (packetHdr : ℤ) + frame.length) :
    wrapPacket frame frame.length msg msgCap = (-1, msg) := by
  rw [wrapPacket, if_pos (Or.inr h)]

/-! ## The result -/

/-- **A wrapped frame is unwrapped**, also if other bytes follow the message. -/
lemma unwrapPacket_packetHeader {frame : Bytes} (rest : Bytes)
    (hfit : packetHdr + frame.length + rest.length ≤ intMax) :
    unwrapPacket (packetHeader frame.length ++ (frame ++ rest))
        ((packetHeader frame.length ++ (frame ++ rest)).length : ℕ)
      = some ((frame.length : ℤ), some packetHdr) := by
  have hlen : (packetHeader frame.length ++ (frame ++ rest)).length
      = packetHdr + frame.length + rest.length := by
    simp [add_assoc]
  simp only [packetHdr, intMax] at hfit
  have htype : rd32 (packetHeader frame.length ++ (frame ++ rest)) 0 = some msgPacket := by
    have := @rd32_le32 [] 0 rfl msgPacket
    simp only [packetHeader, List.append_assoc]
    exact this _
  have hoff : rd32 (packetHeader frame.length ++ (frame ++ rest)) 8
      = some (uint32OfInt (packetHdr - 8)) := by
    have := @rd32_le32 (le32 msgPacket ++ le32 (uint32OfInt (packetHdr + frame.length))) 8 rfl
      (uint32OfInt (packetHdr - 8))
    simp only [packetHeader, List.append_assoc] at this ⊢
    exact this _
  have hframeLen : rd32 (packetHeader frame.length ++ (frame ++ rest)) 12
      = some (uint32OfInt frame.length) := by
    have := @rd32_le32 (le32 msgPacket ++ (le32 (uint32OfInt (packetHdr + frame.length)) ++
      le32 (uint32OfInt (packetHdr - 8)))) 12 rfl (uint32OfInt frame.length)
    simp only [packetHeader, List.append_assoc] at this ⊢
    exact this _
  have hoffset : (uint32OfInt (packetHdr - 8)).toNat = 36 := rfl
  have hvalue : (uint32OfInt frame.length).toNat = frame.length :=
    uint32OfInt_natCast (by omega)
  have hbound : ¬ (8 : UInt64) + (uint32OfInt (packetHdr - 8)).toUInt64
      + (uint32OfInt frame.length).toUInt64
      > UInt64.ofInt ((packetHeader frame.length ++ (frame ++ rest)).length : ℕ) := by
    rw [gt_iff_lt, UInt64.lt_iff_toNat_lt, toNat_bound, hoffset, hvalue, hlen,
      uint64_ofInt (by simp only [packetHdr]; omega)]
    simp only [packetHdr]
    omega
  have hgot : ¬ ((packetHeader frame.length ++ (frame ++ rest)).length : ℤ) < packetHdr := by
    rw [hlen]
    omega
  rw [unwrapPacket, if_neg hgot, htype, hoff, hframeLen]
  simp only [Option.bind_eq_bind, Option.bind_some, ne_eq, not_true_eq_false, if_false, hbound,
    hoffset, Option.pure_def]
  rw [intOfUInt32_of_lt (by omega), hvalue]
  rfl

/-- **Unwrapping reads inside the buffer**, and a frame that it finds lies inside. -/
lemma unwrapPacket_bounds {buf : Bytes} (hfit : buf.length ≤ intMax) :
    ∃ k frame, unwrapPacket buf buf.length = some (k, frame) ∧
      (0 < k → ∃ dataOff, rd32 buf 8 = some dataOff ∧ frame = some (8 + dataOff.toNat) ∧
        ((8 + dataOff.toNat : ℕ) : ℤ) + k ≤ buf.length) := by
  simp only [intMax] at hfit
  by_cases hgot : (buf.length : ℤ) < packetHdr
  · exact ⟨-1, none, by rw [unwrapPacket, if_pos hgot], by omega⟩
  have hlen : 44 ≤ buf.length := by
    simp only [packetHdr] at hgot
    omega
  obtain ⟨type, htype⟩ := rd32_isSome (show 0 + 4 ≤ buf.length by omega)
  obtain ⟨dataOff, hoff⟩ := rd32_isSome (show 8 + 4 ≤ buf.length by omega)
  obtain ⟨dataLen, hdataLen⟩ := rd32_isSome (show 12 + 4 ≤ buf.length by omega)
  rw [unwrapPacket, if_neg hgot, htype, hoff, hdataLen]
  simp only [Option.bind_eq_bind, Option.bind_some, Option.pure_def]
  by_cases hpacket : type = msgPacket
  · by_cases hbound : (8 : UInt64) + dataOff.toUInt64 + dataLen.toUInt64 > UInt64.ofInt buf.length
    · exact ⟨-1, none, by simp [hpacket, hbound], by omega⟩
    · refine ⟨intOfUInt32 dataLen, some (8 + dataOff.toNat), by simp [hpacket, hbound], ?_⟩
      intro _
      -- the bound holds for the numbers, so the length is a non-negative `int`
      rw [gt_iff_lt, UInt64.lt_iff_toNat_lt, toNat_bound, uint64_ofInt (by omega)] at hbound
      rw [intOfUInt32_of_lt (by omega)]
      exact ⟨dataOff, rfl, rfl, by omega⟩
  · exact ⟨0, none, by simp [hpacket], by omega⟩

/-- **Packet messages are safe.**  For every frame of at least one byte whose message has a length
that is an `int`, and every buffer with the stated capacity: `rl_wrap_packet` returns -1 exactly if
the message exceeds the capacity.  Otherwise it returns the length of the message, writes nothing
behind it and stays inside the buffer, and `rl_unwrap_packet` recovers the frame from the message,
also if other bytes follow.  And for every received buffer, `rl_unwrap_packet` reads inside the
buffer only; whenever it returns a positive length, the frame lies inside the buffer. -/
theorem packets_safe :
    (∀ (frame msg : Bytes) (msgCap : ℤ), 1 ≤ frame.length → frame.length ≤ intMax - packetHdr →
      msgCap ≤ msg.length →
      ((wrapPacket frame frame.length msg msgCap).1 = -1 ↔ msgCap < packetHdr + frame.length) ∧
      (packetHdr + frame.length ≤ msgCap → ∃ message, message.length = packetHdr + frame.length ∧
        wrapPacket frame frame.length msg msgCap
          = ((message.length : ℤ), message ++ msg.drop message.length) ∧
        message.length ≤ msg.length ∧
        ∀ rest : Bytes, message.length + rest.length ≤ intMax →
          ∃ off, unwrapPacket (message ++ rest) ((message ++ rest).length : ℕ)
            = some ((frame.length : ℤ), some off) ∧
            (message ++ rest).slice off (off + frame.length) = frame)) ∧
    (∀ buf : Bytes, buf.length ≤ intMax →
      ∃ k frame, unwrapPacket buf buf.length = some (k, frame) ∧
        (0 < k → ∃ dataOff, rd32 buf 8 = some dataOff ∧ frame = some (8 + dataOff.toNat) ∧
          ((8 + dataOff.toNat : ℕ) : ℤ) + k ≤ buf.length)) := by
  refine ⟨?_, fun buf hfit => unwrapPacket_bounds hfit⟩
  intro frame msg msgCap hpos hmax hbuf
  constructor
  · by_cases hcap : msgCap < (packetHdr : ℤ) + frame.length
    · simp [wrapPacket_of_gt hcap, hcap]
    · rw [wrapPacket_of_le (not_lt.mp hcap)]
      simp only [hcap, iff_false]
      omega
  · intro hcap
    have hlen : (packetHeader frame.length ++ frame).length = packetHdr + frame.length := by simp
    refine ⟨packetHeader frame.length ++ frame, hlen, ?_, by omega, ?_⟩
    · rw [wrapPacket_of_le hcap, hlen]
      simp
    · intro rest hfit
      rw [hlen] at hfit
      refine ⟨packetHdr, ?_, ?_⟩
      · rw [List.append_assoc]
        exact unwrapPacket_packetHeader rest hfit
      · rw [List.append_assoc]
        exact List.slice_mid (length_packetHeader _) rfl

/-- A frame of three bytes: it is wrapped into a buffer of fifty bytes and recovered from it, and it
does not fit into one of forty. -/
theorem packets_safe_three_bytes :
    (∃ message rest : Bytes, message.length = 47 ∧
      wrapPacket [1, 2, 3] 3 (List.replicate 50 9) 50 = (47, message ++ rest) ∧
      ∃ off, unwrapPacket (message ++ rest) 50 = some (3, some off) ∧
        (message ++ rest).slice off (off + 3) = [1, 2, 3]) ∧
    (wrapPacket [1, 2, 3] 3 (List.replicate 40 9) 40).1 = -1 := by
  have hfits := packets_safe.1 [1, 2, 3] (List.replicate 50 9) 50 (by decide) (by decide)
    (by decide)
  have hshort := packets_safe.1 [1, 2, 3] (List.replicate 40 9) 40 (by decide) (by decide)
    (by decide)
  obtain ⟨message, hlen, hwrap, -, hunwrap⟩ := hfits.2 (by decide)
  have hlen : message.length = 47 := hlen
  rw [hlen] at hwrap hunwrap
  obtain ⟨off, hoff, hslice⟩ := hunwrap [9, 9, 9] (by decide)
  rw [List.length_append, hlen] at hoff
  exact ⟨⟨message, [9, 9, 9], hlen, hwrap, off, hoff, hslice⟩, hshort.1.mpr (by decide)⟩

end Rndis
end Gemina
