/-
# UDP frames with checksums

The frames that the spike sends (`rl_inet_csum`, `udp_ip_eth` and `rl_build_udp_frame` of
`rndis_lib.c`): Ethernet, IPv4 and UDP headers around a payload, with the checksum of the IP header
and that of the UDP segment.  The latter is computed in a scratch buffer which is smaller than the
longest frame; for a payload that does not fit, the field stays zero.
-/
import Gemina.Protocol
import Gemina.Lib.BigEndian
import Gemina.Lib.Slice
import Gemina.Lib.Buffer
import Gemina.Lib.Words
import Gemina.Lib.OnesComplement

namespace Gemina
namespace Rndis

open Buffer (write)
open OnesComplement (wordSum)

/-- `FRAME_CAP`. -/
def frameCap : ℤ := 600

/-- The bytes that `wbe16` writes. -/
def be16 (v : UInt16) : Bytes := [((v >>> 8) &&& 0xff).toUInt8, (v &&& 0xff).toUInt8]

/-- `wbe16`, to the bytes from `off` on. -/
def wbe16 (buf : Bytes) (off : ℕ) (v : UInt16) : Bytes := write buf off (be16 v)

/-- The conversion of an `int` to `uint16_t`. -/
def uint16OfInt (n : ℤ) : UInt16 := UInt16.ofInt n

/-! ## The checksum -/

/-- The sum of `rl_inet_csum`: pairs of bytes, and the last byte of an odd number. -/
def sumWords (sum : UInt32) : Bytes → UInt32
  | [] => sum
  | [a] => sum + (a.toUInt32 <<< 8)
  | a :: b :: l => sumWords (sum + ((a.toUInt32 <<< 8) ||| b.toUInt32)) l

lemma toNat_carry (sum : UInt32) :
    ((sum &&& (0xffff : UInt32)) + (sum >>> 16)).toNat
      = sum.toNat % 2 ^ 16 + sum.toNat / 2 ^ 16 := by
  have hlt := sum.toNat_lt
  have hlow : (sum &&& (0xffff : UInt32)).toNat = sum.toNat % 2 ^ 16 := by
    rw [UInt32.toNat_and, show UInt32.toNat 0xffff = 2 ^ 16 - 1 from rfl,
      Nat.and_two_pow_sub_one_eq_mod]
  have hhigh : (sum >>> 16).toNat = sum.toNat / 2 ^ 16 := by
    rw [UInt32.toNat_shiftRight, Nat.shiftRight_eq_div_pow]
    rfl
  rw [UInt32.toNat_add, hlow, hhigh]
  omega

lemma shiftRight_eq_zero_iff (sum : UInt32) : sum >>> 16 = 0 ↔ sum.toNat / 2 ^ 16 = 0 := by
  rw [← UInt32.toNat_inj, UInt32.toNat_shiftRight, Nat.shiftRight_eq_div_pow]
  rfl

/-- The loop that carries what is above 16 bits back in. -/
def foldCarries (sum : UInt32) : UInt32 :=
  if sum >>> 16 = 0 then sum else foldCarries ((sum &&& (0xffff : UInt32)) + (sum >>> 16))
termination_by sum.toNat
decreasing_by
  rename_i h
  rw [shiftRight_eq_zero_iff] at h
  rw [toNat_carry]
  omega

/-- `rl_inet_csum`. -/
def inetCsum (data : Bytes) : UInt16 := (~~~ (foldCarries (sumWords 0 data))).toUInt16

lemma toNat_foldCarries (sum : UInt32) :
    (foldCarries sum).toNat = OnesComplement.fold sum.toNat := by
  fun_induction foldCarries sum with
  | case1 sum h => rw [OnesComplement.fold, if_pos ((shiftRight_eq_zero_iff sum).mp h)]
  | case2 sum h ih =>
    rw [shiftRight_eq_zero_iff] at h
    rw [OnesComplement.fold, if_neg h, ih, toNat_carry]

lemma toNat_sumWords {sum : UInt32} {data : Bytes} (h : sum.toNat + wordSum data < 2 ^ 32) :
    (sumWords sum data).toNat = sum.toNat + wordSum data := by
  fun_induction sumWords sum data with
  | case1 sum => rfl
  | case2 sum a =>
    have ha : (a.toUInt32 <<< 8).toNat = 256 * a.toNat := by
      rw [Words.toNat_shiftLeft a (by decide), Nat.shiftLeft_eq, Nat.mul_comm]
      rfl
    simp only [wordSum] at h ⊢
    rw [UInt32.toNat_add, ha, Nat.mod_eq_of_lt h]
  | case3 sum a b l ih =>
    simp only [wordSum] at h ⊢
    have hadd : (sum + ((a.toUInt32 <<< 8) ||| b.toUInt32)).toNat
        = sum.toNat + (256 * a.toNat + b.toNat) := by
      rw [UInt32.toNat_add, Words.toNat_be16, Nat.mod_eq_of_lt (by omega)]
      rfl
    rw [ih (by omega), hadd]
    omega

/-- **The checksum is the complement of the one's-complement sum.** -/
lemma toNat_inetCsum {data : Bytes} (h : data.length ≤ 2 ^ 16) :
    (inetCsum data).toNat = 65535 - OnesComplement.fold (wordSum data) := by
  have hsum := OnesComplement.wordSum_le data
  have hfold := OnesComplement.fold_lt (wordSum data)
  have htoNat : (foldCarries (sumWords 0 data)).toNat = OnesComplement.fold (wordSum data) := by
    rw [toNat_foldCarries, toNat_sumWords (by simp only [UInt32.toNat_zero]; omega)]
    simp
  rw [inetCsum, UInt32.toNat_toUInt16, UInt32.toNat_not, htoNat]
  simp only [UInt32.size]
  omega

/-- A checksum verifies if the sum vanishes, and there is something to sum. -/
lemma inetCsum_eq_zero {data : Bytes} (h : data.length ≤ 2 ^ 16) (hpos : 0 < wordSum data)
    (hmod : wordSum data % 65535 = 0) : inetCsum data = 0 := by
  rw [← UInt16.toNat_inj, toNat_inetCsum h, OnesComplement.fold_eq_ones hpos hmod]
  rfl

/-! ## The frame -/

/-- The part of `udp_ip_eth` before the checksums: the headers and the payload are written. -/
def writeHeaders (frame : Bytes) (dstMac srcMac : ByteArrayN 6) (srcIP dstIP : ByteArrayN 4)
    (sport dport : UInt16) (payload : Bytes) (plen : ℤ) : Bytes :=
  let total : ℤ := 14 + 20 + 8 + plen
  let frame := write frame 0 (List.replicate total.toNat 0)
  -- Ethernet
  let frame := write frame 0 dstMac.1
  let frame := write frame 6 srcMac.1
  let frame := wbe16 frame 12 0x0800
  let ip := 14
  let udp := ip + 20
  let data := udp + 8
  let frame := write frame data (payload.take plen.toNat)
  -- the UDP header
  let udpLen : ℤ := 8 + plen
  let frame := wbe16 frame (udp + 0) sport
  let frame := wbe16 frame (udp + 2) dport
  let frame := wbe16 frame (udp + 4) (uint16OfInt udpLen)
  let frame := wbe16 frame (udp + 6) 0
  -- the IPv4 header
  let ipLen : ℤ := 20 + udpLen
  let frame := write frame ip [0x45]
  let frame := write frame (ip + 1) [0]
  let frame := wbe16 frame (ip + 2) (uint16OfInt ipLen)
  let frame := wbe16 frame (ip + 4) 0
  let frame := wbe16 frame (ip + 6) 0
  let frame := write frame (ip + 8) [64]
  let frame := write frame (ip + 9) [17]
  let frame := wbe16 frame (ip + 10) 0
  let frame := write frame (ip + 12) srcIP.1
  write frame (ip + 16) dstIP.1

/-- `udp_ip_eth`: the length or -1, and the frame buffer. -/
def udpIpEth (frame : Bytes) (dstMac srcMac : ByteArrayN 6) (srcIP dstIP : ByteArrayN 4)
    (sport dport : UInt16) (payload : Bytes) (plen : ℤ) : ℤ × Bytes :=
  let total : ℤ := 14 + 20 + 8 + plen
  if plen < 0 ∨ total > frameCap then (-1, frame)
  else
    let frame := writeHeaders frame dstMac srcMac srcIP dstIP sport dport payload plen
    let ip := 14
    let udp := ip + 20
    let udpLen : ℤ := 8 + plen
    let frame := wbe16 frame (ip + 10) (inetCsum (frame.slice ip (ip + 20)))
    -- the UDP checksum, if the segment fits into the scratch buffer
    if udpLen ≤ 12 + 8 + 512 - 12 then
      let pseudo := srcIP.1 ++ dstIP.1 ++ [0, 17] ++ be16 (uint16OfInt udpLen)
        ++ frame.slice udp (udp + udpLen.toNat)
      let csum := inetCsum pseudo
      let csum := if csum = 0 then 0xffff else csum
      (total, wbe16 frame (udp + 6) csum)
    else (total, frame)

/-- `rl_build_udp_frame`. -/
def buildUdpFrame (srcMac dstMac : ByteArrayN 6) (srcIP dstIP : ByteArrayN 4)
    (srcPort dstPort : UInt16) (payload : Bytes) (payloadLen : ℤ) (frame : Bytes) : ℤ × Bytes :=
  udpIpEth frame dstMac srcMac srcIP dstIP srcPort dstPort payload payloadLen

/-! ## The headers -/

def ethHeader (dstMac srcMac : ByteArrayN 6) : Bytes := dstMac.1 ++ (srcMac.1 ++ be16 0x0800)

/-- The IP header up to the checksum. -/
def ipFront (ipLen : ℤ) : Bytes := [0x45, 0] ++ (be16 (uint16OfInt ipLen) ++ [0, 0, 0, 0, 64, 17])

def ipHeader (ipLen : ℤ) (csum : UInt16) (srcIP dstIP : ByteArrayN 4) : Bytes :=
  ipFront ipLen ++ (be16 csum ++ (srcIP.1 ++ dstIP.1))

/-- The UDP header up to the checksum. -/
def udpFront (sport dport : UInt16) (udpLen : ℤ) : Bytes :=
  be16 sport ++ (be16 dport ++ be16 (uint16OfInt udpLen))

/-- The pseudo-header that the UDP checksum covers as well. -/
def pseudoHeader (srcIP dstIP : ByteArrayN 4) (udpLen : ℤ) : Bytes :=
  srcIP.1 ++ dstIP.1 ++ [0, 17] ++ be16 (uint16OfInt udpLen)

/-- The checksum that is written for a sum: never zero. -/
def udpCsum (data : Bytes) : UInt16 := if inetCsum data = 0 then 0xffff else inetCsum data

section

variable {dstMac srcMac : ByteArrayN 6} {srcIP dstIP : ByteArrayN 4} {sport dport : UInt16}
  {payload frame : Bytes}

@[simp] lemma length_be16 (v : UInt16) : (be16 v).length = 2 := by simp [be16]

/-- Zeros in a frame. -/
def zeros (n : ℕ) : Bytes := List.replicate n 0

lemma length_zeros (n : ℕ) : (zeros n).length = n := List.length_replicate

/-- **The frame before the checksums**: the headers with zeros for them, and the payload. -/
lemma writeHeaders_eq :
    writeHeaders frame dstMac srcMac srcIP dstIP sport dport payload payload.length
      = ethHeader dstMac srcMac ++ (ipHeader (20 + (8 + payload.length)) 0 srcIP dstIP ++
        (udpFront sport dport (8 + payload.length) ++ (be16 0 ++ (payload ++
          frame.drop (42 + payload.length))))) := by
  have htotal : (14 + 20 + 8 + (payload.length : ℤ)).toNat = 42 + payload.length := by omega
  -- the zeros, cut into the fields that are written
  have hzero : write frame 0 (List.replicate (42 + payload.length) (0 : UInt8))
      = zeros 6 ++ (zeros 6 ++ (zeros 2 ++ (zeros 1 ++ (zeros 1 ++ (zeros 2 ++ (zeros 2 ++
        (zeros 2 ++ (zeros 1 ++ (zeros 1 ++ (zeros 2 ++ (zeros 4 ++ (zeros 4 ++ (zeros 2 ++
        (zeros 2 ++ (zeros 2 ++ (zeros 2 ++ (zeros payload.length ++
          frame.drop (42 + payload.length)))))))))))))))))) := by
    simp only [write, List.take_zero, List.nil_append, List.length_replicate, Nat.zero_add]
    rw [List.replicate_add]
    simp [zeros, List.replicate]
  have hbe16 : be16 0 = [0, 0] := by decide
  simp only [writeHeaders, htotal, hzero, wbe16, Int.toNat_natCast, List.take_length,
    Nat.reduceAdd, Nat.add_zero]
  simp only [Buffer.write_skip, Buffer.write_here, length_zeros, ByteArrayN.length_val, length_be16,
    List.length_singleton, Nat.reduceLeDiff, Nat.reduceSub, le_refl, Nat.sub_self]
  simp [ethHeader, ipHeader, ipFront, udpFront, hbe16]

@[simp] lemma length_ethHeader (dstMac srcMac : ByteArrayN 6) :
    (ethHeader dstMac srcMac).length = 14 := by
  simp [ethHeader]

@[simp] lemma length_ipFront (ipLen : ℤ) : (ipFront ipLen).length = 10 := by simp [ipFront]

@[simp] lemma length_ipHeader (ipLen : ℤ) (csum : UInt16) (srcIP dstIP : ByteArrayN 4) :
    (ipHeader ipLen csum srcIP dstIP).length = 20 := by
  simp [ipHeader]

@[simp] lemma length_udpFront (sport dport : UInt16) (udpLen : ℤ) :
    (udpFront sport dport udpLen).length = 6 := by
  simp [udpFront]

@[simp] lemma length_pseudoHeader (srcIP dstIP : ByteArrayN 4) (udpLen : ℤ) :
    (pseudoHeader srcIP dstIP udpLen).length = 12 := by
  simp [pseudoHeader]

/-- A frame from its parts, with the two checksums. -/
def frameOf (dstMac srcMac : ByteArrayN 6) (srcIP dstIP : ByteArrayN 4) (sport dport : UInt16)
    (payload : Bytes) (ipCsum csum : UInt16) (rest : Bytes) : Bytes :=
  ethHeader dstMac srcMac ++ (ipHeader (20 + (8 + payload.length)) ipCsum srcIP dstIP ++
    (udpFront sport dport (8 + payload.length) ++ (be16 csum ++ (payload ++ rest))))

variable {ipCsum csum c : UInt16} {rest : Bytes}

lemma slice_ip :
    (frameOf dstMac srcMac srcIP dstIP sport dport payload ipCsum csum rest).slice 14 34
      = ipHeader (20 + (8 + payload.length)) ipCsum srcIP dstIP :=
  List.slice_mid (by simp) (by simp)

/-- The UDP segment of a frame. -/
lemma slice_udp :
    (frameOf dstMac srcMac srcIP dstIP sport dport payload ipCsum csum rest).slice 34
        (42 + payload.length)
      = udpFront sport dport (8 + payload.length) ++ (be16 csum ++ payload) := by
  have hparts : frameOf dstMac srcMac srcIP dstIP sport dport payload ipCsum csum rest
      = (ethHeader dstMac srcMac ++ ipHeader (20 + (8 + payload.length)) ipCsum srcIP dstIP) ++
        ((udpFront sport dport (8 + payload.length) ++ (be16 csum ++ payload)) ++ rest) := by
    simp [frameOf]
  rw [hparts]
  exact List.slice_mid (by simp) (by simp; omega)

lemma write_ipCsum : wbe16 (frameOf dstMac srcMac srcIP dstIP sport dport payload ipCsum csum rest)
    24 c = frameOf dstMac srcMac srcIP dstIP sport dport payload c csum rest := by
  simp only [wbe16, frameOf, ipHeader, List.append_assoc]
  simp only [Buffer.write_skip, Buffer.write_here, length_ethHeader, length_ipFront, length_be16,
    Nat.reduceLeDiff, Nat.reduceSub, le_refl, Nat.sub_self]

lemma write_udpCsum : wbe16 (frameOf dstMac srcMac srcIP dstIP sport dport payload ipCsum csum rest)
    40 c = frameOf dstMac srcMac srcIP dstIP sport dport payload ipCsum c rest := by
  simp only [wbe16, frameOf]
  simp only [Buffer.write_skip, Buffer.write_here, length_ethHeader, length_ipHeader,
    length_udpFront, length_be16, Nat.reduceLeDiff, Nat.reduceSub, le_refl, Nat.sub_self]

/-- The checksum in the IP header of a frame. -/
def ipCsumOf (srcIP dstIP : ByteArrayN 4) (payload : Bytes) : UInt16 :=
  inetCsum (ipHeader (20 + (8 + payload.length)) 0 srcIP dstIP)

/-- The pseudo-header and the UDP segment, with a checksum. -/
def segment (srcIP dstIP : ByteArrayN 4) (sport dport : UInt16) (payload : Bytes) (csum : UInt16) :
    Bytes :=
  pseudoHeader srcIP dstIP (8 + payload.length) ++
    (udpFront sport dport (8 + payload.length) ++ (be16 csum ++ payload))

/-- The checksum in the UDP header of a frame: zero if the segment does not fit into the scratch
buffer. -/
def udpCsumOf (srcIP dstIP : ByteArrayN 4) (sport dport : UInt16) (payload : Bytes) : UInt16 :=
  if payload.length ≤ 512 then udpCsum (segment srcIP dstIP sport dport payload 0) else 0

/-- **What `udp_ip_eth` writes.** -/
lemma udpIpEth_eq (h : payload.length ≤ 558) :
    udpIpEth frame dstMac srcMac srcIP dstIP sport dport payload payload.length
      = (((42 + payload.length : ℕ) : ℤ), frameOf dstMac srcMac srcIP dstIP sport dport payload
          (ipCsumOf srcIP dstIP payload) (udpCsumOf srcIP dstIP sport dport payload)
          (frame.drop (42 + payload.length))) := by
  have hcond : ¬ ((payload.length : ℤ) < 0 ∨ 14 + 20 + 8 + (payload.length : ℤ) > frameCap) := by
    simp only [frameCap]
    omega
  have hheaders : writeHeaders frame dstMac srcMac srcIP dstIP sport dport payload payload.length
      = frameOf dstMac srcMac srcIP dstIP sport dport payload 0 0
        (frame.drop (42 + payload.length)) := writeHeaders_eq
  have hseg : 34 + (8 + (payload.length : ℤ)).toNat = 42 + payload.length := by omega
  have htotal : 14 + 20 + 8 + (payload.length : ℤ) = (42 + payload.length : ℕ) := by omega
  rw [udpIpEth, if_neg hcond]
  simp only [hheaders, Nat.reduceAdd, slice_ip, write_ipCsum, hseg, slice_udp, write_udpCsum,
    htotal]
  by_cases hfit : payload.length ≤ 512
  · rw [if_pos (by omega), udpCsumOf, if_pos hfit]
    rfl
  · rw [if_neg (by omega), udpCsumOf, if_neg hfit]
    rfl

/-! ## The checksums verify -/

/-- The word that two bytes make. -/
lemma wordSum_be16 (v : UInt16) : wordSum (be16 v) = v.toNat := by
  have hlt := v.toNat_lt
  have hhigh : ((v >>> 8) &&& 0xff).toUInt8.toNat = v.toNat / 2 ^ 8 % 256 := by
    rw [UInt16.toNat_toUInt8, UInt16.toNat_and, UInt16.toNat_shiftRight, Nat.shiftRight_eq_div_pow,
      show UInt16.toNat 0xff = 2 ^ 8 - 1 from rfl, Nat.and_two_pow_sub_one_eq_mod]
    simp
  have hlow : (v &&& 0xff).toUInt8.toNat = v.toNat % 256 := by
    rw [UInt16.toNat_toUInt8, UInt16.toNat_and, show UInt16.toNat 0xff = 2 ^ 8 - 1 from rfl,
      Nat.and_two_pow_sub_one_eq_mod]
    omega
  simp only [be16, wordSum, hhigh, hlow]
  omega

lemma decode_be16 (v : UInt16) : BigEndian.decode (be16 v) = v.toNat := by
  rw [← wordSum_be16 v]
  simp only [be16, wordSum, BigEndian.decode, List.length_singleton, List.length_nil]
  omega

/-- A checksum field in the middle adds its value to the sum. -/
lemma wordSum_field {front back : Bytes} (h : front.length % 2 = 0) (c : UInt16) :
    wordSum (front ++ (be16 c ++ back)) = wordSum (front ++ (be16 0 ++ back)) + c.toNat := by
  rw [OnesComplement.wordSum_append h, OnesComplement.wordSum_append h,
    OnesComplement.wordSum_append (by simp), OnesComplement.wordSum_append (by simp),
    wordSum_be16, wordSum_be16]
  simp only [UInt16.toNat_zero]
  omega

/-- **The complement in its field makes the checksum verify.** -/
lemma inetCsum_field {front back : Bytes} (heven : front.length % 2 = 0)
    (hlen : (front ++ (be16 0 ++ back)).length ≤ 2 ^ 16) {c : UInt16}
    (hpos : 0 < wordSum (front ++ (be16 0 ++ back)) + c.toNat)
    (hc : (wordSum (front ++ (be16 0 ++ back)) + c.toNat) % 65535 = 0) :
    inetCsum (front ++ (be16 c ++ back)) = 0 := by
  refine inetCsum_eq_zero ?_ ?_ ?_
  · simpa using hlen
  · rw [wordSum_field heven]
    exact hpos
  · rw [wordSum_field heven]
    exact hc

lemma uint16OfInt_natCast {n : ℕ} (h : n < 2 ^ 16) : (uint16OfInt n).toNat = n := by
  rw [uint16OfInt, UInt16.ofInt, Words.toNat_emod h, UInt16.toNat_ofNat', Nat.mod_eq_of_lt h]

lemma ipCsum_verifies :
    inetCsum (ipHeader (20 + (8 + payload.length)) (ipCsumOf srcIP dstIP payload) srcIP dstIP)
      = 0 := by
  have hlen : (ipHeader (20 + (8 + payload.length)) 0 srcIP dstIP).length ≤ 2 ^ 16 := by simp
  refine inetCsum_field (by simp) hlen ?_ ?_
  · -- the first word of the header is not zero
    have hversion : UInt8.toNat 0x45 = 69 := rfl
    simp only [ipFront, List.cons_append, List.nil_append, wordSum]
    omega
  · have hsum := OnesComplement.add_compl_mod
      (wordSum (ipHeader (20 + (8 + payload.length)) 0 srcIP dstIP))
    rw [ipCsumOf, toNat_inetCsum hlen]
    exact hsum

/-- The checksum that is written is not zero, and makes the sum vanish. -/
lemma udpCsum_spec {data : Bytes} (h : data.length ≤ 2 ^ 16) :
    udpCsum data ≠ 0 ∧ (wordSum data + (udpCsum data).toNat) % 65535 = 0 := by
  have hsum := OnesComplement.add_compl_mod (wordSum data)
  rw [← toNat_inetCsum h] at hsum
  by_cases hzero : inetCsum data = 0
  · rw [udpCsum, if_pos hzero]
    rw [hzero] at hsum
    refine ⟨by decide, ?_⟩
    simp only [UInt16.reduceToNat, UInt16.toNat_zero] at hsum ⊢
    omega
  · rw [udpCsum, if_neg hzero]
    exact ⟨hzero, hsum⟩

lemma udpCsum_verifies (h : payload.length ≤ 512) :
    udpCsumOf srcIP dstIP sport dport payload ≠ 0 ∧
      inetCsum (segment srcIP dstIP sport dport payload
        (udpCsumOf srcIP dstIP sport dport payload)) = 0 := by
  have hlen : (segment srcIP dstIP sport dport payload 0).length ≤ 2 ^ 16 := by
    simp [segment]
    omega
  obtain ⟨hne, hmod⟩ := udpCsum_spec hlen
  rw [udpCsumOf, if_pos h]
  refine ⟨hne, ?_⟩
  have hparts : ∀ c, segment srcIP dstIP sport dport payload c
      = (pseudoHeader srcIP dstIP (8 + payload.length)
        ++ udpFront sport dport (8 + payload.length)) ++ (be16 c ++ payload) := by
    intro c
    simp [segment]
  rw [hparts]
  refine inetCsum_field (by simp) (by rw [← hparts]; exact hlen) ?_ (by rw [← hparts]; exact hmod)
  have hpos : (udpCsum (segment srcIP dstIP sport dport payload 0)).toNat ≠ 0 :=
    fun h0 => hne (UInt16.toNat_inj.mp h0)
  omega

/-! ## What a receiver reads -/

/-- A datagram on the network, with the stations that it goes between. -/
structure Datagram where
  dstMac : Bytes
  srcMac : Bytes
  srcIP : Bytes
  dstIP : Bytes
  sport : ℕ
  dport : ℕ
  payload : Bytes
deriving DecidableEq

/-- The bytes that the UDP checksum of a frame covers, up to the given position: the pseudo-header
from the addresses and the length in the frame, and the segment. -/
def coveredByUdp (f : Bytes) (stop : ℕ) : Bytes :=
  f.slice 26 34 ++ [0, 17] ++ f.slice 38 40 ++ f.slice 34 stop

/-- The datagram in a frame, as a receiver reads it that checks the lengths and asks for both
checksums. -/
def readUdp (f : Bytes) : Option Datagram :=
  if f.slice 12 14 = [0x08, 0x00] ∧ f.slice 14 15 = [0x45] ∧ f.slice 23 24 = [17] ∧
      BigEndian.decode (f.slice 16 18) + 14 = f.length ∧
      BigEndian.decode (f.slice 38 40) + 34 = f.length ∧ inetCsum (f.slice 14 34) = 0 ∧
      BigEndian.decode (f.slice 40 42) ≠ 0 ∧ inetCsum (coveredByUdp f f.length) = 0 then
    some ⟨f.slice 0 6, f.slice 6 12, f.slice 26 30, f.slice 30 34,
      BigEndian.decode (f.slice 34 36), BigEndian.decode (f.slice 36 38), f.drop 42⟩
  else none

/-- A frame that was built for a payload: the length that was returned, the payload behind the
headers, the two length fields, and the checksum of the IP header. -/
structure Framed (r : ℤ × Bytes) (payload : Bytes) : Prop where
  returned : r.1 = ((42 + payload.length : ℕ) : ℤ)
  payload_eq : r.2.slice 42 (42 + payload.length) = payload
  ip_length : BigEndian.decode (r.2.slice 16 18) = 28 + payload.length
  udp_length : BigEndian.decode (r.2.slice 38 40) = 8 + payload.length
  ip_csum : inetCsum (r.2.slice 14 34) = 0

/-- A frame that carries the datagram, with a UDP checksum that verifies for the addresses in the
frame; a receiver that checks everything reads the datagram. -/
structure WellFormed (r : ℤ × Bytes) (d : Datagram) : Prop extends Framed r d.payload where
  udp_csum_ne_zero : BigEndian.decode (r.2.slice 40 42) ≠ 0
  udp_csum : inetCsum (coveredByUdp r.2 (42 + d.payload.length)) = 0
  accepted : readUdp (r.2.take r.1.toNat) = some d

lemma slice_payload : (frameOf dstMac srcMac srcIP dstIP sport dport payload ipCsum csum rest).slice
    42 (42 + payload.length) = payload := by
  have hparts : frameOf dstMac srcMac srcIP dstIP sport dport payload ipCsum csum rest
      = (ethHeader dstMac srcMac ++ (ipHeader (20 + (8 + payload.length)) ipCsum srcIP dstIP ++
        (udpFront sport dport (8 + payload.length) ++ be16 csum))) ++ (payload ++ rest) := by
    simp [frameOf]
  rw [hparts]
  exact List.slice_mid (by simp) rfl

lemma slice_ipLength : (frameOf dstMac srcMac srcIP dstIP sport dport payload ipCsum csum
    rest).slice 16 18 = be16 (uint16OfInt (20 + (8 + payload.length))) := by
  have hparts : frameOf dstMac srcMac srcIP dstIP sport dport payload ipCsum csum rest
      = (ethHeader dstMac srcMac ++ [0x45, 0]) ++ (be16 (uint16OfInt (20 + (8 + payload.length))) ++
        ([0, 0, 0, 0, 64, 17] ++ (be16 ipCsum ++ (srcIP.1 ++ dstIP.1) ++
        (udpFront sport dport (8 + payload.length) ++ (be16 csum ++ (payload ++ rest)))))) := by
    simp [frameOf, ipHeader, ipFront]
  rw [hparts]
  exact List.slice_mid (by simp) rfl

lemma slice_udpLength : (frameOf dstMac srcMac srcIP dstIP sport dport payload ipCsum csum
    rest).slice 38 40 = be16 (uint16OfInt (8 + payload.length)) := by
  have hparts : frameOf dstMac srcMac srcIP dstIP sport dport payload ipCsum csum rest
      = (ethHeader dstMac srcMac ++ (ipHeader (20 + (8 + payload.length)) ipCsum srcIP dstIP ++
        (be16 sport ++ be16 dport))) ++ (be16 (uint16OfInt (8 + payload.length)) ++
        (be16 csum ++ (payload ++ rest))) := by
    simp [frameOf, udpFront]
  rw [hparts]
  exact List.slice_mid (by simp) rfl

lemma slice_udpCsum : (frameOf dstMac srcMac srcIP dstIP sport dport payload ipCsum csum
    rest).slice 40 42 = be16 csum := by
  have hparts : frameOf dstMac srcMac srcIP dstIP sport dport payload ipCsum csum rest
      = (ethHeader dstMac srcMac ++ (ipHeader (20 + (8 + payload.length)) ipCsum srcIP dstIP ++
        udpFront sport dport (8 + payload.length))) ++ (be16 csum ++ (payload ++ rest)) := by
    simp [frameOf]
  rw [hparts]
  exact List.slice_mid (by simp) rfl

/-- The stations, the types, the addresses and the ports of a frame. -/
lemma slices_frameOf {f : Bytes}
    (hf : f = frameOf dstMac srcMac srcIP dstIP sport dport payload ipCsum csum rest) :
    f.slice 0 6 = dstMac.1 ∧ f.slice 6 12 = srcMac.1 ∧ f.slice 12 14 = [0x08, 0x00] ∧
      f.slice 14 15 = [0x45] ∧ f.slice 23 24 = [17] ∧ f.slice 26 30 = srcIP.1 ∧
      f.slice 30 34 = dstIP.1 ∧ f.slice 34 36 = be16 sport ∧ f.slice 36 38 = be16 dport := by
  have hbytes : be16 0x0800 = [0x08, 0x00] := by decide
  obtain ⟨more, hparts⟩ : ∃ more, f =
      dstMac.1 ++ (srcMac.1 ++ ([0x08, 0x00] ++ ([0x45] ++ (0 :: (be16 (uint16OfInt (20 +
        (8 + payload.length))) ++ ([0, 0, 0, 0, 64] ++ ([17] ++ (be16 ipCsum ++ (srcIP.1 ++
        (dstIP.1 ++ (be16 sport ++ (be16 dport ++ more)))))))))))) :=
    ⟨_, by rw [hf]; simp [frameOf, ethHeader, ipHeader, ipFront, udpFront, hbytes]; rfl⟩
  rw [hparts]
  -- each field is cut out behind the parts before it
  refine ⟨?_, ?_, ?_, ?_, ?_, ?_, ?_, ?_, ?_⟩ <;>
    simp [List.slice, List.drop_append, List.drop_of_length_le, List.take_append]

/-- The checksum of a frame covers its segment, with the pseudo-header of its addresses. -/
lemma coveredByUdp_frameOf :
    coveredByUdp (frameOf dstMac srcMac srcIP dstIP sport dport payload ipCsum csum rest)
      (42 + payload.length) = segment srcIP dstIP sport dport payload csum := by
  obtain ⟨-, -, -, -, -, hsrc, hdst, -⟩ := slices_frameOf
    (rfl : frameOf dstMac srcMac srcIP dstIP sport dport payload ipCsum csum rest = _)
  rw [coveredByUdp, ← List.slice_append_slice _ (show 26 ≤ 30 by omega) (show 30 ≤ 34 by omega),
    hsrc, hdst, slice_udpLength, slice_udp]
  rfl

lemma framed_frameOf (h : payload.length ≤ 558) :
    Framed (((42 + payload.length : ℕ) : ℤ), frameOf dstMac srcMac srcIP dstIP sport dport
      payload (ipCsumOf srcIP dstIP payload) csum rest) payload := by
  refine ⟨rfl, slice_payload, ?_, ?_, ?_⟩
  · rw [slice_ipLength, decode_be16]
    exact (uint16OfInt_natCast (n := 20 + (8 + payload.length)) (by omega)).trans (by omega)
  · rw [slice_udpLength, decode_be16]
    exact uint16OfInt_natCast (n := 8 + payload.length) (by omega)
  · rw [slice_ip]
    exact ipCsum_verifies

/-- The frame that is built for a payload, without what was in the buffer behind it. -/
def udpFrame (dstMac srcMac : ByteArrayN 6) (srcIP dstIP : ByteArrayN 4) (sport dport : UInt16)
    (payload : Bytes) : Bytes :=
  frameOf dstMac srcMac srcIP dstIP sport dport payload (ipCsumOf srcIP dstIP payload)
    (udpCsumOf srcIP dstIP sport dport payload) []

lemma length_udpFrame : (udpFrame dstMac srcMac srcIP dstIP sport dport payload).length =
    42 + payload.length := by
  simp [udpFrame, frameOf]
  omega

lemma frameOf_eq_udpFrame : frameOf dstMac srcMac srcIP dstIP sport dport payload
    (ipCsumOf srcIP dstIP payload) (udpCsumOf srcIP dstIP sport dport payload) rest =
      udpFrame dstMac srcMac srcIP dstIP sport dport payload ++ rest := by
  simp [udpFrame, frameOf]

/-- **A receiver reads the datagram**, if there is a checksum. -/
lemma readUdp_udpFrame (h : payload.length ≤ 512) :
    readUdp (udpFrame dstMac srcMac srcIP dstIP sport dport payload) =
      some ⟨dstMac.1, srcMac.1, srcIP.1, dstIP.1, sport.toNat, dport.toNat, payload⟩ := by
  have hlen := @length_udpFrame dstMac srcMac srcIP dstIP sport dport payload
  obtain ⟨hne, hudp⟩ := @udpCsum_verifies srcIP dstIP sport dport payload h
  obtain ⟨-, hpayload, hip, hudpLen, hipCsum⟩ := @framed_frameOf dstMac srcMac srcIP dstIP sport
    dport payload (udpCsumOf srcIP dstIP sport dport payload) [] (by omega)
  have hcsum : BigEndian.decode ((udpFrame dstMac srcMac srcIP dstIP sport dport payload).slice
      40 42) ≠ 0 := by
    rw [udpFrame, slice_udpCsum, decode_be16]
    exact fun h0 => hne (UInt16.toNat_inj.mp h0)
  have hcovered := @coveredByUdp_frameOf dstMac srcMac srcIP dstIP sport dport payload
    (ipCsumOf srcIP dstIP payload) (udpCsumOf srcIP dstIP sport dport payload) []
  simp only at hpayload hip hudpLen hipCsum
  rw [← udpFrame, ← hlen] at hcovered
  rw [← udpFrame] at hpayload hip hudpLen hipCsum
  generalize hf : udpFrame dstMac srcMac srcIP dstIP sport dport payload = f at *
  obtain ⟨hdst, hsrc, htype, hversion, hproto, hsrcIP, hdstIP, hsport, hdport⟩ :=
    slices_frameOf hf.symm
  have hdrop : f.drop 42 = payload := by
    rwa [← hlen, List.slice, List.take_of_length_le (by simp)] at hpayload
  rw [readUdp, if_pos ⟨htype, hversion, hproto, by omega, by omega, hipCsum, hcsum,
    by rw [hcovered]; exact hudp⟩, hdst, hsrc, hsrcIP, hdstIP, hsport, hdport, decode_be16,
    decode_be16, hdrop]

/-- Without a checksum the receiver reads nothing. -/
lemma readUdp_of_long (h : 512 < payload.length) :
    readUdp (udpFrame dstMac srcMac srcIP dstIP sport dport payload) = none := by
  rw [readUdp, if_neg]
  rintro ⟨-, -, -, -, -, -, hcsum, -⟩
  refine hcsum ?_
  rw [udpFrame, slice_udpCsum, decode_be16, udpCsumOf, if_neg (by omega)]
  rfl

/-- A frame with a payload for which there is a checksum is well-formed. -/
lemma wellFormed_frameOf (h : payload.length ≤ 512) (rest : Bytes) :
    WellFormed (((42 + payload.length : ℕ) : ℤ), frameOf dstMac srcMac srcIP dstIP sport dport
      payload (ipCsumOf srcIP dstIP payload) (udpCsumOf srcIP dstIP sport dport payload) rest)
      ⟨dstMac.1, srcMac.1, srcIP.1, dstIP.1, sport.toNat, dport.toNat, payload⟩ := by
  obtain ⟨hne, hudp⟩ := @udpCsum_verifies srcIP dstIP sport dport payload h
  refine ⟨framed_frameOf (by omega), ?_, ?_, ?_⟩
  · rw [slice_udpCsum, decode_be16]
    exact fun h0 => hne (UInt16.toNat_inj.mp h0)
  · rw [coveredByUdp_frameOf]
    exact hudp
  · rw [Int.toNat_natCast, frameOf_eq_udpFrame, List.take_left' length_udpFrame]
    exact readUdp_udpFrame h

/-! ## The result -/

/-- **Where the UDP frames are well-formed.**  For all addresses and ports and every payload for
which there is room in a frame: the frame that `rl_build_udp_frame` builds has the length that is
returned, carries the payload behind its 42 bytes of headers, has the right lengths in its IP and
UDP headers and an IP header whose checksum verifies.  The UDP checksum is there and verifies, such
that a receiver which checks both reads the datagram with these addresses and ports, exactly if the
payload has at most 512 bytes; a longer one is dropped by this receiver.  Nothing is written outside
a buffer with room for the frame. -/
theorem udp_frames_well_formed (srcMac dstMac : ByteArrayN 6) (srcIP dstIP : ByteArrayN 4)
    (srcPort dstPort : UInt16) (payload frame : Bytes) (hfits : payload.length ≤ 558)
    (hframe : 42 + payload.length ≤ frame.length) :
    let r := buildUdpFrame srcMac dstMac srcIP dstIP srcPort dstPort payload payload.length frame
    Framed r payload ∧
    (WellFormed r ⟨dstMac.1, srcMac.1, srcIP.1, dstIP.1, srcPort.toNat, dstPort.toNat, payload⟩ ↔
      payload.length ≤ 512) ∧
    (512 < payload.length → readUdp (r.2.take r.1.toNat) = none) ∧
    r.2.length = frame.length := by
  intro r
  have hr : r = _ := udpIpEth_eq hfits
  rw [hr]
  refine ⟨framed_frameOf hfits, ⟨fun h => ?_, fun h => wellFormed_frameOf h _⟩, fun hlong => ?_, ?_⟩
  · by_contra hlong
    -- the field has stayed zero
    refine h.udp_csum_ne_zero ?_
    rw [slice_udpCsum, decode_be16, udpCsumOf, if_neg hlong]
    rfl
  · rw [Int.toNat_natCast, frameOf_eq_udpFrame, List.take_left' length_udpFrame]
    exact readUdp_of_long hlong
  · simp [frameOf]
    omega

section Sample

def sampleMac : ByteArrayN 6 := ⟨[2, 0, 0, 0, 0, 1], rfl⟩
def sampleIP : ByteArrayN 4 := ⟨[192, 168, 42, 1], rfl⟩

/-- A frame with a short payload is well-formed. -/
theorem udp_frames_well_formed_short :
    WellFormed (buildUdpFrame sampleMac sampleMac sampleIP sampleIP 40000 51820 [1, 2, 3] 3
      (List.replicate 600 0))
      ⟨sampleMac.1, sampleMac.1, sampleIP.1, sampleIP.1, 40000, 51820, [1, 2, 3]⟩ :=
  (udp_frames_well_formed sampleMac sampleMac sampleIP sampleIP 40000 51820 [1, 2, 3]
    (List.replicate 600 0) (by decide) (by rw [List.length_replicate]; decide)).2.1.mpr (by decide)

/-- **A payload of 513 bytes is sent without a checksum**: there is room for it in the frame, but
not in the scratch buffer. -/
theorem long_payload_without_csum :
    (buildUdpFrame sampleMac sampleMac sampleIP sampleIP 40000 51820 (List.replicate 513 7) 513
      (List.replicate 600 0)).1 = 555 ∧
    BigEndian.decode ((buildUdpFrame sampleMac sampleMac sampleIP sampleIP 40000 51820
      (List.replicate 513 7) 513 (List.replicate 600 0)).2.slice 40 42) = 0 := by
  have hlen : (List.replicate 513 (7 : UInt8)).length = 513 := List.length_replicate
  have hbuilt := @udpIpEth_eq sampleMac sampleMac sampleIP sampleIP 40000 51820
    (List.replicate 513 7) (List.replicate 600 0) (by rw [hlen]; decide)
  rw [hlen] at hbuilt
  have hframe : buildUdpFrame sampleMac sampleMac sampleIP sampleIP 40000 51820
      (List.replicate 513 7) 513 (List.replicate 600 0) = _ := hbuilt
  rw [hframe]
  refine ⟨by norm_num, ?_⟩
  rw [slice_udpCsum, decode_be16, udpCsumOf, if_neg (by rw [hlen]; decide)]
  rfl

end Sample

end

end Rndis
end Gemina
