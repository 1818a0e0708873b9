/-
# The probe, in two languages

The spike that drives a phone over USB builds the probe datagram in C (`rl_build_probe` of
`rndis_lib.c`); the gateway decodes it with the Go codec of `internal/protocol`.  Both encoders
write the same bytes, and the decoder accepts exactly what the Go encoder produces.
-/
import Gemina.Probe
import Gemina.Lib.Buffer

namespace Gemina
namespace Rndis

open Buffer (write)

/-- `CVP_PROBE_SIZE`. -/
def probeSize : ℕ := 30

/-- `rl_build_probe`, into a buffer of at least `probeSize` bytes. -/
def buildProbe (session : SessionID) (number : UInt64) (path : UInt8) (out : Bytes) : Bytes :=
  let out := write out 0 [67] -- 'C'
  let out := write out 1 [86] -- 'V'
  let out := write out 2 [80] -- 'P'
  let out := write out 3 [49] -- '1'
  let out := write out 4 [1]
  let out := write out 5 [path]
  let out := write out 6 session.1
  -- the number, most significant byte first
  (List.range 8).foldl
    (fun out i => write out (22 + i) [(number >>> UInt64.ofNat (56 - 8 * i)).toUInt8]) out

/-! ## The number -/

/-- Shifting by whole bytes and cutting gives one byte of a number. -/
lemma shiftRight_toUInt8 (n : UInt64) {k : ℕ} (hk : k < 8) :
    (n >>> UInt64.ofNat (8 * k)).toUInt8 = UInt8.ofNat (n.toNat / 256 ^ k) := by
  rw [← UInt8.toNat_inj, UInt64.toNat_toUInt8, UInt64.toNat_shiftRight, UInt64.toNat_ofNat',
    UInt8.toNat_ofNat', Nat.shiftRight_eq_div_pow, Nat.mod_eq_of_lt (by omega : 8 * k < 2 ^ 64),
    Nat.mod_eq_of_lt (by omega : 8 * k < 64), pow_mul, show (2 : ℕ) ^ 8 = 256 from rfl]

/-- The loop of shifts writes what `PutUint64` writes. -/
lemma shifts_eq_putUint64 (n : UInt64) :
    ((List.range 8).map fun i => (n >>> UInt64.ofNat (56 - 8 * i)).toUInt8) = putUint64 n := by
  have hbyte : ∀ i < 8, (n >>> UInt64.ofNat (56 - 8 * i)).toUInt8
      = UInt8.ofNat (n.toNat / 256 ^ (7 - i)) := by
    intro i hi
    rw [← shiftRight_toUInt8 n (by omega), Nat.mul_sub]
  rw [List.map_congr_left fun i hi => hbyte i (List.mem_range.mp hi)]
  rfl

/-! ## The encoders -/

/-- The bytes of a probe. -/
def wireBytes (p : ProbePacket) : Bytes :=
  probeMagic ++ [probeVersion] ++ [p.path] ++ p.id.session.1 ++ putUint64 p.id.number

lemma length_wireBytes (p : ProbePacket) : (wireBytes p).length = probeSize := by
  simp [wireBytes, probeMagic, sessionIDSize, probeSize]

/-- **The C encoder writes the bytes of the probe**, and nothing behind them. -/
lemma buildProbe_eq (id : PacketID) (path : UInt8) (out : Bytes) :
    buildProbe id.session id.number path out = wireBytes ⟨id, path⟩ ++ out.drop probeSize := by
  have hsession : ([67, 86, 80, 49, 1, path] ++ id.session.1).length = 22 := by
    simp [sessionIDSize]
  have hhead : write (write (write (write (write (write (write out 0 [67]) 1 [86]) 2 [80]) 3 [49])
      4 [1]) 5 [path]) 6 id.session.1
      = ([67, 86, 80, 49, 1, path] ++ id.session.1) ++ out.drop 22 := by
    simp [write, sessionIDSize]
  rw [buildProbe]
  simp only [hhead]
  rw [Buffer.foldl_write _ hsession, shifts_eq_putUint64]
  simp [wireBytes, probeMagic, probeVersion, probeSize]

/-- The Go encoder produces the bytes of the probe, if its identity is valid. -/
lemma marshalBinary_ok_iff {p : ProbePacket} {b : Bytes} :
    p.marshalBinary = .ok b ↔ p.id.valid = true ∧ b = wireBytes p := by
  rw [ProbePacket.marshalBinary, wireBytes]
  by_cases h : p.id.valid = true
  · simp [h, eq_comm]
  · simp [h]

/-! ## The decoder -/

/-- The bytes of a probe are decoded to it, whatever follows. -/
lemma unmarshalProbe_wireBytes {p : ProbePacket} (h : p.id.valid = true) (rest : Bytes) :
    unmarshalProbe (wireBytes p ++ rest) = .ok p := by
  have hlen : ¬ (wireBytes p ++ rest).length < probeWireSize := by
    simp [length_wireBytes, probeSize, probeWireSize, probeSessionOffset, sessionIDSize]
  have hbytes : wireBytes p ++ rest = 67 :: 86 :: 80 :: 49 :: 1 :: p.path ::
      (p.id.session.1 ++ (putUint64 p.id.number ++ rest)) := by
    simp [wireBytes, probeMagic, probeVersion]
  have hsession : (wireBytes p ++ rest).slice probeSessionOffset
      (probeSessionOffset + sessionIDSize) = p.id.session.1 := by
    rw [hbytes]
    simp [List.slice, probeSessionOffset, List.take_left' p.id.session.2]
  have hnumber : uint64 ((wireBytes p ++ rest).drop (probeSessionOffset + sessionIDSize))
      = p.id.number := by
    rw [hbytes, show probeSessionOffset + sessionIDSize = sessionIDSize + 6 from rfl]
    simp only [List.drop_succ_cons]
    rw [List.drop_left' p.id.session.2, uint64_putUint64]
  have hpath : (wireBytes p ++ rest).getD 5 0 = p.path := by
    rw [hbytes]
    rfl
  rw [unmarshalProbe, if_neg hlen, if_neg (by rw [hbytes]; simp [List.slice, probeMagic]),
    if_neg (by rw [hbytes]; simp [probeVersion])]
  simp only [hsession, hnumber, hpath, ByteArrayN.copy_self]
  rw [if_neg (by simp [h])]

/-- What is decoded begins with the bytes of the probe. -/
lemma unmarshalProbe_ok {b : Bytes} {p : ProbePacket} (h : unmarshalProbe b = .ok p) :
    p.id.valid = true ∧ b.take probeSize = wireBytes p := by
  simp only [unmarshalProbe] at h
  split at h
  · cases h
  rename_i hlen
  split at h
  · cases h
  rename_i hmagic
  split at h
  · cases h
  rename_i hversion
  split at h
  · cases h
  rename_i hvalid
  obtain rfl := Except.ok.inj h
  refine ⟨by simpa using hvalid, ?_⟩
  simp only [probeWireSize, probeSessionOffset, sessionIDSize, not_lt] at hlen
  -- the thirty bytes are the slices that the decoder reads
  have hslices : b.take probeSize = b.slice 0 4 ++ b.slice 4 (4 + 1) ++ b.slice 5 (5 + 1)
      ++ b.slice 6 22 ++ b.slice 22 30 := by
    rw [List.slice_append_slice b (by omega) (by omega), List.slice_append_slice b (by omega)
      (by omega), List.slice_append_slice b (by omega) (by omega), List.slice_append_slice b
      (by omega) (by omega), List.slice_zero]
    rfl
  have hnumber : b.slice 22 30 = putUint64 (uint64 (b.drop 22)) := by
    rw [putUint64_uint64_take (by rw [List.length_drop]; omega)]
    rfl
  have hsession : b.slice 6 22 = (ByteArrayN.copy sessionIDSize (b.slice 6 22)).1 := by
    refine (ByteArrayN.copy_val ?_).symm
    rw [List.length_slice (by omega)]
    rfl
  rw [hslices, List.slice_succ 0 (by omega), List.slice_succ 0 (by omega), not_not.mp hmagic,
    not_not.mp hversion, hnumber, hsession]
  rfl

lemma unmarshalProbe_ok_iff {b : Bytes} {p : ProbePacket} :
    unmarshalProbe b = .ok p ↔ p.marshalBinary = .ok (b.take probeSize) := by
  rw [marshalBinary_ok_iff]
  constructor
  · exact unmarshalProbe_ok
  · rintro ⟨hvalid, hbytes⟩
    rw [← List.take_append_drop probeSize b, hbytes]
    exact unmarshalProbe_wireBytes hvalid _

/-! ## The result -/

/-- **The probe codecs agree.**  For every session id that is not zero, every number from one on,
every path and every buffer with room for a probe: `rl_build_probe` writes exactly the bytes that
`MarshalBinary` returns and leaves the rest of the buffer alone, and `UnmarshalProbe` of these
bytes, whatever follows them, returns the session, the number and the path.  Conversely,
`UnmarshalProbe` accepts a byte string as a packet exactly if its first thirty bytes are what
`MarshalBinary` returns for the packet. -/
theorem probe_codecs_agree :
    (∀ (session : SessionID) (number : PacketNumber) (path : UInt8) (out : Bytes),
      session.isZero = false → 1 ≤ number → probeSize ≤ out.length →
      ∃ wire, ProbePacket.marshalBinary ⟨⟨session, number⟩, path⟩ = .ok wire ∧
        buildProbe session number path out = wire ++ out.drop probeSize ∧
        wire.length = probeSize ∧
        ∀ rest, unmarshalProbe (wire ++ rest) = .ok ⟨⟨session, number⟩, path⟩) ∧
    ∀ (b : Bytes) (p : ProbePacket),
      unmarshalProbe b = .ok p ↔ p.marshalBinary = .ok (b.take probeSize) := by
  refine ⟨?_, fun b p => unmarshalProbe_ok_iff⟩
  intro session number path out hsession hnumber _
  have hvalid : PacketID.valid ⟨session, number⟩ = true := by
    have hpos : 0 < number := UInt64.lt_of_lt_of_le (by decide) hnumber
    simp [PacketID.valid, hsession, hpos]
  refine ⟨wireBytes ⟨⟨session, number⟩, path⟩, marshalBinary_ok_iff.mpr ⟨hvalid, rfl⟩,
    buildProbe_eq ⟨session, number⟩ path out, length_wireBytes _, ?_⟩
  exact fun rest => unmarshalProbe_wireBytes hvalid rest

/-- A probe in a buffer of 32 bytes, of which the last two are left alone. -/
theorem probe_codecs_agree_fifth :
    ∃ wire, ProbePacket.marshalBinary ⟨⟨ByteArrayN.copy sessionIDSize [1, 2, 3], 5⟩, 2⟩ = .ok wire ∧
      buildProbe (ByteArrayN.copy sessionIDSize [1, 2, 3]) 5 2 (List.replicate 32 9)
        = wire ++ [9, 9] ∧
      unmarshalProbe (wire ++ [9, 9])
        = .ok ⟨⟨ByteArrayN.copy sessionIDSize [1, 2, 3], 5⟩, 2⟩ := by
  obtain ⟨wire, hmarshal, hbuild, -, hunmarshal⟩ := probe_codecs_agree.1
    (ByteArrayN.copy sessionIDSize [1, 2, 3]) 5 2 (List.replicate 32 9) (by decide) (by decide)
    (by decide)
  exact ⟨wire, hmarshal, hbuild, hunmarshal [9, 9]⟩

end Rndis
end Gemina
