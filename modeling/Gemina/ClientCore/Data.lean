/-
# The data-plane frame

The frame header of a `CVD1` datagram and the nonce of its encryption (`data.go` and
`crypto.go` of `pkg/clientcore`).  The header is cleartext; it carries the packet identity
and a direction bit, and it is the additional data that the cipher authenticates.

The cipher is AES-256-GCM of the Go standard library.  It is a parameter of the model.
-/
import Gemina.Lib.Aead
import Gemina.Lib.BigEndian
import Gemina.Lib.Slice
import Gemina.Protocol

namespace Gemina

/-- `binary.BigEndian.PutUint64`. -/
def putUint64 (n : UInt64) : Bytes := BigEndian.encode 8 n.toNat

/-- `binary.BigEndian.Uint64`, of the first eight bytes. -/
def uint64 (b : Bytes) : UInt64 := UInt64.ofNat (BigEndian.decode (b.take 8))

@[simp] lemma length_putUint64 (n : UInt64) : (putUint64 n).length = 8 :=
  BigEndian.length_encode _ _

@[simp] lemma uint64_putUint64 (n : UInt64) (rest : Bytes) : uint64 (putUint64 n ++ rest) = n := by
  have hlt : n.toNat < 256 ^ 8 := by
    have := n.toNat_lt
    omega
  rw [uint64, List.take_left' (length_putUint64 n), putUint64, BigEndian.decode_encode_of_lt hlt,
    UInt64.ofNat_toNat]

lemma putUint64_uint64 {b : Bytes} (h : b.length = 8) : putUint64 (uint64 b) = b := by
  have hlt : BigEndian.decode b < 2 ^ 64 := by
    have := BigEndian.decode_lt b
    rw [h] at this
    omega
  rw [putUint64, uint64, List.take_of_length_le h.le, UInt64.toNat_ofNat', Nat.mod_eq_of_lt hlt,
    ← h, BigEndian.encode_decode]

lemma putUint64_uint64_take {b : Bytes} (h : 8 ≤ b.length) : putUint64 (uint64 b) = b.take 8 := by
  have htake : uint64 b = uint64 (b.take 8) := by
    rw [uint64, uint64, List.take_take, min_self]
  rw [htake, putUint64_uint64 (by simpa using h)]

lemma putUint64_inj {m n : UInt64} (h : putUint64 m = putUint64 n) : m = n := by
  rw [← uint64_putUint64 m [], h, uint64_putUint64]

/-! ## Directions, keys and nonces -/

/-- The authenticated cipher of the data plane, on byte strings. -/
abbrev Cipher : Type := Aead Bytes Bytes Bytes Bytes Bytes

/-- `keySize`: the length of an AES-256 key. -/
def keySize : ℕ := 32

/-- The length of the GCM tag, by which a ciphertext is longer than its plaintext. -/
def tagSize : ℕ := 16

/-- `dirInitiator`: client to gateway. -/
def dirInitiator : UInt8 := 0

/-- `dirResponder`: gateway to client. -/
def dirResponder : UInt8 := 1

/-- `nonce`: the direction, three zero bytes, and the packet number. -/
def nonce (dir : UInt8) (number : PacketNumber) : Bytes := [dir, 0, 0, 0] ++ putUint64 number

lemma nonce_inj {d d' : UInt8} {n n' : PacketNumber} (h : nonce d n = nonce d' n') :
    d = d' ∧ n = n' := by
  simp only [nonce, List.cons_append, List.nil_append, List.cons.injEq, true_and] at h
  exact ⟨h.1, putUint64_inj h.2⟩

/-- A stand-in for the cipher that can be evaluated: the ciphertext is the plaintext followed
by a tag that sums up the key, the nonce, the cleartext and the plaintext. -/
def checksumCipher : Cipher where
  aeadSeal key nonce plaintext aad :=
    plaintext ++ List.replicate tagSize (key ++ nonce ++ plaintext ++ aad).sum
  aeadOpen key nonce ciphertext aad :=
    let plaintext := ciphertext.take (ciphertext.length - tagSize)
    let tag := ciphertext.drop (ciphertext.length - tagSize)
    if tag = List.replicate tagSize (key ++ nonce ++ plaintext ++ aad).sum then some plaintext
    else none

lemma checksumCipher_correct : checksumCipher.Correct := by
  intro key nonce plaintext aad
  simp [checksumCipher]

/-! ## The frame header -/

/-- `dataHeaderSize`. -/
def dataHeaderSize : ℕ := 30

/-- `maxPayload`: the bound on the plaintext of one packet. -/
def maxPayload : ℕ := 1600

/-- `dataVersion`. -/
def dataVersion : UInt8 := 1

/-- `flagDirection`. -/
def flagDirection : UInt8 := 1

/-- `dataMagic`: `CVD1`. -/
def dataMagic : Bytes := [67, 86, 68, 49]

def errShortData : GoError := ⟨"data datagram shorter than header"⟩
def errBadMagic : GoError := ⟨"data datagram has wrong magic"⟩
def errBadVersion : GoError := ⟨"data datagram has unsupported version"⟩
def errBadIdentity : GoError := ⟨"data datagram carries an invalid packet identity"⟩
def errBadDirection : GoError := ⟨"data datagram has the wrong direction for this endpoint"⟩
def errOversize : GoError := ⟨"payload exceeds maximum size"⟩
def errKeySize : GoError := ⟨"session key must be 32 bytes"⟩

/-- The error of `AEAD.Open` in the Go standard library. -/
def errOpen : GoError := ⟨"cipher: message authentication failed"⟩

/-- `frameHeader`. -/
def frameHeader (id : PacketID) (dir : UInt8) : Bytes :=
  dataMagic ++ [dataVersion] ++ [if dir = dirResponder then flagDirection else 0]
    ++ id.session.1 ++ putUint64 id.number

/-- The datagram with this identity and payload that a holder of the key makes. -/
def dataFrame (E : Cipher) (key : Bytes) (dir : UInt8) (id : PacketID) (payload : Bytes) : Bytes :=
  frameHeader id dir ++ E.aeadSeal key (nonce dir id.number) payload (frameHeader id dir)

/-- `parseHeader`: the identity, the direction and the offset of the payload. -/
def parseHeader (b : Bytes) : Except GoError (PacketID × UInt8 × ℕ) :=
  if b.length < dataHeaderSize then .error errShortData
  else if b.slice 0 4 ≠ dataMagic then .error errBadMagic
  else if b.getD 4 0 ≠ dataVersion then .error errBadVersion
  else
    let dir := if b.getD 5 0 &&& flagDirection ≠ 0 then dirResponder else dirInitiator
    let session := ByteArrayN.copy sessionIDSize (b.slice 6 (6 + sessionIDSize))
    let number := uint64 (b.drop (6 + sessionIDSize))
    let id : PacketID := ⟨session, number⟩
    if !id.valid then .error errBadIdentity
    else .ok (id, dir, dataHeaderSize)

/-- `SessionIDFromDatagram`. -/
def sessionIDFromDatagram (b : Bytes) : Except GoError SessionID :=
  match parseHeader b with
  | .error e => .error e
  | .ok (id, _, _) => .ok id.session

@[simp] lemma length_frameHeader (id : PacketID) (dir : UInt8) :
    (frameHeader id dir).length = dataHeaderSize := by
  simp [frameHeader, dataMagic, dataHeaderSize, sessionIDSize]

/-- A frame parses to its identity and to the direction it was framed for, if the identity is
valid. -/
lemma parseHeader_frameHeader_eq (id : PacketID) {dir : UInt8}
    (hdir : dir = dirInitiator ∨ dir = dirResponder) (payload : Bytes) :
    parseHeader (frameHeader id dir ++ payload) =
      if !id.valid then .error errBadIdentity else .ok (id, dir, dataHeaderSize) := by
  have hlen : ¬ (frameHeader id dir ++ payload).length < dataHeaderSize := by
    simp [List.length_append]
  have hbytes : frameHeader id dir ++ payload = 67 :: 86 :: 68 :: 49 :: 1 ::
      (if dir = dirResponder then flagDirection else 0) ::
        (id.session.1 ++ (putUint64 id.number ++ payload)) := by
    simp [frameHeader, dataMagic, dataVersion]
  have hsession : (frameHeader id dir ++ payload).slice 6 (6 + sessionIDSize) = id.session.1 := by
    rw [hbytes]
    simp [List.slice, List.take_left' id.session.2]
  have hnumber : uint64 ((frameHeader id dir ++ payload).drop (6 + sessionIDSize)) = id.number := by
    rw [hbytes, show 6 + sessionIDSize = sessionIDSize + 6 from rfl]
    simp only [List.drop_succ_cons]
    rw [List.drop_left' id.session.2, uint64_putUint64]
  have hflag : (if (frameHeader id dir ++ payload).getD 5 0 &&& flagDirection ≠ 0
      then dirResponder else dirInitiator) = dir := by
    rw [hbytes]
    simp only [List.getD_cons_succ, List.getD_cons_zero]
    rcases hdir with rfl | rfl <;> decide
  unfold parseHeader
  rw [if_neg hlen, if_neg (by rw [hbytes]; simp [List.slice, dataMagic]),
    if_neg (by rw [hbytes]; simp [dataVersion])]
  simp only [hsession, hnumber, hflag, ByteArrayN.copy_self]

lemma parseHeader_frameHeader {id : PacketID} (hid : id.valid = true) {dir : UInt8}
    (hdir : dir = dirInitiator ∨ dir = dirResponder) (payload : Bytes) :
    parseHeader (frameHeader id dir ++ payload) = .ok (id, dir, dataHeaderSize) := by
  simp [parseHeader_frameHeader_eq id hdir, hid]

/-- What a successful parse says about the datagram. -/
lemma parseHeader_ok {b : Bytes} {id : PacketID} {dir : UInt8} {off : ℕ}
    (h : parseHeader b = .ok (id, dir, off)) :
    id.valid = true ∧ off = dataHeaderSize ∧ dataHeaderSize ≤ b.length ∧
      (dir = dirInitiator ∨ dir = dirResponder) := by
  unfold parseHeader at h
  split at h
  · cases h
  split at h
  · cases h
  split at h
  · cases h
  simp only at h
  split at h
  · cases h
  rename_i hlen _ _ hvalid
  simp only [Except.ok.injEq, Prod.mk.injEq] at h
  obtain ⟨rfl, rfl, rfl⟩ := h
  refine ⟨by simpa using hvalid, rfl, by omega, ?_⟩
  split
  · exact Or.inr rfl
  · exact Or.inl rfl

end Gemina
