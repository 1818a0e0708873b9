/-
# The probe datagram

The wire format of the first stage's probes (`probe.go` of `internal/protocol`): a packet
identity and the tag of the path that it was sent over, in a datagram of fixed size.
-/
import Gemina.ClientCore.Data

namespace Gemina

def probeVersion : UInt8 := 1
def probeSessionOffset : ℕ := 6
def probeWireSize : ℕ := probeSessionOffset + sessionIDSize + 8

/-- `probeMagic`: `CVP1`. -/
def probeMagic : Bytes := [67, 86, 80, 49]

def errShortProbe : GoError := ⟨"probe datagram shorter than wire size"⟩
def errProbeMagic : GoError := ⟨"probe datagram has wrong magic"⟩
def errUnsupportedVersion : GoError := ⟨"probe datagram has unsupported version"⟩
def errInvalidProbe : GoError := ⟨"probe carries an invalid packet identity"⟩

/-- `PathTag`.  Every byte is one; three of them have names. -/
abbrev PathTag : Type := UInt8

/-- `ProbePacket`. -/
structure ProbePacket where
  id : PacketID
  path : PathTag
deriving DecidableEq

/-- `ProbePacket.MarshalBinary`. -/
def ProbePacket.marshalBinary (p : ProbePacket) : Except GoError Bytes :=
  if !p.id.valid then .error errInvalidProbe
  else .ok (probeMagic ++ [probeVersion] ++ [p.path] ++ p.id.session.1 ++ putUint64 p.id.number)

/-- `UnmarshalProbe`. -/
def unmarshalProbe (b : Bytes) : Except GoError ProbePacket :=
  if b.length < probeWireSize then .error errShortProbe
  else if b.slice 0 4 ≠ probeMagic then .error errProbeMagic
  else if b.getD 4 0 ≠ probeVersion then .error errUnsupportedVersion
  else
    let session := ByteArrayN.copy sessionIDSize
      (b.slice probeSessionOffset (probeSessionOffset + sessionIDSize))
    let number := uint64 (b.drop (probeSessionOffset + sessionIDSize))
    let packet : ProbePacket := ⟨⟨session, number⟩, b.getD 5 0⟩
    if !packet.id.valid then .error errInvalidProbe
    else .ok packet

/-- What is decoded as a probe carries its magic. -/
lemma unmarshalProbe_magic {b : Bytes} {p : ProbePacket} (h : unmarshalProbe b = .ok p) :
    probeWireSize ≤ b.length ∧ b.slice 0 4 = probeMagic := by
  simp only [unmarshalProbe] at h
  split at h
  · cases h
  rename_i hlen
  split at h
  · cases h
  rename_i hmagic
  exact ⟨not_lt.mp hlen, not_not.mp hmagic⟩

end Gemina
