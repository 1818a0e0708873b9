/-
# The wire formats together

Five formats share the gateway's port: data frames, the two handshake messages, pings, and the
probes of the first stage.  The handshake messages are read back exactly as they were written,
and no byte string is accepted by two of the decoders.
-/
import Gemina.Probe
import Gemina.ClientCore.Classify

namespace Gemina

/-- The decoders of datagrams. -/
inductive WireFormat where
  | clientHello
  | serverHello
  | data
  | ping
  | probe
deriving DecidableEq

namespace WireFormat

/-- The decoder of the format returns no error. -/
def Accepts : WireFormat → Bytes → Prop
  | clientHello, b => ∃ h, decodeClientHello b = .ok h
  | serverHello, b => ∃ h, decodeServerHello b = .ok h
  | data, b => ∃ r, parseHeader b = .ok r
  | ping, b => ∃ r, decodePing b = .ok r
  | probe, b => ∃ p, unmarshalProbe b = .ok p

/-- The kind under which `ClassifyDatagram` reports a datagram of the format.  It does not know
probes. -/
def kind : WireFormat → DatagramKind
  | clientHello => .clientHello
  | serverHello => .serverHello
  | data => .data
  | ping => .ping
  | probe => .unknown

lemma kind_inj {f f' : WireFormat} (h : f.kind = f'.kind) : f = f' := by
  cases f <;> cases f' <;> first | rfl | cases h

end WireFormat

/-! ## Classification agrees with the decoders -/

lemma classifyDatagram_of_decodePing {b : Bytes} {r : Bool × UInt64}
    (h : decodePing b = .ok r) : classifyDatagram b = .ping := by
  simp only [decodePing] at h
  split at h
  · cases h
  rename_i hhead
  rw [not_or, not_not, not_not, pingSize] at hhead
  obtain ⟨hlen, hmagic⟩ := hhead
  rw [classifyDatagram, if_neg (by omega), hmagic, if_neg (by decide), if_pos rfl]

lemma classifyDatagram_of_unmarshalProbe {b : Bytes} {p : ProbePacket}
    (h : unmarshalProbe b = .ok p) : classifyDatagram b = .unknown := by
  obtain ⟨hlen, hmagic⟩ := unmarshalProbe_magic h
  simp only [probeWireSize, probeSessionOffset, sessionIDSize] at hlen
  rw [classifyDatagram, if_neg (by omega), hmagic, if_neg (by decide), if_neg (by decide),
    if_neg (by decide)]

/-- **A datagram that a decoder accepts is classified as its format.** -/
lemma WireFormat.Accepts.classifyDatagram {f : WireFormat} {b : Bytes} (h : f.Accepts b) :
    classifyDatagram b = f.kind := by
  cases f with
  | clientHello =>
    obtain ⟨hello, hdec⟩ := h
    exact classifyDatagram_of_decodeClientHello hdec
  | serverHello =>
    obtain ⟨hello, hdec⟩ := h
    exact classifyDatagram_of_decodeServerHello hdec
  | data =>
    obtain ⟨r, hparse⟩ := h
    exact classifyDatagram_of_parseHeader hparse
  | ping =>
    obtain ⟨r, hdec⟩ := h
    exact classifyDatagram_of_decodePing hdec
  | probe =>
    obtain ⟨p, hdec⟩ := h
    exact classifyDatagram_of_unmarshalProbe hdec

/-! ## What can be encoded -/

lemma encodeClientHello_ok_iff {h : ClientHello} :
    (∃ b, encodeClientHello h = .ok b) ↔
      h.ephemeralPub.length = x25519PubSize ∧ h.token.length ≤ maxTokenLen := by
  rw [encodeClientHello]
  by_cases heph : h.ephemeralPub.length = x25519PubSize
  · by_cases htok : h.token.length ≤ maxTokenLen
    · simp [heph, htok, not_lt.mpr htok]
    · simp [heph, htok, not_le.mp htok]
  · simp [heph]

lemma encodeServerHello_ok_iff {h : ServerHello} :
    (∃ b, encodeServerHello h = .ok b) ↔
      h.ephemeralPub.length = x25519PubSize ∧ h.sig.length = signatureSize := by
  rw [encodeServerHello]
  by_cases heph : h.ephemeralPub.length = x25519PubSize
  · by_cases hsig : h.sig.length = signatureSize
    · simp [heph, hsig]
    · simp [heph, hsig]
  · simp [heph]

/-! ## The result -/

/-- **The handshake formats are bijections, and the five formats are disjoint.**  A byte string
decodes to the fields of a message exactly when it is the encoding of these fields, and every
id, timestamp, key and token of admissible size has an encoding.  At most one decoder accepts a
byte string, and `ClassifyDatagram` reports its kind, or that it is unknown for a probe. -/
theorem wire_formats :
    (∀ (b : Bytes) (id : SessionID) (timestamp : Int64) (ephemeralPub token : Bytes),
      decodeClientHello b = .ok ⟨id, timestamp, ephemeralPub, token⟩ ↔
        encodeClientHello ⟨id, timestamp, ephemeralPub, token⟩ = .ok b) ∧
    (∀ (id : SessionID) (timestamp : Int64) (ephemeralPub token : Bytes),
      (∃ b, encodeClientHello ⟨id, timestamp, ephemeralPub, token⟩ = .ok b) ↔
        ephemeralPub.length = 32 ∧ token.length ≤ 4096) ∧
    (∀ (b : Bytes) (id : SessionID) (ephemeralPub sig : Bytes)
        (assignedIPv4 : ByteArrayN assignedIPv4Size),
      decodeServerHello b = .ok ⟨id, ephemeralPub, sig, assignedIPv4⟩ ↔
        encodeServerHello ⟨id, ephemeralPub, sig, assignedIPv4⟩ = .ok b) ∧
    (∀ (id : SessionID) (ephemeralPub sig : Bytes) (assignedIPv4 : ByteArrayN assignedIPv4Size),
      (∃ b, encodeServerHello ⟨id, ephemeralPub, sig, assignedIPv4⟩ = .ok b) ↔
        ephemeralPub.length = 32 ∧ sig.length = 64) ∧
    (∀ (b : Bytes) (f f' : WireFormat), f.Accepts b → f'.Accepts b → f = f') ∧
    (∀ (b : Bytes) (f : WireFormat), f.Accepts b → classifyDatagram b = f.kind) := by
  refine ⟨fun _ _ _ _ _ => decodeClientHello_ok_iff, fun _ _ _ _ => encodeClientHello_ok_iff,
    fun _ _ _ _ _ => decodeServerHello_ok_iff, fun _ _ _ _ => encodeServerHello_ok_iff, ?_,
    fun _ _ h => h.classifyDatagram⟩
  intro b f f' h h'
  exact WireFormat.kind_inj (h.classifyDatagram.symm.trans h'.classifyDatagram)

/-- The hello of a client is the only encoding of its fields, and no other decoder accepts it. -/
theorem wire_formats_hello :
    encodeClientHello ⟨sampleID, 0, List.replicate 32 2, []⟩ = .ok (helloFrom 1) ∧
    decodeClientHello (helloFrom 1) = .ok ⟨sampleID, 0, List.replicate 32 2, []⟩ ∧
    classifyDatagram (helloFrom 1) = .clientHello ∧
    ∀ f : WireFormat, f.Accepts (helloFrom 1) → f = .clientHello := by
  obtain ⟨hclient, -, -, -, hdisjoint, hkind⟩ := wire_formats
  have hencode : encodeClientHello ⟨sampleID, 0, List.replicate 32 2, []⟩ = .ok (helloFrom 1) := rfl
  have hdecode := (hclient _ _ _ _ _).mpr hencode
  have haccepts : WireFormat.clientHello.Accepts (helloFrom 1) := ⟨_, hdecode⟩
  exact ⟨hencode, hdecode, hkind _ _ haccepts, fun f hf => hdisjoint _ _ _ hf haccepts⟩

end Gemina
