/-
# What fits into the receive buffer

Three limits decide whether a datagram reaches the gateway whole: the longest token of the
handshake codec, the longest payload of a session, and the buffer that `Serve` reads into.  UDP
drops what does not fit into the buffer.  Every data frame fits.  A hello fits if its token has
at most 1984 bytes; the codec allows 4096.
-/
import Gemina.Gateway.DataGateway
import Gemina.ClientCore.WireFormats

namespace Gemina

/-! ## Hellos -/

/-- What comes before the token in a hello. -/
def helloHead (h : ClientHello) : Bytes :=
  handshakeHeader msgClientHello h.id ++ putUint64 h.timestamp.toUInt64 ++ h.ephemeralPub
    ++ putUint16 h.token.length

lemma encodeClientHello_ok {h : ClientHello} {b : Bytes} (henc : encodeClientHello h = .ok b) :
    b = helloHead h ++ h.token ∧ (helloHead h).length = clientHelloFixed ∧
      h.token.length ≤ maxTokenLen := by
  obtain ⟨heph, htok⟩ := encodeClientHello_ok_iff.mp ⟨b, henc⟩
  rw [encodeClientHello, if_neg (not_not.mpr heph), if_neg (not_lt.mpr htok)] at henc
  cases henc
  refine ⟨rfl, ?_, htok⟩
  simp only [helloHead, List.length_append, length_handshakeHeader, length_putUint64, heph,
    length_putUint16, clientHelloFixed]

/-- The head of a hello says how long its token is. -/
lemma token_length_eq_of_helloHead {h h' : ClientHello} (htok : h.token.length ≤ maxTokenLen)
    (htok' : h'.token.length ≤ maxTokenLen) (hhead : helloHead h = helloHead h') :
    h.token.length = h'.token.length := by
  obtain ⟨-, hlen⟩ := List.append_inj' hhead (by simp)
  have heq := congrArg uint16 hlen
  rw [maxTokenLen] at htok htok'
  have hread := uint16_putUint16 (n := h.token.length) (by omega) []
  have hread' := uint16_putUint16 (n := h'.token.length) (by omega) []
  rw [List.append_nil] at hread hread'
  rwa [hread, hread'] at heq

/-- **A hello that was cut off is not decoded.** -/
lemma decodeClientHello_take {h : ClientHello} {b : Bytes} (henc : encodeClientHello h = .ok b)
    {n : ℕ} (hn : clientHelloFixed ≤ n) (hcut : n < b.length) (h' : ClientHello) :
    decodeClientHello (b.take n) ≠ .ok h' := by
  intro hdec
  obtain ⟨rfl, hlen, htok⟩ := encodeClientHello_ok henc
  obtain ⟨heq, hlen', htok'⟩ := encodeClientHello_ok (decodeClientHello_ok_iff.mp hdec)
  -- what is left has the same head, so it announces a token of the full length
  have hhead : helloHead h = helloHead h' := by
    have htake := congrArg (List.take clientHelloFixed) heq
    rwa [List.take_take, Nat.min_eq_left hn, List.take_left' hlen, List.take_left' hlen'] at htake
  have htoken := token_length_eq_of_helloHead htok htok' hhead
  have hlength := congrArg List.length heq
  rw [List.length_take, Nat.min_eq_left hcut.le, List.length_append, hlen', ← htoken, ← hlen,
    ← List.length_append] at hlength
  omega

/-- A hello is still recognised as one when it was cut off. -/
lemma classifyDatagram_take {h : ClientHello} {b : Bytes} (henc : encodeClientHello h = .ok b)
    {n : ℕ} (hn : clientHelloFixed ≤ n) : classifyDatagram (b.take n) = .clientHello := by
  obtain ⟨rfl, hlen, -⟩ := encodeClientHello_ok henc
  have hheader : handshakeHeader msgClientHello h.id ++ (putUint64 h.timestamp.toUInt64
      ++ h.ephemeralPub ++ putUint16 h.token.length) = helloHead h := by
    simp [helloHead]
  rw [List.take_append, List.take_of_length_le (by omega), ← hheader, List.append_assoc,
    classifyDatagram_handshakeHeader, if_pos rfl]

namespace DataGateway

/-- What `Serve` hands to `HandleDatagram`. -/
def Input.handed (i : Input) : Bytes := i.datagram.take bufSize

variable {C : Crypto} {T : TokenLib} {E : Cipher}

/-- A hello that cannot be decoded gets no answer. -/
lemma serve_undecodable (g : DataGateway) (i : Input)
    (hclass : classifyDatagram i.handed = .clientHello)
    (hdec : ∀ h, decodeClientHello i.handed ≠ .ok h) :
    (g.serve C T E i).1.reply = none ∧ (g.serve C T E i).1.record.admitted = false := by
  obtain ⟨e, herr⟩ : ∃ e, decodeClientHello i.handed = .error e := by
    rcases hd : decodeClientHello i.handed with e | h
    · exact ⟨e, rfl⟩
    · exact absurd hd (hdec h)
  have hhandle : ∃ g', g.handleDatagram C T E i.toAmbient i.handed
      = (none, { kind := .clientHello }, g') := by
    rcases hexit : g.exit with _ | r
    · exact ⟨_, by simp [handleDatagram, hclass, handleHandshake, admitHello, hexit,
        Admitter.handshake, Admitter.handshakeKey, herr]; rfl⟩
    · exact ⟨_, by simp [handleDatagram, hclass, handleHandshake, admitHello, hexit,
        Admitter.handshake, Admitter.handshakeKey, herr]; rfl⟩
  obtain ⟨g', hhandle⟩ := hhandle
  have hserve : g.serve C T E i = g'.forward i none { kind := .clientHello } := by
    have hhandle' : g.handleDatagram C T E i.toAmbient (i.datagram.take bufSize)
        = (none, { kind := .clientHello }, g') := hhandle
    simp only [serve, hhandle']
  rw [hserve, forward]
  rcases g'.exit with _ | r
  · exact ⟨rfl, rfl⟩
  · simp

/-! ## The result -/

/-- **What the gateway receives whole.**  A hello that `EncodeClientHello` makes is handed to
`HandleDatagram` as a `ClientHello` that decodes to its fields exactly if its token has at most
1984 bytes; with a longer token it is never answered.  Every frame that `Outbound` makes is
handed on whole, for a cipher whose tag has 16 bytes. -/
theorem received_whole (C : Crypto) (T : TokenLib) {E : Cipher}
    (hE : ∀ key n plaintext aad, (E.aeadSeal key n plaintext aad).length
      = plaintext.length + tagSize) :
    (∀ hello wire, encodeClientHello hello = .ok wire → ∀ i : Input, i.datagram = wire →
      ((classifyDatagram i.handed = .clientHello ∧ decodeClientHello i.handed = .ok hello) ↔
        hello.token.length ≤ 1984) ∧
      (1984 < hello.token.length → ∀ g : DataGateway,
        (g.serve C T E i).1.reply = none ∧ (g.serve C T E i).1.record.admitted = false)) ∧
    (∀ (session session' : Session) (payload frame : Bytes),
      session.outbound E payload = (.ok frame, session') →
        ∀ i : Input, i.datagram = frame → i.handed = frame) := by
  refine ⟨?_, ?_⟩
  · rintro hello wire henc i rfl
    obtain ⟨hwire, hhead, -⟩ := encodeClientHello_ok henc
    have hlength : i.datagram.length = 64 + hello.token.length := by
      rw [hwire, List.length_append, hhead]
      rfl
    have hfixed : clientHelloFixed ≤ bufSize := by decide
    have hbuf : bufSize = 2048 := rfl
    have hclass : classifyDatagram i.handed = .clientHello := classifyDatagram_take henc hfixed
    have hcut : 1984 < hello.token.length → ∀ h, decodeClientHello i.handed ≠ .ok h :=
      fun hlong => decodeClientHello_take henc hfixed (by omega)
    refine ⟨⟨fun ⟨_, hdec⟩ => ?_, fun hle => ⟨hclass, ?_⟩⟩, fun hlong g => ?_⟩
    · by_contra hlong
      exact hcut (by omega) hello hdec
    · rw [Input.handed, List.take_of_length_le (by omega)]
      exact decodeClientHello_ok_iff.mpr henc
    · exact serve_undecodable g i hclass (hcut hlong)
  · rintro session session' payload frame hout i rfl
    obtain ⟨hpayload, hframe⟩ : payload.length ≤ maxPayload ∧
        i.datagram = session.frame E payload := by
      by_cases hle : payload.length ≤ maxPayload
      · rw [Session.outbound_of_le E session hle, Prod.mk.injEq, Except.ok.injEq] at hout
        exact ⟨hle, hout.1.symm⟩
      · rw [Session.outbound_of_gt E session (not_le.mp hle)] at hout
        cases hout
    have haad : (session.sealedNext payload).aad.length = dataHeaderSize := length_frameHeader _ _
    have hlen : i.datagram.length ≤ bufSize := by
      rw [hframe, Session.frame_eq, List.length_append, hE, haad]
      have hplain : (session.sealedNext payload).plaintext = payload := rfl
      rw [hplain, dataHeaderSize, tagSize, bufSize]
      rw [maxPayload] at hpayload
      omega
    exact List.take_of_length_le hlen

/-- The hello of a client with a token of `n` bytes. -/
def helloWithToken (n : ℕ) : ClientHello :=
  ⟨sampleClient 1, 0, List.replicate 32 2, List.replicate n 65⟩

lemma encode_helloWithToken {n : ℕ} (h : n ≤ maxTokenLen) :
    ∃ wire, encodeClientHello (helloWithToken n) = .ok wire :=
  encodeClientHello_ok_iff.mpr ⟨List.length_replicate, by simpa [helloWithToken] using h⟩

/-- The longest token that is received. -/
theorem received_whole_longest :
    ∃ wire, encodeClientHello (helloWithToken 1984) = .ok wire ∧
      ∀ i : Input, i.datagram = wire → decodeClientHello i.handed = .ok (helloWithToken 1984) := by
  obtain ⟨wire, henc⟩ := encode_helloWithToken (n := 1984) (by decide)
  have hE : ∀ key n plaintext aad, (checksumCipher.aeadSeal key n plaintext aad).length
      = plaintext.length + tagSize := by
    simp [checksumCipher]
  refine ⟨wire, henc, fun i hi => ?_⟩
  have hall := ((received_whole sumCrypto plainTokenLib hE).1 _ _ henc i hi).1
  exact (hall.mpr List.length_replicate.le).2

/-- **A token of 1985 bytes is too long for the buffer**, although the codec accepts it: the
hello that the gateway sees is not decoded. -/
theorem long_token_cut_off :
    ∃ wire, encodeClientHello (helloWithToken 1985) = .ok wire ∧
      ∀ i : Input, i.datagram = wire → ∀ h, decodeClientHello i.handed ≠ .ok h := by
  obtain ⟨wire, henc⟩ := encode_helloWithToken (n := 1985) (by decide)
  refine ⟨wire, henc, ?_⟩
  rintro i rfl
  obtain ⟨hwire, hhead, -⟩ := encodeClientHello_ok henc
  refine decodeClientHello_take henc (by decide) ?_
  rw [hwire, List.length_append, hhead, helloWithToken, List.length_replicate]
  decide

end DataGateway
end Gemina
