/-
# Failed calls of `inboundInto`

The bridge checks the room for the payload after the core has shown the packet to the replay
window.  A packet for which there is no room has thus been seen: its other copy, and the same
datagram with a larger buffer, are duplicates.  Every other failed call leaves no trace.
-/
import Gemina.Bridge
import Gemina.Dedup.Bitmap
import Gemina.Lib.Mealy

namespace Gemina
namespace Bridge

/-- A call of `inboundInto`: the handle, the datagram, and the room for the payload. -/
structure InboundCall where
  handle : UInt64
  wire : Bytes
  outCap : ℕ

/-- The call, as a step of the bridge. -/
def inboundStep (E : Cipher) (b : Bridge) (c : InboundCall) : (ℤ × Bool × Bytes) × Bridge :=
  b.inboundInto E c.handle c.wire c.outCap

/-- The datagram opens, in this session, to a packet that its window has not seen and whose
payload does not fit into the buffer. -/
def Overflows (E : Cipher) (s : Session) (wire : Bytes) (outCap : ℕ) : Prop :=
  ∃ id payload, parseHeader wire = .ok (id, s.role.peerDir, dataHeaderSize) ∧
    E.aeadOpen s.key.1 (nonce s.role.peerDir id.number) (wire.drop dataHeaderSize)
      (wire.slice 0 dataHeaderSize) = some payload ∧
    (s.window.observe id.number).1 = .firstCopy ∧ outCap < payload.length

variable {E : Cipher} {b : Bridge} {s : Session} {handle : UInt64} {wire : Bytes} {outCap : ℕ}

lemma setSession_self (h : b.reg.get handle = some s) : b.setSession handle s = b := by
  have hsame : Function.update b.reg.sessions handle (some s) = b.reg.sessions := by
    rw [← h]
    exact Function.update_eq_self handle b.reg.sessions
  rw [setSession, hsame]

lemma get_setSession (b : Bridge) (handle : UInt64) (s : Session) :
    (b.setSession handle s).reg.get handle = some s := by
  simp [setSession, Registry.get]

/-- A call for a datagram that opens. -/
lemma inboundInto_of_opened (h : b.reg.get handle = some s) {payload : Bytes} {d : ReplayDecision}
    {s' : Session} (hin : s.inboundClassified E wire = (.ok (payload, d), s')) (outCap : ℕ) :
    b.inboundInto E handle wire outCap =
      (if outCap < payload.length then (-errCodeBufferSize, false, [])
        else ((payload.length : ℤ), decide (d = .firstCopy), payload), b.setSession handle s') := by
  simp only [inboundInto, h, Session.inbound, hin]
  split_ifs <;> rfl

/-- What a call with a live handle can do: the datagram is refused and nothing changes, or it
opens and its number reaches the window. -/
lemma inboundInto_cases (h : b.reg.get handle = some s) (wire : Bytes) (outCap : ℕ) :
    b.inboundInto E handle wire outCap = ((-errCodeCore, false, []), b) ∨
    ∃ id payload, parseHeader wire = .ok (id, s.role.peerDir, dataHeaderSize) ∧
      E.aeadOpen s.key.1 (nonce s.role.peerDir id.number) (wire.drop dataHeaderSize)
        (wire.slice 0 dataHeaderSize) = some payload ∧
      b.inboundInto E handle wire outCap =
        (if outCap < payload.length then (-errCodeBufferSize, false, [])
          else ((payload.length : ℤ), decide ((s.window.observe id.number).1 = .firstCopy),
            payload),
        b.setSession handle { s with window := (s.window.observe id.number).2 }) := by
  rcases hin : s.inboundClassified E wire with ⟨e | ⟨payload, d⟩, s'⟩
  · left
    have hs' := Session.inboundClassified_error hin
    subst hs'
    simp only [inboundInto, h, Session.inbound, hin, setSession_self h]
  · right
    obtain ⟨id, hparse, hopen, rfl, rfl⟩ := Session.inboundClassified_ok_iff.mp hin
    exact ⟨id, payload, hparse, hopen, inboundInto_of_opened h hin outCap⟩

/-- A call that fails for another reason changes nothing. -/
lemma inboundInto_failed (hfail : (b.inboundInto E handle wire outCap).1.1 < 0)
    (hno : ∀ s, b.reg.get handle = some s → ¬ Overflows E s wire outCap) :
    (b.inboundInto E handle wire outCap).2 = b := by
  rcases hget : b.reg.get handle with _ | s
  · simp [inboundInto, hget]
  rcases inboundInto_cases (E := E) hget wire outCap with heq | ⟨id, payload, hparse, hopen, heq⟩
  · rw [heq]
  rw [heq] at hfail ⊢
  -- there was no room, so the packet was not a first copy
  have hroom : outCap < payload.length := by
    by_contra hroom
    rw [if_neg hroom] at hfail
    exact absurd hfail (by simp)
  have hfirst : (s.window.observe id.number).1 ≠ .firstCopy :=
    fun hfirst => hno s hget ⟨id, payload, hparse, hopen, hfirst, hroom⟩
  simp only [ReplayWindow.observe_snd_of_ne hfirst]
  exact setSession_self hget

/-- **The packet that did not fit is lost.**  Presented again with enough room it is a duplicate,
where it would have been delivered without the failed call. -/
lemma inboundInto_overflow (h : b.reg.get handle = some s) (hover : Overflows E s wire outCap) :
    ∃ payload : Bytes, (b.inboundInto E handle wire outCap).1.1 < 0 ∧
      (b.inboundInto E handle wire payload.length).1 = ((payload.length : ℤ), true, payload) ∧
      ((b.inboundInto E handle wire outCap).2.inboundInto E handle wire payload.length).1
        = ((payload.length : ℤ), false, payload) := by
  obtain ⟨id, payload, hparse, hopen, hfirst, hroom⟩ := hover
  have hin : s.inboundClassified E wire = (.ok (payload, .firstCopy),
      { s with window := (s.window.observe id.number).2 }) :=
    Session.inboundClassified_ok_iff.mpr ⟨id, hparse, hopen, hfirst.symm, rfl⟩
  have hin' : ({ s with window := (s.window.observe id.number).2 } : Session).inboundClassified E
      wire = (.ok (payload, .duplicate),
        { s with window := ((s.window.observe id.number).2.observe id.number).2 }) :=
    Session.inboundClassified_ok_iff.mpr ⟨id, hparse, hopen,
      (ReplayWindow.observe_again hfirst).symm, rfl⟩
  refine ⟨payload, ?_, ?_, ?_⟩
  · rw [inboundInto_of_opened h hin, if_pos hroom]
    simp [errCodeBufferSize]
  · simp [inboundInto_of_opened h hin]
  · rw [inboundInto_of_opened h hin outCap, inboundInto_of_opened (get_setSession _ _ _) hin']
    simp

/-- **A failed call leaves no trace, unless a new packet did not fit.**  For every state of the
bridge and every call of `inboundInto`: if it fails, the session is as before and every later
sequence of calls gives the same results as without it, exactly if it is not the case that the
datagram opens to a packet that is new to the window of the session and larger than the buffer. -/
theorem inboundInto_failed_traceless (E : Cipher) (b : Bridge) (c : InboundCall) :
    ((b.inboundStep E c).1.1 < 0 →
      (b.inboundStep E c).2.reg.get c.handle = b.reg.get c.handle ∧
      ∀ calls, Mealy.trace (inboundStep E) (b.inboundStep E c).2 calls
        = Mealy.trace (inboundStep E) b calls) ↔
    ∀ s, b.reg.get c.handle = some s → ¬ Overflows E s c.wire c.outCap := by
  constructor
  · intro h s hget hover
    obtain ⟨payload, hfail, hdelivered, hlost⟩ := inboundInto_overflow hget hover
    -- the two runs differ in the call that presents the datagram again
    have hsame := (h hfail).2 [⟨c.handle, c.wire, payload.length⟩]
    simp only [Mealy.trace, List.cons.injEq, Prod.mk.injEq, and_true, true_and] at hsame
    have hresult := (hlost.symm.trans hsame).trans hdelivered
    simp at hresult
  · intro hno hfail
    have hsame : (b.inboundStep E c).2 = b := inboundInto_failed hfail hno
    rw [hsame]
    exact ⟨rfl, fun _ => rfl⟩

section Sample

set_option maxRecDepth 8000

/-- A bridge with both ends of a session: the client has the handle one, the server two. -/
def sampleBridge : Bridge :=
  let key := List.replicate 32 7
  let b := (createSession ⟨newHSRegistry, newRegistry⟩ (List.replicate 16 1) key .initiator 64).2
  (b.createSession (List.replicate 16 1) key .responder 64).2

/-- The datagram of the client's first packet. -/
def sampleWire : Bytes := (sampleBridge.outboundInto checksumCipher 1 [10, 20, 30] 2048).1.2

/-- **A packet is lost to a small buffer.**  The server's first call fails for want of room; the
copy over the second path, with room enough, is taken for a duplicate.  Without the first call it
is delivered. -/
theorem small_buffer_loses_packet :
    (sampleBridge.inboundInto checksumCipher 2 sampleWire 2).1 = (-errCodeBufferSize, false, []) ∧
    ((sampleBridge.inboundInto checksumCipher 2 sampleWire 2).2.inboundInto checksumCipher 2
      sampleWire 2048).1 = (3, false, [10, 20, 30]) ∧
    (sampleBridge.inboundInto checksumCipher 2 sampleWire 2048).1 = (3, true, [10, 20, 30]) := by
  decide +kernel

end Sample

end Bridge
end Gemina
