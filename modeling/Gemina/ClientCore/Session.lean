/-
# Sessions

One end of a logical connection (`session.go` of `pkg/clientcore`): it numbers, encrypts and
frames outbound packets, and authenticates, decrypts and deduplicates inbound ones.
-/
import Gemina.Dedup.ReplaySpec
import Gemina.ClientCore.Data
import Gemina.Lib.Counter

namespace Gemina

/-- `Role`. -/
inductive Role where
  /-- The client. -/
  | initiator
  /-- The gateway. -/
  | responder
deriving DecidableEq, Repr

/-- `Role.sendDir`. -/
def Role.sendDir : Role → UInt8
  | .responder => dirResponder
  | .initiator => dirInitiator

/-- `Role.peerDir`: the direction that this endpoint expects on inbound packets. -/
def Role.peerDir : Role → UInt8
  | .responder => dirInitiator
  | .initiator => dirResponder

lemma Role.sendDir_cases (role : Role) :
    role.sendDir = dirInitiator ∨ role.sendDir = dirResponder := by
  cases role
  · exact Or.inl rfl
  · exact Or.inr rfl

/-- The AEAD key of a `sealer`; `newSealer` accepts no other length. -/
abbrev SessionKey : Type := ByteArrayN keySize

/-- `Session`, without its mutex.  The assigned address is zero for a responder. -/
structure Session where
  id : SessionID
  role : Role
  key : SessionKey
  assignedIPv4 : ByteArrayN 4
  /-- The number of the last packet sent. -/
  next : PacketNumber
  window : ReplayWindow

/-- `newSealer`. -/
def newSealer (key : Bytes) : Except GoError SessionKey :=
  if h : key.length ≠ keySize then .error errKeySize
  else .ok ⟨key, not_not.mp h⟩

/-- `NewSession`. -/
def newSession (id : SessionID) (key : Bytes) (role : Role) (dedupCapacity : ℤ) :
    Except GoError Session :=
  if id.isZero then .error errBadIdentity
  else match newSealer key with
    | .error e => .error e
    | .ok key => match ReplayWindow.newReplayWindow dedupCapacity with
      | .error e => .error e
      | .ok window => .ok ⟨id, role, key, ByteArrayN.zero 4, 0, window⟩

/-- What `NewSession` returns. -/
lemma newSession_ok {id : SessionID} {key : Bytes} {role : Role} {dedupCapacity : ℤ} {s : Session}
    (h : newSession id key role dedupCapacity = .ok s) :
    id.isZero = false ∧ s.id = id ∧ s.role = role ∧ s.key.1 = key ∧ s.next = 0 ∧
      ReplayWindow.newReplayWindow dedupCapacity = .ok s.window := by
  unfold newSession newSealer at h
  by_cases hz : id.isZero = true
  · simp [hz] at h
  by_cases hk : key.length ≠ keySize
  · simp [hz, hk] at h
  rcases hw : ReplayWindow.newReplayWindow dedupCapacity with e | w
  · simp [hz, hk, hw] at h
  · simp only [hz, hk, hw, dif_neg, not_false_eq_true, Bool.false_eq_true, if_false,
      Except.ok.injEq] at h
    subst h
    exact ⟨by simpa using hz, rfl, rfl, rfl, rfl, rfl⟩

namespace Session

/-- `sealer.seal`. -/
def sealPacket (E : Cipher) (s : Session) (dir : UInt8) (id : PacketID) (aad plaintext : Bytes) :
    Bytes :=
  E.aeadSeal s.key.1 (nonce dir id.number) plaintext aad

/-- `sealer.open`. -/
def openPacket (E : Cipher) (s : Session) (dir : UInt8) (id : PacketID) (aad ciphertext : Bytes) :
    Except GoError Bytes :=
  match E.aeadOpen s.key.1 (nonce dir id.number) ciphertext aad with
  | some plaintext => .ok plaintext
  | none => .error errOpen

/-- The identity that `Outbound` gives to the next packet; the counter wraps around. -/
def nextID (s : Session) : PacketID := ⟨s.id, s.next + 1⟩

/-- The frame that `Outbound` makes of the next packet. -/
def frame (E : Cipher) (s : Session) (payload : Bytes) : Bytes :=
  let dir := s.role.sendDir
  let header := frameHeader s.nextID dir
  header ++ s.sealPacket E dir s.nextID header payload

/-- `Session.Outbound`. -/
def outbound (E : Cipher) (s : Session) (payload : Bytes) : Except GoError Bytes × Session :=
  if payload.length > maxPayload then (.error errOversize, s)
  else (.ok (s.frame E payload), { s with next := s.next + 1 })

/-- `Session.InboundClassified`.  The path argument is not used by the code. -/
def inboundClassified (E : Cipher) (s : Session) (wire : Bytes) :
    Except GoError (Bytes × ReplayDecision) × Session :=
  match parseHeader wire with
  | .error e => (.error e, s)
  | .ok (id, dir, off) =>
    if dir ≠ s.role.peerDir then (.error errBadDirection, s)
    else match s.openPacket E dir id (wire.slice 0 off) (wire.drop off) with
      | .error e => (.error e, s)
      | .ok plaintext =>
        let (d, window) := s.window.observe id.number
        (.ok (plaintext, d), { s with window := window })

/-- `Session.Inbound`. -/
def inbound (E : Cipher) (s : Session) (wire : Bytes) :
    Except GoError (Bytes × Bool) × Session :=
  match s.inboundClassified E wire with
  | (.error e, s) => (.error e, s)
  | (.ok (payload, d), s) => (.ok (payload, d = .firstCopy), s)

/-! ## What the operations do -/

variable {E : Cipher} {s : Session} {payload wire plaintext : Bytes} {d : ReplayDecision}

/-- The seal operation that frames the next packet. -/
def sealedNext (s : Session) (payload : Bytes) : Aead.Sealed Bytes Bytes Bytes Bytes where
  key := s.key.1
  nonce := nonce s.role.sendDir (s.next + 1)
  aad := frameHeader s.nextID s.role.sendDir
  plaintext := payload

lemma frame_eq (E : Cipher) (s : Session) (payload : Bytes) :
    s.frame E payload = (s.sealedNext payload).aad ++ E.aeadSeal (s.sealedNext payload).key
      (s.sealedNext payload).nonce (s.sealedNext payload).plaintext (s.sealedNext payload).aad :=
  rfl

lemma outbound_of_le (E : Cipher) (s : Session) (h : payload.length ≤ maxPayload) :
    s.outbound E payload = (.ok (s.frame E payload), { s with next := s.next + 1 }) := by
  rw [outbound, if_neg (by omega)]

lemma outbound_of_gt (E : Cipher) (s : Session) (h : maxPayload < payload.length) :
    s.outbound E payload = (.error errOversize, s) := by
  rw [outbound, if_pos h]

/-- An inbound datagram is accepted exactly when it parses, has the peer's direction and
opens; then its number, and nothing else, reaches the replay window. -/
lemma inboundClassified_ok_iff {s' : Session} :
    s.inboundClassified E wire = (.ok (plaintext, d), s') ↔
      ∃ id, parseHeader wire = .ok (id, s.role.peerDir, dataHeaderSize) ∧
        E.aeadOpen s.key.1 (nonce s.role.peerDir id.number) (wire.drop dataHeaderSize)
          (wire.slice 0 dataHeaderSize) = some plaintext ∧
        d = (s.window.observe id.number).1 ∧
        s' = { s with window := (s.window.observe id.number).2 } := by
  unfold inboundClassified
  rcases hp : parseHeader wire with e | ⟨id, dir, off⟩
  · simp
  · obtain ⟨-, rfl, -, -⟩ := parseHeader_ok hp
    simp only [openPacket]
    by_cases hdir : dir = s.role.peerDir
    · subst hdir
      rcases ho : E.aeadOpen s.key.1 (nonce s.role.peerDir id.number) (wire.drop dataHeaderSize)
        (wire.slice 0 dataHeaderSize) with _ | p
      · simp [ho]
      · simp only [ne_eq, not_true_eq_false, if_false, ho, Prod.mk.injEq, Except.ok.injEq,
          and_true, Option.some.injEq, exists_eq_left']
        constructor
        · rintro ⟨⟨hpt, hd⟩, hs⟩
          exact ⟨hpt, hd.symm, hs.symm⟩
        · rintro ⟨hpt, hd, hs⟩
          exact ⟨⟨hpt, hd.symm⟩, hs.symm⟩
    · simp [hdir]

/-- **A datagram that is refused changes nothing.** -/
lemma inboundClassified_error {e : GoError} {s' : Session}
    (h : s.inboundClassified E wire = (.error e, s')) : s' = s := by
  unfold inboundClassified at h
  rcases hp : parseHeader wire with e | ⟨id, dir, off⟩
  · simp only [hp, Prod.mk.injEq] at h
    exact h.2.symm
  · simp only [hp] at h
    split at h
    · exact (Prod.mk.inj h).2.symm
    · rcases ho : s.openPacket E dir id (wire.slice 0 off) (wire.drop off) with e | p
      · simp only [ho, Prod.mk.injEq] at h
        exact h.2.symm
      · simp [ho] at h

/-- What is received changes the replay window at most. -/
lemma inboundClassified_snd (E : Cipher) (s : Session) (wire : Bytes) :
    ∃ window, (s.inboundClassified E wire).2 = { s with window := window } := by
  rcases hin : s.inboundClassified E wire with ⟨e | ⟨plaintext, d⟩, s'⟩
  · exact ⟨s.window, inboundClassified_error hin⟩
  · obtain ⟨id, -, -, -, hs'⟩ := inboundClassified_ok_iff.mp hin
    exact ⟨_, hs'⟩

/-- A packet that is framed uses up one number. -/
lemma outbound_ok {frame : Bytes} {s' : Session} (h : s.outbound E payload = (.ok frame, s')) :
    frame = s.frame E payload ∧ s' = { s with next := s.next + 1 } := by
  rw [outbound] at h
  split at h
  · simp at h
  · simp only [Prod.mk.injEq, Except.ok.injEq] at h
    exact ⟨h.1.symm, h.2.symm⟩

/-! ## From one end to the other -/

lemma parseHeader_frame_of_valid (E : Cipher) (s : Session) (hvalid : s.nextID.valid = true)
    (payload : Bytes) :
    parseHeader (s.frame E payload) = .ok (s.nextID, s.role.sendDir, dataHeaderSize) :=
  parseHeader_frameHeader hvalid (Role.sendDir_cases s.role) _

/-- **A frame reaches the other end.**  Whoever has the key opens a frame of the other
direction to its payload, and shows its number to the replay window. -/
lemma inboundClassified_frame {c : Session} (hE : E.Correct)
    {log : List (Aead.Sealed Bytes Bytes Bytes Bytes)} (hvalid : s.nextID.valid = true)
    (hlog : s.sealedNext payload ∈ log) (hkey : c.key = s.key)
    (hdir : c.role.peerDir = s.role.sendDir) :
    c.inboundClassified (E.ideal log) (s.frame E payload) =
      (.ok (payload, (c.window.observe (s.next + 1)).1),
        { c with window := (c.window.observe (s.next + 1)).2 }) := by
  refine inboundClassified_ok_iff.mpr ⟨s.nextID, ?_, ?_, rfl, rfl⟩
  · rw [hdir]
    exact parseHeader_frame_of_valid E s hvalid payload
  · have haad : (s.sealedNext payload).aad.length = dataHeaderSize := length_frameHeader _ _
    have hopen := Aead.ideal_open_seal hE hlog
    rw [frame_eq, List.drop_left' haad, List.slice_zero, List.take_left' haad, hkey, hdir]
    exact hopen

/-! ## The numbers that a session used -/

/-- The session has framed packets with these numbers, in this order: its counter has drawn
them. -/
def HasFramed (s : Session) (ns : List PacketNumber) : Prop := Counter.Issued s.next ns

variable {ns : List PacketNumber}

lemma hasFramed_new (h : s.next = 0) : s.HasFramed [] := by
  rw [HasFramed, h]
  exact Counter.issued_zero

lemma HasFramed.next (h : s.HasFramed ns) :
    HasFramed { s with next := s.next + 1 } (ns ++ [s.next + 1]) :=
  Counter.Issued.draw h

/-- As long as the counter does not wrap around, the next number is a new one. -/
lemma HasFramed.fresh (h : s.HasFramed ns) (hfew : ns.length + 1 < 2 ^ 64) :
    s.next + 1 ≠ 0 ∧ s.next + 1 ∉ ns :=
  Counter.Issued.fresh h hfew

/-- The first `2 ^ 64` numbers of a session are different, the zero at the end included. -/
lemma HasFramed.nodup (h : s.HasFramed ns) (hfew : ns.length ≤ 2 ^ 64) : ns.Nodup :=
  Counter.Issued.nodup h hfew

end Session
end Gemina
