/-
# Kinds of datagrams

How the gateway tells the datagrams apart that it receives (`classify.go` of
`pkg/clientcore`), and the unauthenticated ping that it echoes (`ping.go`).
-/
import Gemina.ClientCore.Handshake

namespace Gemina

/-! ## Ping and pong -/

def pingSize : ℕ := 13

/-- `pingMagic`: `CVPP`. -/
def pingMagic : Bytes := [67, 86, 80, 80]

def pingTypePing : UInt8 := 1
def pingTypePong : UInt8 := 2

def errNotPing : GoError := ⟨"not a ping/pong datagram"⟩

/-- `encodePing`. -/
def encodePingType (typ : UInt8) (nonce : UInt64) : Bytes := pingMagic ++ [typ] ++ putUint64 nonce

/-- `EncodePing`. -/
def encodePing (nonce : UInt64) : Bytes := encodePingType pingTypePing nonce

/-- `EncodePong`. -/
def encodePong (nonce : UInt64) : Bytes := encodePingType pingTypePong nonce

/-- `DecodePing`: whether it is a pong, and its nonce. -/
def decodePing (b : Bytes) : Except GoError (Bool × UInt64) :=
  if b.length ≠ pingSize ∨ b.slice 0 4 ≠ pingMagic then .error errNotPing
  else if b.getD 4 0 = pingTypePing then .ok (false, uint64 (b.drop 5))
  else if b.getD 4 0 = pingTypePong then .ok (true, uint64 (b.drop 5))
  else .error errNotPing

/-! ## Classification -/

/-- `DatagramKind`. -/
inductive DatagramKind where
  | unknown
  | data
  | clientHello
  | serverHello
  | ping
deriving DecidableEq, Repr

/-- `ClassifyDatagram`. -/
def classifyDatagram (b : Bytes) : DatagramKind :=
  if b.length < 4 then .unknown
  else if b.slice 0 4 = dataMagic then .data
  else if b.slice 0 4 = pingMagic then .ping
  else if b.slice 0 4 = handshakeMagic then
    if b.length < 6 then .unknown
    else if b.getD 5 0 = msgClientHello then .clientHello
    else if b.getD 5 0 = msgServerHello then .serverHello
    else .unknown
  else .unknown

/-- What carries a data header is classified as data. -/
lemma classifyDatagram_of_parseHeader {b : Bytes} {r : PacketID × UInt8 × ℕ}
    (h : parseHeader b = .ok r) : classifyDatagram b = .data := by
  simp only [parseHeader] at h
  split at h
  · cases h
  rename_i hlen
  split at h
  · cases h
  rename_i hmagic
  simp only [ne_eq, not_not] at hmagic
  rw [classifyDatagram, if_neg (by simp only [dataHeaderSize] at hlen; omega), if_pos hmagic]

/-- A frame is classified as data, also if its identity is not valid. -/
lemma classifyDatagram_frameHeader (id : PacketID) (dir : UInt8) (rest : Bytes) :
    classifyDatagram (frameHeader id dir ++ rest) = .data := by
  have hmagic : (frameHeader id dir ++ rest).slice 0 4 = dataMagic := by
    simp [frameHeader, dataMagic, List.slice]
  have hlen : ¬ (frameHeader id dir ++ rest).length < 4 := by
    rw [List.length_append, length_frameHeader, dataHeaderSize]
    omega
  rw [classifyDatagram, if_neg hlen, if_pos hmagic]

/-- A handshake message is classified by its type byte. -/
lemma classifyDatagram_handshakeHeader (t : UInt8) (id : SessionID) (rest : Bytes) :
    classifyDatagram (handshakeHeader t id ++ rest) =
      if t = msgClientHello then .clientHello
      else if t = msgServerHello then .serverHello else .unknown := by
  have hbytes : handshakeHeader t id ++ rest
      = 67 :: 86 :: 72 :: 49 :: handshakeVersion :: t :: (id.1 ++ rest) := by
    simp [handshakeHeader, handshakeMagic]
  have hmagic : (handshakeHeader t id ++ rest).slice 0 4 = handshakeMagic := by
    rw [hbytes]
    rfl
  have hlen : ¬ (handshakeHeader t id ++ rest).length < 6 := by
    rw [List.length_append, length_handshakeHeader]
    omega
  have htype : (handshakeHeader t id ++ rest).getD 5 0 = t := by
    rw [hbytes]
    rfl
  rw [classifyDatagram, hmagic, htype, if_neg (by omega), if_neg (by decide),
    if_neg (by decide), if_pos rfl, if_neg hlen]

lemma classifyDatagram_of_decodeClientHello {b : Bytes} {h : ClientHello}
    (hdec : decodeClientHello b = .ok h) : classifyDatagram b = .clientHello := by
  rcases hp : parseHandshakeHeader b msgClientHello with e | id
  · simp [decodeClientHello, hp] at hdec
  · obtain ⟨rest, rfl⟩ := parseHandshakeHeader_ok.mp hp
    rw [classifyDatagram_handshakeHeader, if_pos rfl]

lemma classifyDatagram_of_decodeServerHello {b : Bytes} {h : ServerHello}
    (hdec : decodeServerHello b = .ok h) : classifyDatagram b = .serverHello := by
  rcases hp : parseHandshakeHeader b msgServerHello with e | id
  · simp [decodeServerHello, hp] at hdec
  · obtain ⟨rest, rfl⟩ := parseHandshakeHeader_ok.mp hp
    rw [classifyDatagram_handshakeHeader, if_neg (by decide), if_pos rfl]

end Gemina
