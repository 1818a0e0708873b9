/-
# The handshake messages

Key agreement and the two messages that carry it (`handshake.go`, `handshake_auth.go` and
`handshake_message.go` of `pkg/clientcore`).  A `ClientHello` carries the session id, the
client's clock, its ephemeral X25519 key and its entitlement token; the `ServerHello` carries
the gateway's ephemeral key, signed together with the session id, and the leased address.

X25519, HKDF-SHA256 and Ed25519 come from the Go standard library.  They are a parameter of
the model, with the laws that their documentation states.
-/
import Gemina.ClientCore.Session
import Gemina.Strings

namespace Gemina

/-- `binary.BigEndian.PutUint16`, of a length. -/
def putUint16 (n : ℕ) : Bytes := BigEndian.encode 2 n

/-- `binary.BigEndian.Uint16`, of the first two bytes. -/
def uint16 (b : Bytes) : ℕ := BigEndian.decode (b.take 2)

@[simp] lemma length_putUint16 (n : ℕ) : (putUint16 n).length = 2 := BigEndian.length_encode _ _

lemma uint16_putUint16 {n : ℕ} (h : n < 2 ^ 16) (rest : Bytes) :
    uint16 (putUint16 n ++ rest) = n := by
  rw [uint16, List.take_left' (length_putUint16 n), putUint16,
    BigEndian.decode_encode_of_lt (by omega)]

lemma putUint16_uint16 {b : Bytes} (h : b.length = 2) : putUint16 (uint16 b) = b := by
  rw [putUint16, uint16, List.take_of_length_le h.le, ← h, BigEndian.encode_decode]

/-! ## The primitives of the standard library -/

def x25519PubSize : ℕ := 32
def x25519PrivSize : ℕ := 32
def signatureSize : ℕ := 64
def publicKeySize : ℕ := 32

/-- The primitives that the handshake is built from. -/
structure Crypto where
  /-- The X25519 public key of a private key. -/
  publicKey : Bytes → Bytes
  /-- `PrivateKey.ECDH`; it refuses a point of low order. -/
  ecdh : Bytes → Bytes → Except GoError Bytes
  /-- `hkdf.Key` with SHA-256: secret, salt, info and length. -/
  hkdf : Bytes → Bytes → Bytes → ℕ → Bytes
  /-- The Ed25519 public key of a private key. -/
  identityPub : Bytes → Bytes
  /-- `ed25519.Sign`: private key and message. -/
  sign : Bytes → Bytes → Bytes
  /-- `ed25519.Verify`: public key, message and signature. -/
  verify : Bytes → Bytes → Bytes → Bool

/-- What the standard library documents about its primitives. -/
structure Crypto.Lawful (C : Crypto) : Prop where
  length_publicKey : ∀ priv, (C.publicKey priv).length = x25519PubSize
  length_hkdf : ∀ secret salt info n, (C.hkdf secret salt info n).length = n
  length_identityPub : ∀ priv, (C.identityPub priv).length = publicKeySize
  length_sign : ∀ priv msg, (C.sign priv msg).length = signatureSize
  /-- Both ends of a Diffie-Hellman exchange get the same secret. -/
  ecdh_comm : ∀ a b, C.ecdh a (C.publicKey b) = C.ecdh b (C.publicKey a)
  verify_sign : ∀ priv msg, C.verify (C.identityPub priv) msg (C.sign priv msg) = true

/-- A stand-in for the primitives that can be evaluated: keys are their own public keys and a
signature is the signer's key with the sum of the message. -/
def sumCrypto : Crypto where
  publicKey priv := (ByteArrayN.copy x25519PubSize priv).1
  ecdh a p := .ok (List.zipWith (· + ·) (ByteArrayN.copy x25519PubSize a).1
    (ByteArrayN.copy x25519PubSize p).1)
  hkdf secret salt _ n := (ByteArrayN.copy n (List.zipWith (· + ·) secret (salt ++ salt))).1
  identityPub priv := (ByteArrayN.copy publicKeySize priv).1
  sign priv msg := (ByteArrayN.copy signatureSize
    ((ByteArrayN.copy publicKeySize priv).1 ++ [msg.sum])).1
  verify pub msg sig := sig = (ByteArrayN.copy signatureSize
    ((ByteArrayN.copy publicKeySize pub).1 ++ [msg.sum])).1

lemma sumCrypto_lawful : sumCrypto.Lawful where
  length_publicKey priv := (ByteArrayN.copy _ priv).2
  length_hkdf _ _ _ _ := (ByteArrayN.copy _ _).2
  length_identityPub priv := (ByteArrayN.copy _ priv).2
  length_sign _ _ := (ByteArrayN.copy _ _).2
  ecdh_comm a b := by
    simp only [sumCrypto, ByteArrayN.copy_self, Except.ok.injEq]
    exact List.zipWith_comm_of_comm fun x y => add_comm x y
  verify_sign priv msg := by simp [sumCrypto]

/-! ## Key agreement -/

/-- `hkdfInfo`. -/
def hkdfInfo : Bytes := ascii "continuity-vpn session key v1"

def errBadPrivateKey : GoError := ⟨"x25519 private key must be 32 bytes"⟩
def errBadPublicKey : GoError := ⟨"x25519 public key must be 32 bytes"⟩

/-- What `crypto/rand` gives for a new X25519 key. -/
abbrev KeySeed : Type := Except GoError (ByteArrayN x25519PrivSize)

/-- `GenerateKeyPair`: the private and the public key. -/
def generateKeyPair (C : Crypto) (seed : KeySeed) : Except GoError (Bytes × Bytes) :=
  match seed with
  | .error e => .error e
  | .ok priv => .ok (priv.1, C.publicKey priv.1)

/-- `DeriveSessionKey`. -/
def deriveSessionKey (C : Crypto) (myPriv peerPub : Bytes) (id : SessionID) :
    Except GoError Bytes :=
  if myPriv.length ≠ x25519PrivSize then .error errBadPrivateKey
  else if peerPub.length ≠ x25519PubSize then .error errBadPublicKey
  else match C.ecdh myPriv peerPub with
    | .error e => .error e
    | .ok shared => .ok (C.hkdf shared id.1 hkdfInfo keySize)

/-- **Key agreement.**  Two ends that know each other's public keys derive the same key. -/
lemma deriveSessionKey_comm {C : Crypto} (hC : C.Lawful) {a b : Bytes}
    (ha : a.length = x25519PrivSize) (hb : b.length = x25519PrivSize) (id : SessionID) :
    deriveSessionKey C a (C.publicKey b) id = deriveSessionKey C b (C.publicKey a) id := by
  simp only [deriveSessionKey, ha, hb, hC.length_publicKey, hC.ecdh_comm a b, ne_eq,
    not_true_eq_false, if_false]

lemma deriveSessionKey_length {C : Crypto} (hC : C.Lawful) {a p key : Bytes} {id : SessionID}
    (h : deriveSessionKey C a p id = .ok key) : key.length = keySize := by
  simp only [deriveSessionKey] at h
  split at h
  · cases h
  split at h
  · cases h
  split at h
  · cases h
  · cases h
    exact hC.length_hkdf _ _ _ _

/-- Deriving a key takes a private key of the right length. -/
lemma length_of_deriveSessionKey {C : Crypto} {priv pub key : Bytes} {id : SessionID}
    (h : deriveSessionKey C priv pub id = .ok key) : priv.length = x25519PrivSize := by
  by_contra hne
  simp [deriveSessionKey, hne] at h

/-! ## The gateway's signature -/

/-- `handshakeContext`. -/
def handshakeContext : Bytes := ascii "continuity-vpn handshake v1"

def errBadIdentityKey : GoError := ⟨"ed25519 identity public key has the wrong size"⟩
def errBadSignature : GoError := ⟨"handshake signature does not verify"⟩
def errMalformedSigLen : GoError := ⟨"handshake signature has the wrong size"⟩

/-- `transcript`. -/
def transcript (ephemeralPub : Bytes) (id : SessionID) : Bytes :=
  handshakeContext ++ id.1 ++ ephemeralPub

/-- `SignHandshake`. -/
def signHandshake (C : Crypto) (identityPriv ephemeralPub : Bytes) (id : SessionID) : Bytes :=
  C.sign identityPriv (transcript ephemeralPub id)

/-- `VerifyHandshake`. -/
def verifyHandshake (C : Crypto) (identityPub ephemeralPub sig : Bytes) (id : SessionID) :
    Except GoError Unit :=
  if identityPub.length ≠ publicKeySize then .error errBadIdentityKey
  else if sig.length ≠ signatureSize then .error errMalformedSigLen
  else if !C.verify identityPub (transcript ephemeralPub id) sig then .error errBadSignature
  else .ok ()

/-- The transcript binds the session id and the ephemeral key. -/
lemma transcript_inj {p q : Bytes} {id id' : SessionID}
    (h : transcript p id = transcript q id') : id = id' ∧ p = q := by
  simp only [transcript, List.append_assoc, List.append_cancel_left_eq] at h
  obtain ⟨hid, hp⟩ := List.append_inj h (by simp)
  exact ⟨ByteArrayN.ext hid, hp⟩

/-! ## Freshness

An instant is an integer, in nanoseconds since the Unix epoch. -/

/-- The bounds of `time.Duration`, an `int64` of nanoseconds. -/
def minDuration : ℤ := -2 ^ 63
def maxDuration : ℤ := 2 ^ 63 - 1

def second : ℤ := 1000000000

/-- The seconds from the year one to the Unix epoch, `unixToInternal` of the `time` package. -/
def unixToInternal : Int64 := 62135596800

/-- `time.Unix(sec, 0)`.  A `Time` counts its seconds from the year one, in an `int64` that wraps
around. -/
def timeUnix (sec : Int64) : ℤ := ((sec + unixToInternal).toInt - unixToInternal.toInt) * second

/-- The last second after the epoch that a `Time` can hold. -/
def maxUnix : ℤ := 2 ^ 63 - 1 - 62135596800

/-- Up to its last second a `Time` is the instant that it is made from, and what is later comes
out `2 ^ 64` seconds too early. -/
lemma timeUnix_eq (sec : Int64) :
    timeUnix sec
      = if sec.toInt ≤ maxUnix then sec.toInt * second else (sec.toInt - 2 ^ 64) * second := by
  have hlow := sec.le_toInt
  have hhigh := sec.toInt_lt
  have hepoch : unixToInternal.toInt = 62135596800 := by decide
  rw [timeUnix, Int64.toInt_add, hepoch, Int.bmod_def, maxUnix]
  split_ifs <;> congr 1 <;> omega

/-- `Time.Sub`: the difference, saturated. -/
def timeSub (t u : ℤ) : ℤ := max minDuration (min maxDuration (t - u))

/-- The negation of an `int64`, which wraps around at the least value. -/
def negDuration (d : ℤ) : ℤ := if d = minDuration then minDuration else -d

/-- `DefaultHandshakeTolerance`. -/
def defaultHandshakeTolerance : ℤ := 60 * second

def errStaleHandshake : GoError := ⟨"handshake timestamp outside tolerance window"⟩

/-- `CheckHandshakeFresh`. -/
def checkHandshakeFresh (timestamp : Int64) (now : ℤ) (tolerance : ℤ) : Except GoError Unit :=
  let skew := timeSub now (timeUnix timestamp)
  let skew := if skew < 0 then negDuration skew else skew
  if skew > tolerance then .error errStaleHandshake else .ok ()

/-! ## The messages -/

def handshakeVersion : UInt8 := 1
def msgClientHello : UInt8 := 1
def msgServerHello : UInt8 := 2

/-- `handshakeMagic`: `CVH1`. -/
def handshakeMagic : Bytes := [67, 86, 72, 49]

def maxTokenLen : ℕ := 4096
def assignedIPv4Size : ℕ := 4

/-- `clientHelloFixed`: the length of a `ClientHello` without its token. -/
def clientHelloFixed : ℕ := 6 + sessionIDSize + 8 + x25519PubSize + 2

/-- `serverHelloLen`. -/
def serverHelloLen : ℕ := 6 + sessionIDSize + x25519PubSize + signatureSize + assignedIPv4Size

def errShortHandshake : GoError := ⟨"handshake message shorter than its header"⟩
def errHandshakeMagic : GoError := ⟨"handshake message has wrong magic"⟩
def errHandshakeVer : GoError := ⟨"handshake message has unsupported version"⟩
def errHandshakeType : GoError := ⟨"handshake message has the wrong type"⟩
def errHandshakeField : GoError := ⟨"handshake message has a malformed field"⟩

/-- `putHandshakeHeader`. -/
def handshakeHeader (msgType : UInt8) (id : SessionID) : Bytes :=
  handshakeMagic ++ [handshakeVersion] ++ [msgType] ++ id.1

/-- `parseHandshakeHeader`. -/
def parseHandshakeHeader (b : Bytes) (msgType : UInt8) : Except GoError SessionID :=
  if b.length < 6 + sessionIDSize then .error errShortHandshake
  else if b.slice 0 4 ≠ handshakeMagic then .error errHandshakeMagic
  else if b.getD 4 0 ≠ handshakeVersion then .error errHandshakeVer
  else if b.getD 5 0 ≠ msgType then .error errHandshakeType
  else .ok (ByteArrayN.copy sessionIDSize (b.slice 6 (6 + sessionIDSize)))

/-- The fields of a `ClientHello`. -/
structure ClientHello where
  id : SessionID
  /-- The client's clock, in Unix seconds. -/
  timestamp : Int64
  ephemeralPub : Bytes
  token : Bytes
deriving DecidableEq

/-- `EncodeClientHello`. -/
def encodeClientHello (h : ClientHello) : Except GoError Bytes :=
  if h.ephemeralPub.length ≠ x25519PubSize then .error errHandshakeField
  else if h.token.length > maxTokenLen then .error errHandshakeField
  else .ok (handshakeHeader msgClientHello h.id ++ putUint64 h.timestamp.toUInt64
    ++ h.ephemeralPub ++ putUint16 h.token.length ++ h.token)

/-- `DecodeClientHello`. -/
def decodeClientHello (b : Bytes) : Except GoError ClientHello :=
  match parseHandshakeHeader b msgClientHello with
  | .error e => .error e
  | .ok id =>
    if b.length < clientHelloFixed then .error errShortHandshake
    else
      let tsStart := 6 + sessionIDSize
      let timestamp := (uint64 (b.drop tsStart)).toInt64
      let ephStart := tsStart + 8
      let eph := b.slice ephStart (ephStart + x25519PubSize)
      let tokenLen := uint16 (b.drop (ephStart + x25519PubSize))
      if b.length ≠ clientHelloFixed + tokenLen ∨ tokenLen > maxTokenLen then
        .error errHandshakeField
      else .ok ⟨id, timestamp, eph, b.drop clientHelloFixed⟩

/-- The fields of a `ServerHello`. -/
structure ServerHello where
  id : SessionID
  ephemeralPub : Bytes
  sig : Bytes
  /-- The leased tunnel address, or zero. -/
  assignedIPv4 : ByteArrayN assignedIPv4Size
deriving DecidableEq

/-- `EncodeServerHello`. -/
def encodeServerHello (h : ServerHello) : Except GoError Bytes :=
  if h.ephemeralPub.length ≠ x25519PubSize ∨ h.sig.length ≠ signatureSize then
    .error errHandshakeField
  else .ok (handshakeHeader msgServerHello h.id ++ h.ephemeralPub ++ h.sig ++ h.assignedIPv4.1)

/-- `DecodeServerHello`. -/
def decodeServerHello (b : Bytes) : Except GoError ServerHello :=
  match parseHandshakeHeader b msgServerHello with
  | .error e => .error e
  | .ok id =>
    if b.length ≠ serverHelloLen then .error errHandshakeField
    else
      let ephStart := 6 + sessionIDSize
      let eph := b.slice ephStart (ephStart + x25519PubSize)
      let sigStart := ephStart + x25519PubSize
      let signature := b.slice sigStart (sigStart + signatureSize)
      .ok ⟨id, eph, signature, ByteArrayN.copy assignedIPv4Size (b.drop (sigStart + signatureSize))⟩

/-! ## The messages are read back as they were written -/

@[simp] lemma length_handshakeHeader (t : UInt8) (id : SessionID) :
    (handshakeHeader t id).length = 6 + sessionIDSize := by
  simp [handshakeHeader, handshakeMagic, sessionIDSize]

/-- The header parser accepts exactly what starts with such a header. -/
lemma parseHandshakeHeader_ok {b : Bytes} {t : UInt8} {id : SessionID} :
    parseHandshakeHeader b t = .ok id ↔ ∃ rest, b = handshakeHeader t id ++ rest := by
  constructor
  · intro h
    simp only [parseHandshakeHeader] at h
    split at h
    · cases h
    rename_i hlen
    split at h
    · cases h
    rename_i hmagic
    split at h
    · cases h
    rename_i hver
    split at h
    · cases h
    rename_i htype
    simp only [Except.ok.injEq] at h
    simp only [ne_eq, not_not, not_lt] at hlen hmagic hver htype
    have hid : id.1 = b.slice 6 (6 + sessionIDSize) := by
      rw [← h]
      exact ByteArrayN.copy_val (by rw [List.length_slice hlen]; omega)
    have h4 : b.slice 4 5 = [handshakeVersion] := by
      rw [← hver]
      exact List.slice_succ 0 (by simp only [sessionIDSize] at hlen; omega)
    have h5 : b.slice 5 6 = [t] := by
      rw [← htype]
      exact List.slice_succ 0 (by simp only [sessionIDSize] at hlen; omega)
    refine ⟨b.drop (6 + sessionIDSize), ?_⟩
    rw [handshakeHeader, hid, ← hmagic, ← h4, ← h5, List.slice_append_slice _ (by omega) (by omega),
      List.slice_append_slice _ (by omega) (by omega),
      List.slice_append_slice _ (by omega) (by omega), List.slice_zero, List.take_append_drop]
  · rintro ⟨rest, rfl⟩
    have hbytes : handshakeHeader t id ++ rest
        = 67 :: 86 :: 72 :: 49 :: handshakeVersion :: t :: (id.1 ++ rest) := by
      simp [handshakeHeader, handshakeMagic]
    rw [parseHandshakeHeader, if_neg (by simp),
      if_neg (by simp [hbytes, List.slice, handshakeMagic]), if_neg (by simp [hbytes]),
      if_neg (by simp [hbytes])]
    have hid : (handshakeHeader t id ++ rest).slice 6 (6 + sessionIDSize) = id.1 := by
      rw [hbytes]
      simp [List.slice, List.take_left' id.2]
    rw [hid, ByteArrayN.copy_self]

/-- **`ClientHello` is a bijective format**: a byte string decodes to these fields exactly
when it is their encoding. -/
lemma decodeClientHello_ok_iff {b : Bytes} {h : ClientHello} :
    decodeClientHello b = .ok h ↔ encodeClientHello h = .ok b := by
  constructor
  · intro hdec
    simp only [decodeClientHello] at hdec
    rcases hp : parseHandshakeHeader b msgClientHello with e | id
    · simp [hp] at hdec
    simp only [hp] at hdec
    split at hdec
    · cases hdec
    rename_i hlen
    split at hdec
    · cases hdec
    rename_i hfield
    cases hdec
    obtain ⟨rest, rfl⟩ := parseHandshakeHeader_ok.mp hp
    set b := handshakeHeader msgClientHello id ++ rest with hb
    simp only [clientHelloFixed, sessionIDSize, x25519PubSize] at hlen hfield ⊢
    push Not at hfield
    have hts : putUint64 (uint64 (b.drop 22)) = b.slice 22 30 :=
      putUint64_uint64_take (by rw [List.length_drop]; omega)
    have htok : putUint16 (b.drop 64).length = b.slice 62 64 := by
      have hn : (b.drop 64).length = uint16 (b.slice 62 64) := by
        rw [List.length_drop, uint16, List.take_of_length_le (by rw [List.length_slice]; omega)]
        simp only [uint16] at hfield
        exact (Nat.sub_eq_of_eq_add (by rw [hfield.1, add_comm]; rfl))
      rw [hn]
      exact putUint16_uint16 (by rw [List.length_slice]; omega)
    rw [encodeClientHello, if_neg (by simp only [ne_eq, not_not, x25519PubSize]
                                      rw [List.length_slice]; omega),
      if_neg (by simp only [List.length_drop]; omega)]
    simp only [Except.ok.injEq, UInt64.toUInt64_toInt64]
    rw [hts, htok]
    have hhead : handshakeHeader msgClientHello id = b.slice 0 22 := by
      rw [hb, List.slice_zero]
      exact (List.take_left' (by simp [sessionIDSize])).symm
    rw [hhead, List.slice_append_slice _ (by omega) (by omega),
      List.slice_append_slice _ (by omega) (by omega),
      List.slice_append_slice _ (by omega) (by omega), List.slice_append_drop _ (by omega)]
    rfl
  · intro henc
    simp only [encodeClientHello] at henc
    split at henc
    · cases henc
    rename_i heph
    split at henc
    · cases henc
    rename_i htok
    cases henc
    simp only [ne_eq, not_not, not_lt] at heph htok
    obtain ⟨id, ts, eph, token⟩ := h
    simp only at heph htok
    have hhead := length_handshakeHeader msgClientHello id
    have hts8 := length_putUint64 ts.toUInt64
    have hlen2 := length_putUint16 token.length
    set head := handshakeHeader msgClientHello id with hhd
    set ts8 := putUint64 ts.toUInt64 with hts
    set len2 := putUint16 token.length with hl2
    have hlen : (head ++ ts8 ++ eph ++ len2 ++ token).length = clientHelloFixed + token.length := by
      simp only [List.length_append, hhead, hts8, heph, hlen2, clientHelloFixed]
    -- each field is cut out where it was put
    have hp : parseHandshakeHeader (head ++ ts8 ++ eph ++ len2 ++ token) msgClientHello = .ok id :=
      parseHandshakeHeader_ok.mpr ⟨ts8 ++ eph ++ len2 ++ token, by simp [hhd]⟩
    have hfts : uint64 ((head ++ ts8 ++ eph ++ len2 ++ token).drop (6 + sessionIDSize))
        = ts.toUInt64 := by
      rw [show head ++ ts8 ++ eph ++ len2 ++ token
          = head ++ (ts8 ++ (eph ++ len2 ++ token)) by simp,
        List.drop_left' hhead, hts, uint64_putUint64]
    have hfeph : (head ++ ts8 ++ eph ++ len2 ++ token).slice (6 + sessionIDSize + 8)
        (6 + sessionIDSize + 8 + x25519PubSize) = eph := by
      rw [show head ++ ts8 ++ eph ++ len2 ++ token
          = (head ++ ts8) ++ (eph ++ (len2 ++ token)) by simp]
      exact List.slice_mid (by rw [List.length_append, hhead, hts8]) (by rw [heph])
    have hflen : uint16 ((head ++ ts8 ++ eph ++ len2 ++ token).drop
        (6 + sessionIDSize + 8 + x25519PubSize)) = token.length := by
      rw [show head ++ ts8 ++ eph ++ len2 ++ token
          = (head ++ ts8 ++ eph) ++ (len2 ++ token) by simp,
        List.drop_left' (by simp only [List.length_append, hhead, hts8, heph]), hl2,
        uint16_putUint16 (by simp only [maxTokenLen] at htok; omega)]
    have hftok : (head ++ ts8 ++ eph ++ len2 ++ token).drop clientHelloFixed = token :=
      List.drop_left'
        (by simp only [List.length_append, hhead, hts8, heph, hlen2, clientHelloFixed])
    rw [decodeClientHello, hp]
    simp only [hlen, hfts, hfeph, hflen, hftok]
    rw [if_neg (by omega), if_neg (by omega), Int64.toInt64_toUInt64]

/-- **`ServerHello` is a bijective format.** -/
lemma decodeServerHello_ok_iff {b : Bytes} {h : ServerHello} :
    decodeServerHello b = .ok h ↔ encodeServerHello h = .ok b := by
  constructor
  · intro hdec
    simp only [decodeServerHello] at hdec
    rcases hp : parseHandshakeHeader b msgServerHello with e | id
    · simp [hp] at hdec
    simp only [hp] at hdec
    split at hdec
    · cases hdec
    rename_i hlen
    cases hdec
    obtain ⟨rest, rfl⟩ := parseHandshakeHeader_ok.mp hp
    set b := handshakeHeader msgServerHello id ++ rest with hb
    simp only [serverHelloLen, sessionIDSize, x25519PubSize, signatureSize, assignedIPv4Size,
      ne_eq, not_not] at hlen ⊢
    have hip : (ByteArrayN.copy 4 (b.drop 118)).1 = b.drop 118 :=
      ByteArrayN.copy_val (by rw [List.length_drop]; omega)
    have hhead : handshakeHeader msgServerHello id = b.slice 0 22 := by
      rw [hb, List.slice_zero]
      exact (List.take_left' (by simp [sessionIDSize])).symm
    have heph : (b.slice 22 54).length = 32 := by rw [List.length_slice]; omega
    have hsig : (b.slice 54 118).length = 64 := by rw [List.length_slice]; omega
    rw [encodeServerHello, if_neg (by simp only [x25519PubSize, signatureSize, heph, hsig]; simp)]
    simp only [Except.ok.injEq]
    rw [hip, hhead, List.slice_append_slice _ (by omega) (by omega),
      List.slice_append_slice _ (by omega) (by omega), List.slice_append_drop _ (by omega)]
    rfl
  · intro henc
    simp only [encodeServerHello] at henc
    split at henc
    · cases henc
    rename_i hsizes
    cases henc
    push Not at hsizes
    obtain ⟨id, eph, sig, ip⟩ := h
    simp only at hsizes
    obtain ⟨heph, hsig⟩ := hsizes
    have hhead := length_handshakeHeader msgServerHello id
    set head := handshakeHeader msgServerHello id with hhd
    have hlen : (head ++ eph ++ sig ++ ip.1).length = serverHelloLen := by
      simp only [List.length_append, hhead, heph, hsig, ByteArrayN.length_val, serverHelloLen]
    have hp : parseHandshakeHeader (head ++ eph ++ sig ++ ip.1) msgServerHello = .ok id :=
      parseHandshakeHeader_ok.mpr ⟨eph ++ sig ++ ip.1, by simp [hhd]⟩
    have hfeph : (head ++ eph ++ sig ++ ip.1).slice (6 + sessionIDSize)
        (6 + sessionIDSize + x25519PubSize) = eph := by
      rw [show head ++ eph ++ sig ++ ip.1 = head ++ (eph ++ (sig ++ ip.1)) by simp]
      exact List.slice_mid hhead (by rw [heph])
    have hfsig : (head ++ eph ++ sig ++ ip.1).slice (6 + sessionIDSize + x25519PubSize)
        (6 + sessionIDSize + x25519PubSize + signatureSize) = sig := by
      rw [show head ++ eph ++ sig ++ ip.1 = (head ++ eph) ++ (sig ++ ip.1) by simp]
      exact List.slice_mid (by rw [List.length_append, hhead, heph]) (by rw [hsig])
    have hfip : (head ++ eph ++ sig ++ ip.1).drop
        (6 + sessionIDSize + x25519PubSize + signatureSize) = ip.1 :=
      List.drop_left' (by simp only [List.length_append, hhead, heph, hsig])
    rw [decodeServerHello, hp]
    simp only [hlen, hfeph, hfsig, hfip, ne_eq, not_true_eq_false, if_false, ByteArrayN.copy_self]

/-! ## The client's side -/

/-- `randomSessionID`, of the random bytes drawn: the lowest bit of the first byte is set. -/
def randomSessionID (random : SessionID) : SessionID :=
  ⟨random.1.modifyHead (· ||| 1), by rw [List.length_modifyHead]; exact random.2⟩

lemma randomSessionID_isZero (random : SessionID) : (randomSessionID random).isZero = false := by
  obtain ⟨b, hb⟩ := random
  cases b with
  | nil => simp [sessionIDSize] at hb
  | cons x xs =>
    have hx : x ||| 1 ≠ 0 := by
      intro h
      have hbit := congrArg (fun y : UInt8 => y.toBitVec.getLsbD 0) h
      simp at hbit
    simp [randomSessionID, SessionID.isZero, hx]

/-- `ClientHandshake`: what the client keeps between its `ClientHello` and the answer. -/
structure ClientHandshake where
  sessionID : SessionID
  ephemeralPriv : Bytes
  gatewayIdentity : Bytes

/-- `BeginClientHandshake`, with the random bytes it draws and the clock it reads. -/
def beginClientHandshake (C : Crypto) (gatewayIdentity token : Bytes)
    (random : Except GoError SessionID) (seed : KeySeed) (unixNow : Int64) :
    Except GoError (Bytes × ClientHandshake) :=
  if gatewayIdentity.length ≠ publicKeySize then .error errBadIdentityKey
  else match random with
    | .error e => .error e
    | .ok random =>
      let id := randomSessionID random
      match generateKeyPair C seed with
      | .error e => .error e
      | .ok (priv, pub) =>
        match encodeClientHello ⟨id, unixNow, pub, token⟩ with
        | .error e => .error e
        | .ok hello => .ok (hello, ⟨id, priv, gatewayIdentity⟩)

/-- What `BeginClientHandshake` returns. -/
lemma beginClientHandshake_ok {C : Crypto} {gatewayIdentity token hello : Bytes}
    {random : Except GoError SessionID} {seed : KeySeed} {unixNow : Int64} {hs : ClientHandshake}
    (h : beginClientHandshake C gatewayIdentity token random seed unixNow = .ok (hello, hs)) :
    hs.sessionID.isZero = false ∧ hs.gatewayIdentity = gatewayIdentity ∧
      (∃ r, random = .ok r ∧ hs.sessionID = randomSessionID r) ∧
      (∃ priv : ByteArrayN x25519PrivSize, seed = .ok priv ∧ hs.ephemeralPriv = priv.1) ∧
      encodeClientHello ⟨hs.sessionID, unixNow, C.publicKey hs.ephemeralPriv, token⟩
        = .ok hello := by
  simp only [beginClientHandshake] at h
  split at h
  · cases h
  rcases random with e | random
  · cases h
  rcases seed with e | priv
  · cases h
  simp only [generateKeyPair] at h
  split at h
  · cases h
  rename_i out henc
  simp only [Except.ok.injEq, Prod.mk.injEq] at h
  obtain ⟨rfl, rfl⟩ := h
  exact ⟨randomSessionID_isZero random, rfl, ⟨random, rfl, rfl⟩, ⟨priv, rfl, rfl⟩, henc⟩

/-- `ClientHandshake.Complete`. -/
def ClientHandshake.complete (C : Crypto) (hs : ClientHandshake) (serverHello : Bytes)
    (dedupCapacity : ℤ) : Except GoError Session :=
  match decodeServerHello serverHello with
  | .error e => .error e
  | .ok ⟨id, gatewayEph, sig, assignedIPv4⟩ =>
    if id ≠ hs.sessionID then .error errHandshakeField
    else match verifyHandshake C hs.gatewayIdentity gatewayEph sig id with
      | .error e => .error e
      | .ok () =>
        match deriveSessionKey C hs.ephemeralPriv gatewayEph id with
        | .error e => .error e
        | .ok key =>
          match newSession id key .initiator dedupCapacity with
          | .error e => .error e
          | .ok session => .ok { session with assignedIPv4 := assignedIPv4 }

/-- What `Complete` returns. -/
lemma ClientHandshake.complete_ok {C : Crypto} {hs : ClientHandshake} {serverHello : Bytes}
    {dedupCapacity : ℤ} {s : Session} (h : hs.complete C serverHello dedupCapacity = .ok s) :
    ∃ sh : ServerHello, decodeServerHello serverHello = .ok sh ∧ sh.id = hs.sessionID ∧
      verifyHandshake C hs.gatewayIdentity sh.ephemeralPub sh.sig sh.id = .ok () ∧
      deriveSessionKey C hs.ephemeralPriv sh.ephemeralPub sh.id = .ok s.key.1 ∧
      s.assignedIPv4 = sh.assignedIPv4 ∧ s.id = hs.sessionID ∧ s.id.isZero = false ∧
      s.role = .initiator ∧ s.next = 0 := by
  simp only [ClientHandshake.complete] at h
  rcases hdec : decodeServerHello serverHello with e | ⟨id, eph, sig, ip⟩
  · simp [hdec] at h
  simp only [hdec] at h
  split at h
  · cases h
  rename_i hid
  simp only [ne_eq, not_not] at hid
  split at h
  · cases h
  rename_i hver
  split at h
  · cases h
  rename_i key hkey
  split at h
  · cases h
  rename_i session hnew
  simp only [Except.ok.injEq] at h
  subst h
  obtain ⟨hz, hsid, hrole, hskey, hnext, -⟩ := newSession_ok hnew
  exact ⟨⟨id, eph, sig, ip⟩, rfl, hid, hver, hskey ▸ hkey, rfl, hsid.trans hid,
    hsid ▸ hz, hrole, hnext⟩

/-! ## Messages for examples

The clients draw an ephemeral key of twos, and the gateway's identity is a key of sevens. -/

/-- The session id that has sixteen times the byte `n`. -/
def sampleClient (n : UInt8) : SessionID := ByteArrayN.copy _ (List.replicate 16 n)

/-- The session id of the client in most examples. -/
def sampleID : SessionID := sampleClient 1

/-- The hello of a client at a time after the epoch. -/
def helloStamped (n : UInt8) (ts : Int64) : Bytes :=
  handshakeHeader msgClientHello (sampleClient n) ++ putUint64 ts.toUInt64 ++ List.replicate 32 2
    ++ putUint16 0

/-- The hello of a client at time zero. -/
def helloFrom (n : UInt8) : Bytes := helloStamped n 0

/-- The gateway's answer to the client, with an ephemeral key of `n`s and an address. -/
def helloWith (n : UInt8) (assignedIPv4 : ByteArrayN assignedIPv4Size) : Bytes :=
  handshakeHeader msgServerHello sampleID ++ List.replicate 32 n
    ++ signHandshake sumCrypto (List.replicate 32 7) (List.replicate 32 n) sampleID
    ++ assignedIPv4.1

end Gemina
