/-
# Admission

The store of the keys of admitted sessions and the gateway's side of the handshake
(`admission.go` of `internal/gateway`).  A handshake is admitted only after the entitlement
service agrees, the session id is new and, with the exit path on, an address was leased.
-/
import Gemina.Entitlement
import Gemina.Exit.Netip

namespace Gemina

def errSessionReused : GoError := ⟨"session id already admitted"⟩
def errLeaseFailed : GoError := ⟨"tunnel ip lease failed"⟩
def errLeaseInvalid : GoError := ⟨"leased address is not ipv4"⟩

/-! ## The session store -/

/-- `SessionStore`, without its mutex. -/
structure SessionStore where
  keys : SessionID → Option Bytes

namespace SessionStore

/-- `NewSessionStore`. -/
def new : SessionStore := ⟨fun _ => none⟩

/-- `SessionStore.SessionKey`. -/
def sessionKey (s : SessionStore) (id : SessionID) : Option Bytes := s.keys id

/-- `SessionStore.register`: whether the id was free. -/
def register (s : SessionStore) (id : SessionID) (key : Bytes) : Bool × SessionStore :=
  match s.keys id with
  | some _ => (false, s)
  | none => (true, ⟨Function.update s.keys id (some key)⟩)

/-- `SessionStore.Forget`. -/
def forget (s : SessionStore) (id : SessionID) : SessionStore := ⟨Function.update s.keys id none⟩

variable {s : SessionStore} {id : SessionID} {key : Bytes}

lemma register_of_some {k : Bytes} (h : s.keys id = some k) : s.register id key = (false, s) := by
  simp [register, h]

lemma register_of_none (h : s.keys id = none) :
    s.register id key = (true, ⟨Function.update s.keys id (some key)⟩) := by
  simp [register, h]

/-- Forgetting a key that was just registered restores the store. -/
lemma forget_register (h : s.keys id = none) : (s.register id key).2.forget id = s := by
  obtain ⟨keys⟩ := s
  simp only [register_of_none h, forget, Function.update_idem, mk.injEq]
  exact Function.update_eq_self_iff.mpr h.symm

end SessionStore

/-! ## The admitter -/

/-- `Admitter`, as far as it is configuration: its store and its leaser have state. -/
structure Admitter where
  service : Service
  tolerance : ℤ

/-- `NewAdmitter`. -/
def newAdmitter (service : Service) : Admitter := ⟨service, defaultHandshakeTolerance⟩

/-- The admitter of a gateway in open mode, for examples. -/
def openAdmitter : Admitter := newAdmitter ⟨.modeOpen, []⟩

/-- A leaser over a state of type `L`, as `SetLeaser` takes it. -/
abbrev Leaser (L : Type) : Type := L → SessionID → Except GoError Addr × L

namespace Admitter

/-- `Admitter.Admit`. -/
def admitSession (T : TokenLib) (a : Admitter) (store : SessionStore) (now : ℤ) (token : Bytes)
    (id : SessionID) (key : Bytes) : Except GoError Claims × SessionStore :=
  match a.service.admitToken T token now with
  | .error e => (.error e, store)
  | .ok claims =>
    match store.register id key with
    | (false, store) => (.error errSessionReused, store)
    | (true, store) => (.ok claims, store)

/-- What `Handshake` knows before it asks for admission. -/
structure Keyed where
  id : SessionID
  token : Bytes
  key : Bytes
  gatewayEphPub : Bytes

/-- The part of `Handshake` before admission: decode the `ClientHello`, check that it is
fresh, draw an ephemeral key and derive the session key. -/
def handshakeKey (C : Crypto) (a : Admitter) (now : ℤ) (seed : KeySeed) (clientHello : Bytes) :
    Except GoError Keyed :=
  match decodeClientHello clientHello with
  | .error e => .error e
  | .ok ⟨id, timestamp, clientEph, token⟩ =>
    match checkHandshakeFresh timestamp now a.tolerance with
    | .error e => .error e
    | .ok () =>
      match generateKeyPair C seed with
      | .error e => .error e
      | .ok (gatewayEphPriv, gatewayEphPub) =>
        match deriveSessionKey C gatewayEphPriv clientEph id with
        | .error e => .error e
        | .ok key => .ok ⟨id, token, key, gatewayEphPub⟩

/-- The lease step of `Handshake`: the address for the `ServerHello` and for the caller. -/
def assign {L : Type} (leaser : Option (Leaser L)) (l : L) (id : SessionID) :
    Except GoError (ByteArrayN assignedIPv4Size × Addr) × L :=
  match leaser with
  | none => (.ok (ByteArrayN.zero _, .invalid), l)
  | some lease =>
    match lease l id with
    | (.error e, l) => (.error (errLeaseFailed.wrap e), l)
    | (.ok addr, l) =>
      if !addr.is4 then (.error (errLeaseFailed.wrap errLeaseInvalid), l)
      else (.ok (addr.as4, addr), l)

/-- What `Handshake` returns without an error. -/
structure Answer where
  serverHello : Bytes
  claims : Claims
  id : SessionID
  tunnelIP : Addr

/-- `Admitter.Handshake`, with the ephemeral key it draws and the clocks it reads: the admitter's
own, `now`, and later that of the entitlement service, `tokenNow`. -/
def handshake {L : Type} (C : Crypto) (T : TokenLib) (a : Admitter) (leaser : Option (Leaser L))
    (identityPriv : Bytes) (store : SessionStore) (l : L) (now tokenNow : ℤ) (seed : KeySeed)
    (clientHello : Bytes) : Except GoError Answer × SessionStore × L :=
  match a.handshakeKey C now seed clientHello with
  | .error e => (.error e, store, l)
  | .ok k =>
    match a.admitSession T store tokenNow k.token k.id k.key with
    | (.error e, store) => (.error e, store, l)
    | (.ok claims, store) =>
      match assign leaser l k.id with
      | (.error e, l) => (.error e, store.forget k.id, l)
      | (.ok (assignedIPv4, tunnelIP), l) =>
        let sig := signHandshake C identityPriv k.gatewayEphPub k.id
        match encodeServerHello ⟨k.id, k.gatewayEphPub, sig, assignedIPv4⟩ with
        | .error e => (.error e, store.forget k.id, l)
        | .ok serverHello => (.ok ⟨serverHello, claims, k.id, tunnelIP⟩, store, l)

/-! ## What a handshake does -/

variable {C : Crypto} {T : TokenLib} {a : Admitter} {store : SessionStore} {now : ℤ}
  {token key identityPriv clientHello : Bytes} {id : SessionID} {seed : KeySeed}

/-- `Admit` registers the key of a new id, or it leaves the store alone. -/
lemma admitSession_cases (T : TokenLib) (a : Admitter) (store : SessionStore) (now : ℤ)
    (token : Bytes) (id : SessionID) (key : Bytes) :
    (∃ e, a.admitSession T store now token id key = (.error e, store)) ∨
    (∃ claims, store.keys id = none ∧ a.service.admitToken T token now = .ok claims ∧
      a.admitSession T store now token id key =
        (.ok claims, ⟨Function.update store.keys id (some key)⟩)) := by
  rcases hs : a.service.admitToken T token now with e | claims
  · exact Or.inl ⟨e, by simp [admitSession, hs]⟩
  · rcases hk : store.keys id with _ | k
    · exact Or.inr ⟨claims, rfl, rfl,
        by simp [admitSession, hs, SessionStore.register_of_none hk]⟩
    · exact Or.inl ⟨errSessionReused, by simp [admitSession, hs, SessionStore.register_of_some hk]⟩

/-- The section of `Handshake` that registers a key: it reads the hello, derives the key and admits
the client. -/
inductive RegistersKey (C : Crypto) (T : TokenLib) (a : Admitter) (store : SessionStore) :
    ClientHello → Keyed → SessionStore → Prop
  | intro {now : ℤ} (tokenNow : ℤ) {seed : KeySeed} {clientHello : Bytes} {hello : ClientHello}
      {k : Keyed} {claims : Claims} {store' : SessionStore}
      (hhello : decodeClientHello clientHello = .ok hello)
      (hkeyed : a.handshakeKey C now seed clientHello = .ok k)
      (hadm : a.admitSession T store tokenNow k.token k.id k.key = (.ok claims, store')) :
      RegistersKey C T a store hello k store'

/-- What the first part of a handshake establishes. -/
lemma handshakeKey_ok {k : Keyed} (h : a.handshakeKey C now seed clientHello = .ok k) :
    ∃ hello priv, decodeClientHello clientHello = .ok hello ∧ seed = .ok priv ∧
      hello.id = k.id ∧ hello.token = k.token ∧ k.gatewayEphPub = C.publicKey priv.1 ∧
      deriveSessionKey C priv.1 hello.ephemeralPub k.id = .ok k.key := by
  simp only [handshakeKey] at h
  rcases hdec : decodeClientHello clientHello with e | ⟨id, timestamp, clientEph, token⟩
  · simp [hdec] at h
  simp only [hdec] at h
  split at h
  · cases h
  rcases seed with e | priv
  · simp [generateKeyPair] at h
  simp only [generateKeyPair] at h
  split at h
  · cases h
  rename_i key hkey
  simp only [Except.ok.injEq] at h
  subst h
  exact ⟨_, priv, rfl, rfl, rfl, rfl, rfl, hkey⟩

/-- **The outcomes of a handshake.**  It is refused before the lease and changes nothing; it
is refused by the leaser and the store is as before; or it registers one key under an id that
had none. -/
lemma handshake_cases {L : Type} (hC : C.Lawful) (T : TokenLib) (a : Admitter)
    (leaser : Option (Leaser L)) (identityPriv : Bytes) (store : SessionStore) (l : L)
    (now tokenNow : ℤ) (seed : KeySeed) (clientHello : Bytes) :
    (∃ e, a.handshake C T leaser identityPriv store l now tokenNow seed clientHello
      = (.error e, store, l)) ∨
    (∃ k e, a.handshakeKey C now seed clientHello = .ok k ∧ store.keys k.id = none ∧
      (assign leaser l k.id).1 = .error e ∧
      a.handshake C T leaser identityPriv store l now tokenNow seed clientHello
        = (.error e, store, (assign leaser l k.id).2)) ∨
    (∃ k claims ip serverHello, a.handshakeKey C now seed clientHello = .ok k ∧
      a.service.admitToken T k.token tokenNow = .ok claims ∧ store.keys k.id = none ∧
      (assign leaser l k.id).1 = .ok ip ∧
      encodeServerHello ⟨k.id, k.gatewayEphPub, signHandshake C identityPriv k.gatewayEphPub k.id,
        ip.1⟩ = .ok serverHello ∧
      a.handshake C T leaser identityPriv store l now tokenNow seed clientHello
        = (.ok ⟨serverHello, claims, k.id, ip.2⟩,
          ⟨Function.update store.keys k.id (some k.key)⟩, (assign leaser l k.id).2)) := by
  rcases hk : a.handshakeKey C now seed clientHello with e | k
  · exact Or.inl ⟨e, by simp [handshake, hk]⟩
  rcases a.admitSession_cases T store tokenNow k.token k.id k.key with
    ⟨e, hadm⟩ | ⟨claims, hnone, hs, hadm⟩
  · exact Or.inl ⟨e, by simp [handshake, hk, hadm]⟩
  have hforget : SessionStore.forget ⟨Function.update store.keys k.id (some k.key)⟩ k.id
      = store := by
    have h := @SessionStore.forget_register store k.id k.key hnone
    rwa [SessionStore.register_of_none hnone] at h
  rcases hass : assign leaser l k.id with ⟨e | ⟨ip, tunnelIP⟩, l'⟩
  · exact Or.inr (Or.inl ⟨k, e, rfl, hnone, by rw [hass],
      by simp [handshake, hk, hadm, hass, hforget]⟩)
  · -- the answer has fields of the right sizes, so it can be encoded
    obtain ⟨hello, priv, -, -, -, -, hpub, -⟩ := handshakeKey_ok hk
    have hlen : k.gatewayEphPub.length = x25519PubSize := by
      rw [hpub]
      exact hC.length_publicKey _
    have henc : encodeServerHello ⟨k.id, k.gatewayEphPub,
        signHandshake C identityPriv k.gatewayEphPub k.id, ip⟩ = .ok
          (handshakeHeader msgServerHello k.id ++ k.gatewayEphPub
            ++ signHandshake C identityPriv k.gatewayEphPub k.id ++ ip.1) := by
      simp [encodeServerHello, hlen, signHandshake, hC.length_sign]
    exact Or.inr (Or.inr ⟨k, claims, (ip, tunnelIP), _, rfl, hs, hnone, by rw [hass], henc,
      by simp [handshake, hk, hadm, hass, henc]⟩)

/-- The key that is registered is new, and derived from the gateway's ephemeral key and the one in
the hello. -/
lemma RegistersKey.spec {hello : ClientHello} {k : Keyed} {store' : SessionStore}
    (h : RegistersKey C T a store hello k store') :
    store.keys k.id = none ∧ store'.keys = Function.update store.keys k.id (some k.key) ∧
      ∃ priv : ByteArrayN x25519PrivSize, k.gatewayEphPub = C.publicKey priv.1 ∧
        deriveSessionKey C priv.1 hello.ephemeralPub k.id = .ok k.key := by
  obtain @⟨now, tokenNow, seed, clientHello, hello, k, claims, store', hhello, hkeyed, hadm⟩ := h
  obtain ⟨hello', priv, hdec, -, -, -, hpub, hkey⟩ := handshakeKey_ok hkeyed
  rw [hhello, Except.ok.injEq] at hdec
  subst hdec
  rcases a.admitSession_cases T store tokenNow k.token k.id k.key with
    ⟨e, heq⟩ | ⟨_, hnone, -, heq⟩
  · rw [heq] at hadm
    cases hadm
  · rw [heq, Prod.mk.injEq] at hadm
    exact ⟨hnone, by rw [← hadm.2], priv, hpub, hkey⟩

/-- **The sections of a handshake**, for any leaser: it is refused before it registers a key; it
registers one and takes it back; or it registers one and answers. -/
lemma handshake_sections {L : Type} (C : Crypto) (T : TokenLib) (a : Admitter)
    (leaser : Option (Leaser L)) (identityPriv : Bytes) (store : SessionStore) (l : L)
    (now tokenNow : ℤ) (seed : KeySeed) (clientHello : Bytes) :
    (∃ e l', a.handshake C T leaser identityPriv store l now tokenNow seed clientHello
      = (.error e, store, l')) ∨
    ∃ hello k store', RegistersKey C T a store hello k store' ∧
      ((∃ e l', a.handshake C T leaser identityPriv store l now tokenNow seed clientHello
        = (.error e, store'.forget k.id, l')) ∨
      ∃ serverHello claims ip l', a.handshake C T leaser identityPriv store l now tokenNow seed
        clientHello = (.ok ⟨serverHello, claims, k.id, ip⟩, store', l')) := by
  rcases hk : a.handshakeKey C now seed clientHello with e | k
  · exact Or.inl ⟨e, l, by simp [handshake, hk]⟩
  rcases hadm : a.admitSession T store tokenNow k.token k.id k.key with ⟨e | claims, store'⟩
  · rcases a.admitSession_cases T store tokenNow k.token k.id k.key with
      ⟨e', heq⟩ | ⟨_, -, -, heq⟩
    · rw [heq, Prod.mk.injEq] at hadm
      exact Or.inl ⟨e', l, by simp [handshake, hk, heq]⟩
    · rw [heq] at hadm
      cases hadm
  obtain ⟨hello, -, hdec, -⟩ := handshakeKey_ok hk
  refine Or.inr ⟨hello, k, store', .intro tokenNow hdec hk hadm, ?_⟩
  rcases hass : assign leaser l k.id with ⟨e | ⟨ip, tunnelIP⟩, l'⟩
  · exact Or.inl ⟨e, l', by simp [handshake, hk, hadm, hass]⟩
  rcases henc : encodeServerHello ⟨k.id, k.gatewayEphPub,
      signHandshake C identityPriv k.gatewayEphPub k.id, ip⟩ with e | serverHello
  · exact Or.inl ⟨e, l', by simp [handshake, hk, hadm, hass, henc]⟩
  · exact Or.inr ⟨serverHello, claims, tunnelIP, l', by simp [handshake, hk, hadm, hass, henc]⟩

end Admitter
end Gemina
