/-
# Sessions do not interfere

What the receive loop does for one session, and what it answers to hellos, does not depend on
the datagrams that it rejects nor on the data of the other sessions: deleting them from the
input changes nothing.

The proof relates the whole run to the run after the deletion.  The two gateways keep the same
keys and leases, and for the session in question the same current session and the same recorded
endpoints.  They need not have built the same sessions: a rejected datagram may already have
made the data plane build one.
-/
import Gemina.Gateway.Traffic

namespace Gemina

/-! ## Handshakes depend on the leases only through the allocator -/

/-- The router leases as its allocator does. -/
lemma Admitter.handshake_router (C : Crypto) (T : TokenLib) (a : Admitter) (identityPriv : Bytes)
    (store : SessionStore) (r : Router) (now tokenNow : ℤ) (seed : KeySeed) (hello : Bytes) :
    a.handshake C T (some Router.lease) identityPriv store r now tokenNow seed hello =
      match a.handshake C T (some Allocator.allocate) identityPriv store r.alloc now tokenNow seed
        hello with
      | (answer, store, alloc) => (answer, store, { r with alloc := alloc }) := by
  simp only [handshake, assign, Router.lease]
  rcases a.handshakeKey C now seed hello with e | k
  · rfl
  simp only
  rcases a.admitSession T store tokenNow k.token k.id k.key with ⟨e | claims, store'⟩
  · rfl
  simp only
  rcases r.alloc.allocate k.id with ⟨e | addr, alloc⟩
  · rfl
  simp only
  by_cases his4 : addr.is4 = true
  · simp only [his4, Bool.not_true, Bool.false_eq_true, if_false]
    rcases encodeServerHello ⟨k.id, k.gatewayEphPub,
      signHandshake C identityPriv k.gatewayEphPub k.id, addr.as4⟩ with e | sh <;> rfl
  · simp [his4]

namespace DataPlane

variable {resolver : KeyResolver} {d d' : DataPlane} {id : SessionID}

/-- Registering a key for a new id: the current session of `s` is determined as before. -/
lemma current_register {key : Bytes} (ha : Agrees resolver d) (ha' : Agrees resolver d')
    (hcap : d'.capacity = d.capacity) (hnone : resolver id = none) {s : SessionID}
    (h : d'.current resolver s = d.current resolver s) :
    d'.current (Function.update resolver id (some key)) s
      = d.current (Function.update resolver id (some key)) s := by
  by_cases hs : s = id
  · subst hs
    have hkept : ∀ d : DataPlane, Agrees resolver d → d.sessions s = none := by
      intro d ha
      rcases hd : d.sessions s with _ | session
      · rfl
      · have hkey := (ha s session hd).key
        rw [hnone] at hkey
        cases hkey
    simp [current, hkept d ha, hkept d' ha', hcap]
  · simpa [current, hs] using h

end DataPlane

namespace DataGateway

variable {C : Crypto} {T : TokenLib} {E : Cipher} {s : SessionID} {g g' : DataGateway}

/-- The exit paths have the same leases and, for `s`, the same endpoints. -/
inductive AlikeExit (s : SessionID) : Option Router → Option Router → Prop
  | off : AlikeExit s none none
  | on {r r' : Router} (halloc : r'.alloc = r.alloc)
      (hpaths : r'.paths.paths s = r.paths.paths s) : AlikeExit s (some r) (some r')

/-- The two gateways answer hellos alike, and treat the session `s` alike. -/
structure Alike (s : SessionID) (g g' : DataGateway) : Prop where
  sound : g.Sound
  sound' : g'.Sound
  identityPriv : g'.identityPriv = g.identityPriv
  admitter : g'.admitter = g.admitter
  store : g'.store = g.store
  capacity : g'.dataPlane.capacity = g.dataPlane.capacity
  current : g'.dataPlane.current g.store.keys s = g.dataPlane.current g.store.keys s
  exit : AlikeExit s g.exit g'.exit

/-! ## Hellos -/

/-- The store after a hello: as before, or with one key for a new id. -/
def Registers (store store' : SessionStore) : Prop :=
  store' = store ∨
    ∃ id key, store.keys id = none ∧ store' = ⟨Function.update store.keys id (some key)⟩

/-- A handshake registers at most one key. -/
lemma registers_handshake {L : Type} (hC : C.Lawful) (T : TokenLib) (a : Admitter)
    (leaser : Option (Leaser L)) (identityPriv : Bytes) (store : SessionStore) (l : L)
    (now tokenNow : ℤ) (seed : KeySeed) (hello : Bytes) :
    Registers store (a.handshake C T leaser identityPriv store l now tokenNow seed hello).2.1 := by
  rcases Admitter.handshake_cases hC T a leaser identityPriv store l now tokenNow seed hello with
    ⟨e, heq⟩ | ⟨k, e, -, -, -, heq⟩ | ⟨k, claims, ip, sh, -, -, hnone, -, -, heq⟩
  · exact Or.inl (by rw [heq])
  · exact Or.inl (by rw [heq])
  · exact Or.inr ⟨k.id, k.key, hnone, by rw [heq]⟩

/-- Registering the same key on both sides keeps the gateways alike. -/
lemma Alike.registered (h : Alike s g g') {store : SessionStore} {ex ex' : Option Router}
    (hreg : Registers g.store store) (hexit : AlikeExit s ex ex')
    (hsound : ({ g with store := store, exit := ex } : DataGateway).Sound)
    (hsound' : ({ g' with store := store, exit := ex' } : DataGateway).Sound) :
    Alike s { g with store := store, exit := ex } { g' with store := store, exit := ex' } := by
  refine ⟨hsound, hsound', h.identityPriv, h.admitter, rfl, h.capacity, ?_, hexit⟩
  rcases hreg with rfl | ⟨id, key, hnone, rfl⟩
  · exact h.current
  · exact DataPlane.current_register h.sound.sessions (h.store ▸ h.sound'.sessions) h.capacity hnone
      h.current

/-- Two gateways that are alike answer a hello alike. -/
lemma Alike.admitHello (h : Alike s g g') (hC : C.Lawful) (T : TokenLib) (amb : Ambient)
    (hello : Bytes) (hsound : (g.admitHello C T amb hello).2.Sound)
    (hsound' : (g'.admitHello C T amb hello).2.Sound) :
    (g'.admitHello C T amb hello).1 = (g.admitHello C T amb hello).1 ∧
      Alike s (g.admitHello C T amb hello).2 (g'.admitHello C T amb hello).2 := by
  obtain ⟨priv, adm, store, d, ex⟩ := g
  obtain ⟨priv', adm', store', d', ex'⟩ := g'
  obtain rfl : priv' = priv := h.identityPriv
  obtain rfl : adm' = adm := h.admitter
  obtain rfl : store' = store := h.store
  have hex : AlikeExit s ex ex' := h.exit
  cases hex with
  | off =>
    exact ⟨rfl, h.registered (registers_handshake hC T adm' (none : Option (Leaser Unit)) priv'
      store' () amb.now amb.tokenNow amb.seed hello) .off hsound hsound'⟩
  | @on r r' halloc hpaths =>
    simp only [DataGateway.admitHello, Admitter.handshake_router, halloc, true_and]
      at hsound hsound' ⊢
    exact h.registered (registers_handshake hC T adm' (some Allocator.allocate) priv' store' r.alloc
      amb.now amb.tokenNow amb.seed hello) (.on rfl hpaths) hsound hsound'

/-- Hence `HandleDatagram` answers a hello alike. -/
lemma Alike.handleHandshake (h : Alike s g g') (hC : C.Lawful) (T : TokenLib) (amb : Ambient)
    (hello : Bytes) (hsound : (g.handleHandshake C T amb hello).2.2.Sound)
    (hsound' : (g'.handleHandshake C T amb hello).2.2.Sound) :
    (g'.handleHandshake C T amb hello).1 = (g.handleHandshake C T amb hello).1 ∧
      (g'.handleHandshake C T amb hello).2.1 = (g.handleHandshake C T amb hello).2.1 ∧
      Alike s (g.handleHandshake C T amb hello).2.2 (g'.handleHandshake C T amb hello).2.2 := by
  have hst : ∀ g : DataGateway, (g.handleHandshake C T amb hello).2.2
      = (g.admitHello C T amb hello).2 := by
    intro g
    rw [DataGateway.handleHandshake]
    rcases g.admitHello C T amb hello with ⟨e | answer, g⟩ <;> rfl
  rw [hst] at hsound hsound'
  obtain ⟨hans, halike⟩ := h.admitHello hC T amb hello hsound hsound'
  rw [hst, hst]
  refine ⟨?_, ?_, halike⟩
  all_goals
    simp only [DataGateway.handleHandshake]
    rcases hg : g.admitHello C T amb hello with ⟨e | answer, g₁⟩ <;>
      rcases hg' : g'.admitHello C T amb hello with ⟨e' | answer', g₁'⟩ <;> simp_all

/-! ## Being alike is an equivalence -/

lemma AlikeExit.refl (s : SessionID) (ex : Option Router) : AlikeExit s ex ex := by
  cases ex with
  | none => exact .off
  | some r => exact .on rfl rfl

lemma AlikeExit.symm {ex ex' : Option Router} (h : AlikeExit s ex ex') : AlikeExit s ex' ex := by
  cases h with
  | off => exact .off
  | on halloc hpaths => exact .on halloc.symm hpaths.symm

lemma AlikeExit.trans {ex ex' ex'' : Option Router} (h : AlikeExit s ex ex')
    (h' : AlikeExit s ex' ex'') : AlikeExit s ex ex'' := by
  cases h with
  | off => exact h'
  | on halloc hpaths =>
    cases h' with
    | on halloc' hpaths' => exact .on (halloc'.trans halloc) (hpaths'.trans hpaths)

lemma Alike.refl (s : SessionID) (hg : g.Sound) : Alike s g g :=
  ⟨hg, hg, rfl, rfl, rfl, rfl, rfl, .refl s _⟩

lemma Alike.symm (h : Alike s g g') : Alike s g' g :=
  ⟨h.sound', h.sound, h.identityPriv.symm, h.admitter.symm, h.store.symm, h.capacity.symm,
    by rw [h.store]; exact h.current.symm, h.exit.symm⟩

lemma Alike.trans {g'' : DataGateway} (h : Alike s g g') (h' : Alike s g' g'') : Alike s g g'' :=
  ⟨h.sound, h'.sound', h'.identityPriv.trans h.identityPriv, h'.admitter.trans h.admitter,
    h'.store.trans h.store, h'.capacity.trans h.capacity,
    by rw [← h.current, ← h.store]; exact h'.current, h.exit.trans h'.exit⟩

/-! ## Steps that do not concern the session -/

/-- A turn that neither admits a session nor accepts data of `s` leaves a gateway that is
alike. -/
lemma alike_serve (hC : C.Lawful) (T : TokenLib) (E : Cipher) (hg : g.Sound) (i : Input)
    (hadm : (g.serve C T E i).1.record.admitted = false)
    (hacc : sessionIDFromDatagram (i.datagram.take bufSize) = .ok s →
      (g.serve C T E i).1.record.sessionID.isZero = true) :
    Alike s g (g.serve C T E i).2 := by
  have hout := serve_outcome hC T E hg i
  have hsound := hg.serve hC T E i
  generalize g.serve C T E i = out at hout hadm hacc hsound
  cases hout with
  | refused => exact .refl s hg
  | other => exact .refl s hg
  | admitted => cases hadm
  | rejected _ h =>
    exact ⟨hg, hsound, rfl, rfl, rfl, h.capacity_eq, h.current_eq s, .refl s _⟩
  | @accepted _ id session payload h =>
    have hne : s ≠ id.session := by
      rintro rfl
      have hz := hacc (by simp [sessionIDFromDatagram, h.header])
      rw [acceptedRecord] at hz
      split at hz <;> simp [h.valid.1] at hz
    refine ⟨hg, hsound, rfl, rfl, rfl, rfl, DataPlane.current_put_of_ne _ _ hne, ?_⟩
    rcases hr : g.exit with _ | r
    · simp only [afterAccepted, hr, Option.map_none]
      exact .off
    · simp only [afterAccepted, hr, Option.map_some]
      refine .on (recordSource_alloc _ _ _ _) ?_
      cases i.src with
      | none => rfl
      | some ap => simp [recordSource, Router.recordPath, PathSet.record, hne]

/-! ## Data of the session -/

/-- Two gateways that are alike handle data of `s` alike. -/
lemma Alike.handleData (h : Alike s g g') {b : Bytes} (hid : sessionIDFromDatagram b = .ok s) :
    (g'.handleData E b).1 = (g.handleData E b).1 ∧
      (g'.handleData E b).2.dataPlane.current g.store.keys s
        = (g.handleData E b).2.dataPlane.current g.store.keys s := by
  have hres : g.store.sessionKey = g.store.keys := rfl
  simp only [DataGateway.handleData, h.store, hres, hid, DataPlane.handleClassified_eq hid,
    h.current]
  rcases hc : g.dataPlane.current g.store.keys s with e | session
  · simp [h.current]
  · rcases hin : session.inboundClassified E b with ⟨e | ⟨payload, dec⟩, session'⟩ <;>
      simp [hin, DataPlane.current_put_self]

/-- Two exit paths that are alike treat a record of `s` alike. -/
lemma forward_alike (hg : AlikeExit s g.exit g'.exit) (i : Input) {rec : DataRecord}
    (hrec : rec.sessionID = s) :
    (g'.forward i none rec).1 = (g.forward i none rec).1 ∧
      AlikeExit s (g.forward i none rec).2.exit (g'.forward i none rec).2.exit := by
  obtain ⟨priv, adm, store, d, ex⟩ := g
  obtain ⟨priv', adm', store', d', ex'⟩ := g'
  cases hg with
  | off => exact ⟨rfl, .off⟩
  | @on r r' halloc hpaths =>
    simp only [forward, hrec]
    split
    · refine ⟨by simp [Router.egress, halloc], .on (by simp [halloc]) ?_⟩
      cases i.src with
      | none => exact hpaths
      | some ap => simp [recordSource, Router.recordPath, PathSet.record, hpaths]
    · exact ⟨rfl, .on halloc hpaths⟩

/-! ## Whole runs -/

/-- The input is a handshake, or a data datagram that carries the session id `s`. -/
def Concerns (s : SessionID) (i : Input) : Prop :=
  classifyDatagram (i.datagram.take bufSize) = .clientHello ∨
    sessionIDFromDatagram (i.datagram.take bufSize) = .ok s

/-- The input was rejected, as a datagram of unknown kind, a refused handshake or a data datagram
that returned an error, or it is a data datagram of another session. -/
def Deletable (s : SessionID) (i : Input) (o : Served) : Prop :=
  o.record.kind = .unknown ∨
  (o.record.kind = .clientHello ∧ o.record.admitted = false) ∨
  (o.record.kind = .data ∧ o.record.sessionID.isZero = true) ∨
  ∃ id, sessionIDFromDatagram (i.datagram.take bufSize) = .ok id ∧ id ≠ s

lemma deletable_iff (s : SessionID) (i : Input) (o : Served) :
    (o.record.kind = .unknown ∨
      (o.record.kind = .clientHello ∧ o.record.admitted = false) ∨
      (o.record.kind = .data ∧ o.record.sessionID.isZero = true) ∨
      (sessionIDFromDatagram (i.datagram.take bufSize)).toOption.any (fun id => decide (id ≠ s))
        = true) ↔ Deletable s i o := by
  cases h : sessionIDFromDatagram (i.datagram.take bufSize) <;>
    simp [Deletable, h, Except.toOption]

instance (s : SessionID) (i : Input) (o : Served) : Decidable (Deletable s i o) :=
  decidable_of_iff _ (deletable_iff s i o)

/-- What carries a data header is not a hello. -/
lemma classifyDatagram_of_sessionID {b : Bytes} {id : SessionID}
    (h : sessionIDFromDatagram b = .ok id) : classifyDatagram b = .data := by
  rcases hp : parseHeader b with e | r
  · simp [sessionIDFromDatagram, hp] at h
  · exact classifyDatagram_of_parseHeader hp

/-- Only a hello is admitted. -/
lemma serve_admitted_of_not_hello (hC : C.Lawful) (T : TokenLib) (E : Cipher) (hg : g.Sound)
    (i : Input) (hkind : classifyDatagram (i.datagram.take bufSize) ≠ .clientHello) :
    (g.serve C T E i).1.record.admitted = false := by
  have hout := serve_outcome hC T E hg i
  generalize g.serve C T E i = out at hout
  cases hout with
  | admitted hk => exact absurd hk hkind
  | accepted => simp only [acceptedRecord]; split <;> rfl
  | refused => rfl
  | rejected => rfl
  | other => rfl

/-- An input that may be deleted leaves a gateway that is alike. -/
lemma alike_of_deletable (hC : C.Lawful) (T : TokenLib) (E : Cipher) (hg : g.Sound) (i : Input)
    (h : Deletable s i (g.serve C T E i).1) : Alike s g (g.serve C T E i).2 := by
  have hquiet : (g.serve C T E i).1.record.admitted = false ∧
      (sessionIDFromDatagram (i.datagram.take bufSize) = .ok s →
        (g.serve C T E i).1.record.sessionID.isZero = true) := by
    have hout := serve_outcome hC T E hg i
    generalize g.serve C T E i = out at hout h
    have hzero : SessionID.isZero (ByteArrayN.zero _) = true := SessionID.isZero_iff.mpr rfl
    cases hout with
    | refused => exact ⟨rfl, fun _ => hzero⟩
    | rejected => exact ⟨rfl, fun _ => hzero⟩
    | other => exact ⟨rfl, fun _ => hzero⟩
    | admitted hk =>
      rcases h with h | h | h | ⟨id, hid, -⟩
      · cases h
      · cases h.2
      · cases h.1
      · rw [classifyDatagram_of_sessionID hid] at hk
        cases hk
    | @accepted _ pid session payload hacc =>
      have hkind : (acceptedRecord pid.session payload
          (session.window.observe pid.number).1).kind = .data := by
        rw [acceptedRecord]
        split <;> rfl
      refine ⟨by simp only [acceptedRecord]; split <;> rfl, fun hid => ?_⟩
      rcases h with h | h | h | ⟨id, hid', hne⟩
      · rw [hkind] at h
        cases h
      · rw [hkind] at h
        cases h.1
      · exact h.2
      · rw [hid] at hid'
        cases hid'
        exact absurd rfl hne
  exact alike_serve hC T E hg i hquiet.1 hquiet.2

/-! ## Steps that concern the session -/

lemma handleHandshake_kind (C : Crypto) (T : TokenLib) (g : DataGateway) (amb : Ambient)
    (b : Bytes) : (g.handleHandshake C T amb b).2.1.kind = .clientHello := by
  simp only [DataGateway.handleHandshake]
  rcases g.admitHello C T amb b with ⟨e | answer, g⟩ <;> rfl

/-- The turn for a hello. -/
lemma serve_hello (C : Crypto) (T : TokenLib) (E : Cipher) (g : DataGateway) {i : Input}
    (hkind : classifyDatagram (i.datagram.take bufSize) = .clientHello) :
    g.serve C T E i =
      (⟨(g.handleHandshake C T i.toAmbient (i.datagram.take bufSize)).1,
        (g.handleHandshake C T i.toAmbient (i.datagram.take bufSize)).2.1, none, none⟩,
        (g.handleHandshake C T i.toAmbient (i.datagram.take bufSize)).2.2) := by
  simp only [DataGateway.serve, handleDatagram, hkind]
  exact forward_of_not _ i _ (Or.inl (by rw [handleHandshake_kind]; decide))

/-- The turn for a data datagram. -/
lemma serve_data (C : Crypto) (T : TokenLib) (E : Cipher) (g : DataGateway) {i : Input}
    (hkind : classifyDatagram (i.datagram.take bufSize) = .data) :
    g.serve C T E i = (g.handleData E (i.datagram.take bufSize)).2.forward i none
      (g.handleData E (i.datagram.take bufSize)).1 := by
  simp only [DataGateway.serve, handleDatagram, hkind]

/-- Data changes the data plane, and nothing else before it is forwarded. -/
lemma handleData_state (E : Cipher) (g : DataGateway) (b : Bytes) :
    (g.handleData E b).2 = { g with dataPlane := (g.handleData E b).2.dataPlane } ∧
      (g.handleData E b).2.dataPlane.capacity = g.dataPlane.capacity := by
  rcases handleData_cases E g b with ⟨d', heq, hsame⟩ | ⟨id, session, payload, -, heq⟩
  · rw [heq]
    exact ⟨rfl, hsame.capacity_eq⟩
  · rw [heq]
    exact ⟨rfl, rfl⟩

/-- The record of data of `s` names `s`, or no session. -/
lemma handleData_sessionID (E : Cipher) (g : DataGateway) {b : Bytes}
    (hid : sessionIDFromDatagram b = .ok s) :
    (g.handleData E b).1.sessionID.isZero = true ∨ (g.handleData E b).1.sessionID = s := by
  rcases handleData_cases E g b with ⟨d', heq, -⟩ | ⟨id, session, payload, hacc, heq⟩
  · rw [heq]
    exact Or.inl (SessionID.isZero_iff.mpr rfl)
  · have hs : id.session = s := by
      simpa [sessionIDFromDatagram, hacc.header] using hid
    rw [heq, hs]
    refine Or.inr ?_
    simp only [acceptedRecord]
    split <;> rfl

/-- Forwarding changes the exit path only. -/
lemma forward_fields (g : DataGateway) (i : Input) (reply : Option Bytes) (rec : DataRecord) :
    (g.forward i reply rec).2.identityPriv = g.identityPriv ∧
      (g.forward i reply rec).2.admitter = g.admitter ∧
      (g.forward i reply rec).2.store = g.store ∧
      (g.forward i reply rec).2.dataPlane = g.dataPlane := by
  obtain ⟨priv, adm, store, d, ex⟩ := g
  simp only [forward]
  cases ex with
  | none => exact ⟨rfl, rfl, rfl, rfl⟩
  | some r =>
    simp only
    split <;> exact ⟨rfl, rfl, rfl, rfl⟩

/-- Two gateways that are alike take a turn for data of `s` alike. -/
lemma Alike.serve_data (h : Alike s g g') (hC : C.Lawful) (T : TokenLib) (E : Cipher) {i : Input}
    (hid : sessionIDFromDatagram (i.datagram.take bufSize) = .ok s) :
    Alike s (g.serve C T E i).2 (g'.serve C T E i).2 ∧
      (g.serve C T E i).1 = (g'.serve C T E i).1 := by
  have hsound := h.sound.serve hC T E i
  have hsound' := h.sound'.serve hC T E i
  have hkind := classifyDatagram_of_sessionID hid
  obtain ⟨hrec, hcur⟩ := h.handleData hid (E := E)
  obtain ⟨hst, hcap⟩ := handleData_state E g (i.datagram.take bufSize)
  obtain ⟨hst', hcap'⟩ := handleData_state E g' (i.datagram.take bufSize)
  have hname := handleData_sessionID E g hid
  rw [DataGateway.serve_data C T E g hkind] at hsound ⊢
  rw [DataGateway.serve_data C T E g' hkind, hrec] at hsound' ⊢
  set g₁ := (g.handleData E (i.datagram.take bufSize)).2
  set g₁' := (g'.handleData E (i.datagram.take bufSize)).2
  set rec := (g.handleData E (i.datagram.take bufSize)).1
  have hexit : AlikeExit s g₁.exit g₁'.exit := by
    rw [hst, hst']
    exact h.exit
  obtain ⟨hout, hexit'⟩ : (g₁'.forward i none rec).1 = (g₁.forward i none rec).1 ∧
      AlikeExit s (g₁.forward i none rec).2.exit (g₁'.forward i none rec).2.exit := by
    rcases hname with hzero | hs
    · rw [forward_of_not g₁ i none (Or.inr hzero), forward_of_not g₁' i none (Or.inr hzero)]
      exact ⟨rfl, hexit⟩
    · exact forward_alike hexit i hs
  -- apart from the data plane and the exit path nothing has changed
  obtain ⟨hpriv, hadm, hstore, hplane⟩ := forward_fields g₁ i none rec
  obtain ⟨hpriv', hadm', hstore', hplane'⟩ := forward_fields g₁' i none rec
  refine ⟨⟨hsound, hsound', ?_, ?_, ?_, ?_, ?_, hexit'⟩, hout.symm⟩
  · rw [hpriv, hpriv', hst, hst']
    exact h.identityPriv
  · rw [hadm, hadm', hst, hst']
    exact h.admitter
  · rw [hstore, hstore', hst, hst']
    exact h.store
  · rw [hplane, hplane', hcap, hcap']
    exact h.capacity
  · have hkeys : (g₁.forward i none rec).2.store = g.store := by rw [hstore, hst]
    rw [hplane, hplane', hkeys]
    exact hcur

/-- A step that both gateways take keeps them alike, and has the same output if it concerns
the session. -/
lemma Alike.serve (h : Alike s g g') (hC : C.Lawful) (T : TokenLib) (E : Cipher) (i : Input) :
    Alike s (g.serve C T E i).2 (g'.serve C T E i).2 ∧
      (Concerns s i → (g.serve C T E i).1 = (g'.serve C T E i).1) := by
  by_cases hhello : classifyDatagram (i.datagram.take bufSize) = .clientHello
  · have hsound := h.sound.serve hC T E i
    have hsound' := h.sound'.serve hC T E i
    rw [serve_hello C T E g hhello] at hsound ⊢
    rw [serve_hello C T E g' hhello] at hsound' ⊢
    obtain ⟨hreply, hrec, halike⟩ := h.handleHandshake hC T i.toAmbient _ hsound hsound'
    exact ⟨halike, fun _ => by rw [hreply, hrec]⟩
  by_cases hid : sessionIDFromDatagram (i.datagram.take bufSize) = .ok s
  · obtain ⟨halike, hout⟩ := h.serve_data hC T E hid
    exact ⟨halike, fun _ => hout⟩
  -- the step concerns neither side
  · have hg := alike_serve hC T E h.sound i
      (serve_admitted_of_not_hello hC T E h.sound i hhello) fun heq => absurd heq hid
    have hg' := alike_serve hC T E h.sound' i
      (serve_admitted_of_not_hello hC T E h.sound' i hhello) fun heq => absurd heq hid
    exact ⟨(hg.symm.trans h).trans hg', fun hcon => (hcon.elim hhello hid).elim⟩

/-- A gateway as it is set up: with the exit path off, or on over a new allocator. -/
inductive IsNew : DataGateway → Prop
  | off (identityPriv : Bytes) (service : Service) (capacity : ℤ) :
      IsNew (newDataGateway identityPriv service capacity)
  | on (identityPriv : Bytes) (service : Service) (capacity ttl : ℤ) {pool : Prefix}
      {a : Allocator} (ha : newAllocator pool = .ok a) :
      IsNew (newExitGateway identityPriv service capacity a ttl)

lemma IsNew.sound (h : IsNew g) : g.Sound := by
  cases h with
  | on identityPriv service capacity ttl ha =>
    exact newExitGateway_sound ha identityPriv service capacity ttl
  | off identityPriv service capacity =>
    refine ⟨?_, ?_, DataPlane.agrees_new _ _⟩
    · intro r hr
      cases hr
    · intro r hr
      cases hr

/-- The endpoints recorded for a session, each with the time it was last seen. -/
def endpoints (g : DataGateway) (s : SessionID) : Option (List PathEntry) :=
  g.exit.map fun r => r.paths.paths s

lemma Alike.endpoints_eq (h : Alike s g g') : g.endpoints s = g'.endpoints s := by
  obtain ⟨priv, adm, store, d, ex⟩ := g
  obtain ⟨priv', adm', store', d', ex'⟩ := g'
  have hexit : AlikeExit s ex ex' := h.exit
  cases hexit with
  | off => rfl
  | on halloc hpaths => simp [endpoints, hpaths]

/-- **Noninterference of the receive loop.**  Mark the inputs of any run of a new gateway, such
that every input without a mark was rejected or is data of another session than `s`.  Then the
run over the marked inputs alone gives, for every handshake and every data datagram of `s`, the
same reply, the same record, the same recorded endpoint and the same write to the TUN device as
the whole run, and at the end the same endpoints are recorded for `s`. -/
theorem noninterference (hC : C.Lawful) (T : TokenLib) (E : Cipher) (hg : IsNew g)
    (s : SessionID) (xs : List (Input × Bool))
    (hdel : ∀ i o, ((i, false), o) ∈ Mealy.trace (Mealy.whole (DataGateway.serve C T E)) g xs →
      Deletable s i o) :
    List.Forall₂ (fun e e' => e.1 = e'.1 ∧ (Concerns s e.1 → e.2 = e'.2))
      (Mealy.keptEvents (Mealy.trace (Mealy.whole (DataGateway.serve C T E)) g xs))
      (Mealy.trace (DataGateway.serve C T E) g (Mealy.kept xs)) ∧
    (Mealy.state (Mealy.whole (DataGateway.serve C T E)) g xs).endpoints s
      = (Mealy.state (DataGateway.serve C T E) g (Mealy.kept xs)).endpoints s := by
  obtain ⟨halike, hevents⟩ := Mealy.deletion (R := Alike s) (D := Deletable s)
    (Q := fun i o o' => Concerns s i → o = o')
    (fun g g' i h => h.serve hC T E i)
    (fun g g' i h hd => (alike_of_deletable hC T E h.sound i hd).symm.trans h)
    xs (Alike.refl s hg.sound) hdel
  exact ⟨hevents, halike.endpoints_eq⟩

open Traffic (sampleAllocator newAllocator_sample sampleEndpoint sampleInput samplePacket
  sampleFrame)

/-- A data datagram that the second client sealed. -/
def secondFrame : Bytes :=
  let header := frameHeader ⟨sampleClient 2, 1⟩ dirInitiator
  header ++ checksumCipher.aeadSeal (List.replicate 32 4) (nonce dirInitiator 1) samplePacket header

/-- Two clients are admitted.  Then come noise, data of the second one, a forgery in the name of the
first one, and data of the first one. -/
def twoClients : List (Input × Bool) :=
  [(sampleInput 0 (helloFrom 1), true), (sampleInput 0 (helloFrom 2), true),
    (sampleInput 1 [1, 2, 3], false), (sampleInput 1 secondFrame, false),
    (sampleInput 1 (sampleFrame 1 ++ [0]), false), (sampleInput 2 (sampleFrame 1), true)]

/-- With the exit path on: the noise, the forgery and the data of the second client, which was
accepted, may be left out.  The first client's packet reaches the TUN device all the same. -/
theorem noninterference_two_clients :
    let serve := DataGateway.serve sumCrypto plainTokenLib checksumCipher
    let g := newExitGateway [1] ⟨.modeOpen, []⟩ 64 sampleAllocator 0
    List.Forall₂ (fun e e' => e.1 = e'.1 ∧ (Concerns sampleID e.1 → e.2 = e'.2))
      (Mealy.keptEvents (Mealy.trace (Mealy.whole serve) g twoClients))
      (Mealy.trace serve g (Mealy.kept twoClients)) ∧
    (Mealy.state (Mealy.whole serve) g twoClients).endpoints sampleID
      = (Mealy.state serve g (Mealy.kept twoClients)).endpoints sampleID ∧
    ((Mealy.state serve g (Mealy.kept twoClients)).endpoints sampleID).map
      (fun entries => entries.map PathEntry.addr) = some [sampleEndpoint] ∧
    (Mealy.trace (Mealy.whole serve) g twoClients).map (fun e => e.2.record.sessionID)
      = [sampleID, sampleClient 2, ByteArrayN.zero _, sampleClient 2, ByteArrayN.zero _, sampleID] ∧
    (Mealy.trace serve g (Mealy.kept twoClients)).map (fun e => e.2.tunWrite)
      = [none, none, some samplePacket] := by
  have hdel : ∀ e ∈ Mealy.trace
      (Mealy.whole (DataGateway.serve sumCrypto plainTokenLib checksumCipher))
      (newExitGateway [1] ⟨.modeOpen, []⟩ 64 sampleAllocator 0) twoClients,
      e.1.2 = false → Deletable sampleID e.1.1 e.2 := by
    decide +kernel
  obtain ⟨hevents, hendpoints⟩ := noninterference sumCrypto_lawful plainTokenLib checksumCipher
    (.on [1] ⟨.modeOpen, []⟩ 64 0 newAllocator_sample) sampleID twoClients
    fun i o h => hdel _ h rfl
  refine ⟨hevents, hendpoints, ?_, ?_, ?_⟩
  · decide +kernel
  · decide +kernel
  · decide +kernel

end DataGateway
end Gemina
