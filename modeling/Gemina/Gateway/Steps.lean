/-
# What one datagram does to the gateway

Every datagram falls into one of a few cases, and each of them changes little: a hello is
refused and changes nothing, or it is admitted and adds one key and one lease; a data datagram
touches the session of the id that it carries, and no other.  The invariants of the gateway
are derived from this case analysis.
-/
import Gemina.Gateway.DataGateway

namespace Gemina

/-- A session whose replay window was shown one more number. -/
def Session.seen (s : Session) (n : PacketNumber) : Session :=
  { s with window := (s.window.observe n).2 }

/-! ## The data plane -/

namespace DataPlane

variable {E : Cipher} {resolver : KeyResolver} {d d' : DataPlane} {id : SessionID} {s : Session}

/-- The data plane as before, except that the current session of an id may have been built and
kept. -/
def Same (resolver : KeyResolver) (d d' : DataPlane) : Prop :=
  d' = d ∨ ∃ id s, d.current resolver id = .ok s ∧ d' = d.put id s

lemma Same.capacity_eq (h : Same resolver d d') : d'.capacity = d.capacity := by
  rcases h with rfl | ⟨id, s, -, rfl⟩ <;> rfl

lemma current_put_self (d : DataPlane) (id : SessionID) (s : Session) :
    (d.put id s).current resolver id = .ok s := current_of_some (put_sessions_self d id s)

lemma current_put_of_ne (d : DataPlane) {id id' : SessionID} (s : Session) (h : id' ≠ id) :
    (d.put id s).current resolver id' = d.current resolver id' := by
  simp [current, put_sessions_of_ne d s h]

/-- A call that fails changes no current session. -/
lemma Same.current_eq (h : Same resolver d d') (id : SessionID) :
    d'.current resolver id = d.current resolver id := by
  rcases h with rfl | ⟨id', s, hs, rfl⟩
  · rfl
  · by_cases hne : id = id'
    · rw [hne, current_put_self, hs]
    · rw [current_put_of_ne d s hne]

lemma Same.agrees (h : Same resolver d d') (ha : Agrees resolver d) : Agrees resolver d' := by
  rcases h with rfl | ⟨id, s, hs, rfl⟩
  · exact ha
  · exact ha.put hs rfl rfl rfl

/-- Registering a key changes the current session of no other id. -/
lemma current_update_of_ne (d : DataPlane) {id id' : SessionID} (key : Option Bytes)
    (h : id' ≠ id) : d.current (Function.update resolver id key) id' = d.current resolver id' := by
  simp [current, h]

/-- An id without a key has no current session. -/
lemma Agrees.ne_of_current (ha : Agrees resolver d) {id' : SessionID} (hnone : resolver id' = none)
    (hs : d.current resolver id = .ok s) : id ≠ id' := by
  rintro rfl
  have hkey := (ha.current hs).key
  rw [hnone] at hkey
  cases hkey

/-- What an accepted datagram says: it parses, its sender has the current session's key, and
its number has been shown to the replay window. -/
structure Accepted (E : Cipher) (resolver : KeyResolver) (d : DataPlane) (datagram : Bytes)
    (id : PacketID) (s : Session) (payload : Bytes) : Prop where
  header : parseHeader datagram = .ok (id, s.role.peerDir, dataHeaderSize)
  current : d.current resolver id.session = .ok s
  opened : E.aeadOpen s.key.1 (nonce s.role.peerDir id.number) (datagram.drop dataHeaderSize)
    (datagram.slice 0 dataHeaderSize) = some payload

/-- **The outcomes of a data datagram.** -/
lemma handleClassified_cases (E : Cipher) (resolver : KeyResolver) (d : DataPlane)
    (datagram : Bytes) :
    (∃ e d', d.handleClassified E resolver datagram = (.error e, d') ∧ Same resolver d d') ∨
    (∃ id s payload, Accepted E resolver d datagram id s payload ∧
      d.handleClassified E resolver datagram =
        (.ok (payload, (s.window.observe id.number).1),
          d.put id.session (s.seen id.number))) := by
  rcases hp : parseHeader datagram with e | ⟨id, dir, off⟩
  · exact Or.inl ⟨e, d, by simp [handleClassified, sessionIDFromDatagram, hp], Or.inl rfl⟩
  have hid : sessionIDFromDatagram datagram = .ok id.session := by
    simp [sessionIDFromDatagram, hp]
  rw [handleClassified_eq hid]
  rcases hs : d.current resolver id.session with e | s
  · exact Or.inl ⟨e, d, by simp, Or.inl rfl⟩
  rcases hin : s.inboundClassified E datagram with ⟨e | ⟨payload, dec⟩, s'⟩
  · refine Or.inl ⟨e, d.put id.session s', by simp [hin], Or.inr ⟨id.session, s, hs, ?_⟩⟩
    rw [Session.inboundClassified_error hin]
  · obtain ⟨id', hid', hopen, hdec, hs'⟩ := Session.inboundClassified_ok_iff.mp hin
    rw [hp, Except.ok.injEq, Prod.mk.injEq] at hid'
    obtain ⟨rfl, hdir⟩ := hid'
    refine Or.inr ⟨id, s, payload, ⟨?_, hs, hopen⟩, by simp [hin, hdec, hs', Session.seen]⟩
    rw [hp, hdir]

/-- The conditions of acceptance suffice. -/
lemma Accepted.handleClassified {datagram payload : Bytes} {pid : PacketID}
    (h : Accepted E resolver d datagram pid s payload) :
    d.handleClassified E resolver datagram =
      (.ok (payload, (s.window.observe pid.number).1),
        d.put pid.session (s.seen pid.number)) := by
  have hid : sessionIDFromDatagram datagram = .ok pid.session := by
    simp [sessionIDFromDatagram, h.header]
  have hin : s.inboundClassified E datagram =
      (.ok (payload, (s.window.observe pid.number).1), s.seen pid.number) :=
    Session.inboundClassified_ok_iff.mpr ⟨pid, h.header, h.opened, rfl, rfl⟩
  rw [handleClassified_eq hid, h.current]
  simp only [hin]

/-- The number of an accepted datagram is not zero, and neither is its session id. -/
lemma Accepted.valid {datagram payload : Bytes} {pid : PacketID}
    (h : Accepted E resolver d datagram pid s payload) :
    pid.session.isZero = false ∧ pid.number ≠ 0 :=
  PacketID.valid_iff.mp (parseHeader_ok h.header).1

end DataPlane

/-! ## Leasing -/

namespace Router

/-- The lease step of a handshake for `id`, which had no lease: with the exit path off nothing
is leased, with it on the last free address is. -/
inductive LeaseStep (id : SessionID) :
    ByteArrayN assignedIPv4Size × Addr → Option Router → Option Router → Prop
  | off : LeaseStep id (ByteArrayN.zero _, .invalid) none none
  | on {r : Router} {rest : List Addr} {addr : Addr} (hnone : r.alloc.forward id = none)
      (hfree : r.alloc.free = rest ++ [addr]) (his4 : addr.is4 = true) :
      LeaseStep id (addr.as4, addr) (some r)
        (some { r with alloc := ⟨Function.update r.alloc.forward id (some addr),
          Function.update r.alloc.reverse addr (some id), rest⟩ })

/-- The router as a leaser, over an allocator that is in order: it fails and changes nothing,
or it makes a lease. -/
lemma assign_lease {r : Router} (h : r.alloc.Ordered) {id : SessionID}
    (hnone : r.alloc.forward id = none) :
    (∃ e, Admitter.assign (some lease) r id = (.error e, r)) ∨
    (∃ ip r', Admitter.assign (some lease) r id = (.ok ip, r') ∧
      LeaseStep id ip (some r) (some r')) := by
  rcases r.alloc.allocate_cases id with ⟨addr, hsome, -⟩ | ⟨-, -, heq⟩ | ⟨rest, addr, -, hfree, heq⟩
  · rw [hnone] at hsome
    cases hsome
  · exact Or.inl ⟨errLeaseFailed.wrap errPoolExhausted, by simp [Admitter.assign, lease, heq]⟩
  · have his4 : addr.is4 = true := h.free_is4 addr (by simp [hfree])
    exact Or.inr ⟨(addr.as4, addr), _, by simp [Admitter.assign, lease, heq, his4],
      .on hnone hfree his4⟩

end Router

/-! ## The gateway -/

namespace DataGateway

variable {C : Crypto} {T : TokenLib} {E : Cipher} {g : DataGateway}

/-- What holds in every state of the gateway: the allocator is in order, the sessions with a
key are those with a lease, and the sessions of the data plane belong to the keys. -/
structure Sound (g : DataGateway) : Prop where
  ordered : ∀ r, g.exit = some r → r.alloc.Ordered
  leases : ∀ r, g.exit = some r → ∀ id, g.store.keys id = none ↔ r.alloc.forward id = none
  sessions : g.dataPlane.Agrees g.store.keys

/-- The gateway after it admitted the session with this key. -/
def admitted (g : DataGateway) (k : Admitter.Keyed) (exit : Option Router) : DataGateway :=
  { g with store := ⟨Function.update g.store.keys k.id (some k.key)⟩, exit := exit }

/-- What an admitted hello says. -/
structure Admits (C : Crypto) (T : TokenLib) (g : DataGateway) (amb : Ambient)
    (datagram : Bytes) (k : Admitter.Keyed) (ip : ByteArrayN assignedIPv4Size × Addr)
    (exit : Option Router) (answer : Admitter.Answer) : Prop where
  keyed : g.admitter.handshakeKey C amb.now amb.seed datagram = .ok k
  entitled : ∃ claims, g.admitter.service.admitToken T k.token amb.tokenNow = .ok claims
  isNew : g.store.keys k.id = none
  leased : Router.LeaseStep k.id ip g.exit exit
  hello : encodeServerHello ⟨k.id, k.gatewayEphPub,
    signHandshake C g.identityPriv k.gatewayEphPub k.id, ip.1⟩ = .ok answer.serverHello
  id_eq : answer.id = k.id
  ip_eq : answer.tunnelIP = ip.2

/-- The keys after an admitted hello: those from before, and one of the right length for the
session id of the hello. -/
lemma Admits.keys (hC : C.Lawful) {amb : Ambient} {datagram : Bytes} {k : Admitter.Keyed}
    {ip : ByteArrayN assignedIPv4Size × Addr} {exit : Option Router} {answer : Admitter.Answer}
    (h : Admits C T g amb datagram k ip exit answer) {id : SessionID} {key : Bytes}
    (hkey : (g.admitted k exit).store.keys id = some key) :
    g.store.keys id = some key ∨
      key.length = keySize ∧ ∃ hello, decodeClientHello datagram = .ok hello ∧ hello.id = id := by
  by_cases hid : id = k.id
  · subst hid
    simp only [DataGateway.admitted, Function.update_self, Option.some.injEq] at hkey
    subst hkey
    obtain ⟨hello, _, hdec, -, hid, -, -, hderive⟩ := Admitter.handshakeKey_ok h.keyed
    exact Or.inr ⟨deriveSessionKey_length hC hderive, hello, hdec, hid⟩
  · simp only [DataGateway.admitted, Function.update_of_ne hid] at hkey
    exact Or.inl hkey

/-- **The outcomes of a hello.**  It is refused and changes nothing, or it adds one key and,
with the exit path on, one lease. -/
lemma admitHello_cases (hC : C.Lawful) (T : TokenLib) (hg : g.Sound) (amb : Ambient)
    (datagram : Bytes) :
    (∃ e, g.admitHello C T amb datagram = (.error e, g)) ∨
    (∃ k ip exit answer, Admits C T g amb datagram k ip exit answer ∧
      g.admitHello C T amb datagram = (.ok answer, g.admitted k exit)) := by
  obtain ⟨identityPriv, admitter, store, dataPlane, exit⟩ := g
  cases exit with
  | none =>
    rcases Admitter.handshake_cases hC T admitter (none : Option (Leaser Unit)) identityPriv store
        () amb.now amb.tokenNow amb.seed datagram with ⟨e, heq⟩ | ⟨k, e, -, -, herr, -⟩ |
        ⟨k, claims, ip, sh, hk, hs, hnone, hip, henc, heq⟩
    · exact Or.inl ⟨e, by simp [admitHello, heq]⟩
    · simp [Admitter.assign] at herr
    · simp only [Admitter.assign, Except.ok.injEq] at hip
      subst hip
      exact Or.inr ⟨k, _, none, ⟨sh, claims, k.id, .invalid⟩,
        ⟨hk, ⟨claims, hs⟩, hnone, .off, henc, rfl, rfl⟩, by simp [admitHello, heq, admitted]⟩
  | some r =>
    rcases Admitter.handshake_cases hC T admitter (some Router.lease) identityPriv store r amb.now
        amb.tokenNow amb.seed datagram with ⟨e, heq⟩ | ⟨k, e, -, hnone, herr, heq⟩ |
        ⟨k, claims, ip, sh, hk, hs, hnone, hip, henc, heq⟩
    · exact Or.inl ⟨e, by simp [admitHello, heq]⟩
    · rcases Router.assign_lease (hg.ordered r rfl) ((hg.leases r rfl k.id).mp hnone) with
        ⟨e', hass⟩ | ⟨ip, r', hass, -⟩
      · exact Or.inl ⟨e, by simp [admitHello, heq, hass]⟩
      · simp [hass] at herr
    · rcases Router.assign_lease (hg.ordered r rfl) ((hg.leases r rfl k.id).mp hnone) with
        ⟨e', hass⟩ | ⟨ip', r', hass, hstep⟩
      · simp [hass] at hip
      · simp only [hass, Except.ok.injEq] at hip
        subst hip
        exact Or.inr ⟨k, _, some r', ⟨sh, claims, k.id, ip'.2⟩,
          ⟨hk, ⟨claims, hs⟩, hnone, hstep, henc, rfl, rfl⟩,
          by simp [admitHello, heq, admitted, hass]⟩

/-- The record of an accepted data datagram. -/
def acceptedRecord (id : SessionID) (payload : Bytes) (decision : ReplayDecision) : DataRecord :=
  if decision = .firstCopy then
    { kind := .data, deliver := true, payload := payload, sessionID := id }
  else { kind := .data, sessionID := id }

lemma handleData_of_accepted {datagram payload : Bytes} {id : PacketID} {s : Session}
    (h : DataPlane.Accepted E g.store.keys g.dataPlane datagram id s payload) :
    g.handleData E datagram =
      (acceptedRecord id.session payload (s.window.observe id.number).1,
        { g with dataPlane := g.dataPlane.put id.session (s.seen id.number) }) := by
  have hid : sessionIDFromDatagram datagram = .ok id.session := by
    simp [sessionIDFromDatagram, h.header]
  have hres : g.store.sessionKey = g.store.keys := rfl
  simp only [handleData, hres, h.handleClassified, hid, acceptedRecord]
  rcases (s.window.observe id.number).1 <;> simp

/-- **The outcomes of a data datagram.**  It is rejected, and no session is different, or it
is accepted by the session whose id it carries. -/
lemma handleData_cases (E : Cipher) (g : DataGateway) (datagram : Bytes) :
    (∃ d', g.handleData E datagram = ({ kind := .data }, { g with dataPlane := d' }) ∧
      DataPlane.Same g.store.keys g.dataPlane d') ∨
    (∃ id s payload, DataPlane.Accepted E g.store.keys g.dataPlane datagram id s payload ∧
      g.handleData E datagram =
        (acceptedRecord id.session payload (s.window.observe id.number).1,
          { g with dataPlane := g.dataPlane.put id.session (s.seen id.number) })) := by
  have hres : g.store.sessionKey = g.store.keys := rfl
  rcases DataPlane.handleClassified_cases E g.store.keys g.dataPlane datagram with
    ⟨e, d', heq, hsame⟩ | ⟨id, s, payload, hacc, heq⟩
  · exact Or.inl ⟨d', by simp [handleData, hres, heq], hsame⟩
  · exact Or.inr ⟨id, s, payload, hacc, handleData_of_accepted hacc⟩

/-- What `HandleDatagram` does, by the kind of the datagram. -/
lemma handleDatagram_eq (C : Crypto) (T : TokenLib) (E : Cipher) (g : DataGateway) (amb : Ambient)
    (datagram : Bytes) :
    (classifyDatagram datagram = .clientHello ∧
      g.handleDatagram C T E amb datagram = g.handleHandshake C T amb datagram) ∨
    (classifyDatagram datagram = .data ∧ g.handleDatagram C T E amb datagram =
      (none, (g.handleData E datagram).1, (g.handleData E datagram).2)) ∨
    (classifyDatagram datagram ≠ .clientHello ∧ classifyDatagram datagram ≠ .data ∧
      ∃ reply kind, (kind = .ping ∨ kind = .unknown) ∧
        g.handleDatagram C T E amb datagram = (reply, { kind := kind }, g)) := by
  rcases hc : classifyDatagram datagram with _ | _ | _ | _ | _
  · exact Or.inr (Or.inr ⟨by simp, by simp, none, .unknown, Or.inr rfl,
      by simp [handleDatagram, hc]⟩)
  · exact Or.inr (Or.inl ⟨rfl, by simp [handleDatagram, hc]⟩)
  · exact Or.inl ⟨rfl, by simp [handleDatagram, hc]⟩
  · exact Or.inr (Or.inr ⟨by simp, by simp, none, .unknown, Or.inr rfl,
      by simp [handleDatagram, hc]⟩)
  · refine Or.inr (Or.inr ⟨by simp, by simp, ?_⟩)
    rcases hp : decodePing datagram with e | ⟨_ | _, nonce⟩
    · exact ⟨none, .ping, Or.inl rfl, by simp [handleDatagram, hc, hp]⟩
    · exact ⟨some (encodePong nonce), .ping, Or.inl rfl, by simp [handleDatagram, hc, hp]⟩
    · exact ⟨none, .ping, Or.inl rfl, by simp [handleDatagram, hc, hp]⟩

/-- **The outcomes of `HandleDatagram`.**  A hello is refused and changes nothing; a hello is
admitted; a data datagram is rejected and changes no session; a data datagram is accepted;
anything else changes nothing. -/
inductive Outcome (C : Crypto) (T : TokenLib) (E : Cipher) (g : DataGateway) (amb : Ambient)
    (datagram : Bytes) : Option Bytes × DataRecord × DataGateway → Prop
  | refused (hkind : classifyDatagram datagram = .clientHello) :
      Outcome C T E g amb datagram (none, { kind := .clientHello }, g)
  | admitted (hkind : classifyDatagram datagram = .clientHello) {k : Admitter.Keyed}
      {ip : ByteArrayN assignedIPv4Size × Addr} {exit : Option Router} {answer : Admitter.Answer}
      (h : Admits C T g amb datagram k ip exit answer) :
      Outcome C T E g amb datagram (some answer.serverHello,
        { kind := .clientHello, admitted := true, sessionID := k.id, tunnelIP := ip.2 },
        g.admitted k exit)
  | rejected (hkind : classifyDatagram datagram = .data) {d' : DataPlane}
      (h : DataPlane.Same g.store.keys g.dataPlane d') :
      Outcome C T E g amb datagram (none, { kind := .data }, { g with dataPlane := d' })
  | accepted (hkind : classifyDatagram datagram = .data) {id : PacketID} {s : Session}
      {payload : Bytes} (h : DataPlane.Accepted E g.store.keys g.dataPlane datagram id s payload) :
      Outcome C T E g amb datagram (none,
        acceptedRecord id.session payload (s.window.observe id.number).1,
        { g with dataPlane := g.dataPlane.put id.session (s.seen id.number) })
  | other (hhello : classifyDatagram datagram ≠ .clientHello)
      (hdata : classifyDatagram datagram ≠ .data) {reply : Option Bytes} {kind : RecordKind}
      (hkind : kind = .ping ∨ kind = .unknown) :
      Outcome C T E g amb datagram (reply, { kind := kind }, g)

lemma handleDatagram_outcome (hC : C.Lawful) (T : TokenLib) (E : Cipher) (hg : g.Sound)
    (amb : Ambient) (datagram : Bytes) :
    Outcome C T E g amb datagram (g.handleDatagram C T E amb datagram) := by
  rcases handleDatagram_eq C T E g amb datagram with ⟨hc, heq⟩ | ⟨hc, heq⟩ |
    ⟨hh, hd, reply, kind, hkind, heq⟩
  · rw [heq]
    rcases admitHello_cases hC T hg amb datagram with ⟨e, hadm⟩ | ⟨k, ip, exit, answer, hadm, heq'⟩
    · simp only [handleHandshake, hadm]
      exact .refused hc
    · -- without a lease the record holds the invalid address
      have hip : (if answer.tunnelIP.isValid then answer.tunnelIP else .invalid) = ip.2 := by
        rw [hadm.ip_eq]
        cases ip.2 <;> rfl
      simp only [handleHandshake, heq', hip, hadm.id_eq]
      exact .admitted hc hadm
  · rw [heq]
    rcases handleData_cases E g datagram with ⟨d', hd, hsame⟩ | ⟨id, s, payload, hacc, hd⟩
    · rw [hd]
      exact .rejected hc hsame
    · rw [hd]
      exact .accepted hc hacc
  · rw [heq]
    exact .other hh hd hkind

/-! ## The gateway stays sound -/

/-- A lease keeps the allocator in order. -/
lemma LeaseStep.ordered {id : SessionID} {ip : ByteArrayN assignedIPv4Size × Addr} {r r' : Router}
    (h : Router.LeaseStep id ip (some r) (some r')) (ho : r.alloc.Ordered) : r'.alloc.Ordered := by
  cases h with
  | on hnone hfree his4 =>
    rcases r.alloc.allocate_cases id with ⟨addr, hsome, -⟩ | ⟨-, hnil, -⟩ |
        ⟨rest, addr, -, hfree', heq⟩
    · rw [hnone] at hsome
      cases hsome
    · rw [hnil] at hfree
      simp at hfree
    · rw [hfree'] at hfree
      obtain ⟨rfl, hlast⟩ := List.append_inj' hfree rfl
      cases hlast
      have := ho.allocate id
      rwa [heq] at this

/-- An admitted hello keeps the keys and the leases together. -/
lemma Sound.admitted (hg : g.Sound) {amb : Ambient} {datagram : Bytes} {k : Admitter.Keyed}
    {ip : ByteArrayN assignedIPv4Size × Addr} {exit : Option Router} {answer : Admitter.Answer}
    (h : Admits C T g amb datagram k ip exit answer) : (g.admitted k exit).Sound := by
  have hstep := h.leased
  refine ⟨?_, ?_, hg.sessions.register h.isNew⟩
  · intro r' hr'
    rcases hr : g.exit with _ | r
    · rw [hr] at hstep
      cases hstep
      cases hr'
    · rw [hr, show exit = some r' from hr'] at hstep
      exact LeaseStep.ordered hstep (hg.ordered r hr)
  · intro r' hr' id
    rcases hr : g.exit with _ | r
    · rw [hr] at hstep
      cases hstep
      cases hr'
    · rw [hr, show exit = some r' from hr'] at hstep
      cases hstep with
      | on hnone hfree his4 =>
        by_cases hid : id = k.id
        · simp [DataGateway.admitted, hid]
        · simpa [DataGateway.admitted, hid] using hg.leases r hr id

/-- **Soundness is invariant.** -/
lemma Sound.handleDatagram (hC : C.Lawful) (T : TokenLib) (E : Cipher) (hg : g.Sound)
    (amb : Ambient) (datagram : Bytes) : (g.handleDatagram C T E amb datagram).2.2.Sound := by
  have hout := handleDatagram_outcome hC T E hg amb datagram
  generalize g.handleDatagram C T E amb datagram = out at hout
  cases hout with
  | refused => exact hg
  | admitted _ h => exact hg.admitted h
  | rejected _ h => exact ⟨hg.ordered, hg.leases, h.agrees hg.sessions⟩
  | accepted _ h => exact ⟨hg.ordered, hg.leases, hg.sessions.put h.current rfl rfl rfl⟩
  | other => exact hg

/-! ## One turn of `Serve` -/

/-- The packet that is handed to the TUN device for an accepted datagram. -/
def tunWriteFor (g : DataGateway) (i : Input) (id : SessionID) (payload : Bytes)
    (decision : ReplayDecision) : Option Bytes :=
  if decision = .firstCopy then g.exit.bind fun r => (r.egress id payload i.devErr).write
  else none

/-- The gateway after it accepted a datagram: the session's window has seen the number, and
with the exit path on the source is recorded. -/
def afterAccepted (g : DataGateway) (i : Input) (id : PacketID) (s : Session) : DataGateway :=
  { g with
    dataPlane := g.dataPlane.put id.session (s.seen id.number)
    exit := g.exit.map fun r => recordSource r i.now id.session i.src }

/-- **The outcomes of one turn of `Serve`.** -/
inductive ServeOutcome (C : Crypto) (T : TokenLib) (E : Cipher) (g : DataGateway) (i : Input) :
    Served × DataGateway → Prop
  | refused (hkind : classifyDatagram (i.datagram.take bufSize) = .clientHello) :
      ServeOutcome C T E g i (⟨none, { kind := .clientHello }, none, none⟩, g)
  | admitted (hkind : classifyDatagram (i.datagram.take bufSize) = .clientHello)
      {k : Admitter.Keyed} {ip : ByteArrayN assignedIPv4Size × Addr} {exit : Option Router}
      {answer : Admitter.Answer}
      (h : Admits C T g i.toAmbient (i.datagram.take bufSize) k ip exit answer) :
      ServeOutcome C T E g i (⟨some answer.serverHello,
        { kind := .clientHello, admitted := true, sessionID := k.id, tunnelIP := ip.2 },
        none, none⟩, g.admitted k exit)
  | rejected (hkind : classifyDatagram (i.datagram.take bufSize) = .data) {d' : DataPlane}
      (h : DataPlane.Same g.store.keys g.dataPlane d') :
      ServeOutcome C T E g i (⟨none, { kind := .data }, none, none⟩, { g with dataPlane := d' })
  | accepted (hkind : classifyDatagram (i.datagram.take bufSize) = .data) {id : PacketID}
      {s : Session} {payload : Bytes} (h : DataPlane.Accepted E g.store.keys g.dataPlane
        (i.datagram.take bufSize) id s payload) :
      ServeOutcome C T E g i (⟨none,
        acceptedRecord id.session payload (s.window.observe id.number).1,
        if g.exit.isSome then i.src.map fun ap => (id.session, ap) else none,
        g.tunWriteFor i id.session payload (s.window.observe id.number).1⟩,
        g.afterAccepted i id s)
  | other (hhello : classifyDatagram (i.datagram.take bufSize) ≠ .clientHello)
      (hdata : classifyDatagram (i.datagram.take bufSize) ≠ .data) {reply : Option Bytes}
      {kind : RecordKind} (hkind : kind = .ping ∨ kind = .unknown) :
      ServeOutcome C T E g i (⟨reply, { kind := kind }, none, none⟩, g)

/-- What is not an accepted data datagram goes no further. -/
lemma forward_of_not (g : DataGateway) (i : Input) (reply : Option Bytes) {rec : DataRecord}
    (h : rec.kind ≠ .data ∨ rec.sessionID.isZero = true) :
    g.forward i reply rec = (⟨reply, rec, none, none⟩, g) := by
  rw [forward]
  rcases hr : g.exit with _ | r
  · rfl
  · rcases h with h | h <;> simp [h]

/-- An accepted data datagram has its source recorded and its payload forwarded. -/
lemma forward_accepted (g : DataGateway) (i : Input) {id : SessionID} (hid : id.isZero = false)
    (payload : Bytes) (decision : ReplayDecision) :
    g.forward i none (acceptedRecord id payload decision) =
      (⟨none, acceptedRecord id payload decision,
        if g.exit.isSome then i.src.map fun ap => (id, ap) else none,
        g.tunWriteFor i id payload decision⟩,
        { g with exit := g.exit.map fun r => recordSource r i.now id i.src }) := by
  obtain ⟨identityPriv, admitter, store, dataPlane, exit⟩ := g
  cases exit with
  | none => simp [forward, tunWriteFor]
  | some r =>
    have hegress : ∀ p, (recordSource r i.now id i.src).egress id p i.devErr
        = r.egress id p i.devErr := by
      intro p
      simp [Router.egress]
    by_cases hd : decision = .firstCopy
    · simp [forward, acceptedRecord, hd, hid, tunWriteFor, hegress]
    · simp [forward, acceptedRecord, hd, hid, tunWriteFor]

lemma serve_outcome (hC : C.Lawful) (T : TokenLib) (E : Cipher) (hg : g.Sound) (i : Input) :
    ServeOutcome C T E g i (g.serve C T E i) := by
  have hout := handleDatagram_outcome hC T E hg i.toAmbient (i.datagram.take bufSize)
  rw [serve]
  generalize g.handleDatagram C T E i.toAmbient (i.datagram.take bufSize) = out at hout
  cases hout with
  | refused hk =>
    simp only
    rw [forward_of_not _ i _ (Or.inl (by simp))]
    exact .refused hk
  | admitted hk h =>
    simp only
    rw [forward_of_not _ i _ (Or.inl (by simp))]
    exact .admitted hk h
  | rejected hk h =>
    simp only
    rw [forward_of_not _ i _ (Or.inr (SessionID.isZero_iff.mpr rfl))]
    exact .rejected hk h
  | accepted hk h =>
    simp only
    rw [forward_accepted _ i h.valid.1]
    exact .accepted hk h
  | other hh hd hkind =>
    simp only
    rw [forward_of_not _ i _ (Or.inl (by rcases hkind with rfl | rfl <;> simp))]
    exact .other hh hd hkind

/-- `Serve` on a datagram that meets the conditions of acceptance. -/
lemma serve_of_accepted (C : Crypto) (T : TokenLib) {i : Input} {id : PacketID} {s : Session}
    {payload : Bytes}
    (h : DataPlane.Accepted E g.store.keys g.dataPlane (i.datagram.take bufSize) id s payload) :
    g.serve C T E i = (⟨none, acceptedRecord id.session payload (s.window.observe id.number).1,
      if g.exit.isSome then i.src.map fun ap => (id.session, ap) else none,
      g.tunWriteFor i id.session payload (s.window.observe id.number).1⟩,
      g.afterAccepted i id s) := by
  have hkind := classifyDatagram_of_parseHeader h.header
  simp only [serve, handleDatagram, hkind, handleData_of_accepted h]
  rw [forward_accepted _ i h.valid.1]
  rfl

/-- **`Serve` keeps the gateway sound.** -/
lemma Sound.serve (hC : C.Lawful) (T : TokenLib) (E : Cipher) (hg : g.Sound) (i : Input) :
    (g.serve C T E i).2.Sound := by
  have hout := serve_outcome hC T E hg i
  generalize g.serve C T E i = out at hout
  cases hout with
  | refused => exact hg
  | admitted _ h => exact hg.admitted h
  | rejected _ h => exact ⟨hg.ordered, hg.leases, h.agrees hg.sessions⟩
  | other => exact hg
  | accepted _ h =>
    refine ⟨?_, ?_, hg.sessions.put h.current rfl rfl rfl⟩
    · intro r hr
      obtain ⟨r₀, hr₀, rfl⟩ := Option.map_eq_some_iff.mp hr
      rw [recordSource_alloc]
      exact hg.ordered r₀ hr₀
    · intro r hr
      obtain ⟨r₀, hr₀, rfl⟩ := Option.map_eq_some_iff.mp hr
      rw [recordSource_alloc]
      exact hg.leases r₀ hr₀

end DataGateway
end Gemina
