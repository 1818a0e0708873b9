/-
# Admitted sessions can carry traffic

The gateway admits a session by storing its key and, with the exit path on, by leasing an
address to it.  The data plane builds a session from the key when the first datagram arrives.
Here it is shown that this succeeds in every state of the gateway, and that the first packet is
then delivered, for every session id but one: `DecodeClientHello` accepts the id zero, which the
data plane refuses.
-/
import Gemina.Gateway.Delivery
import Gemina.Gateway.Traffic

namespace Gemina

/-- `NewSession` succeeds for an id that is not zero and a key of the right length, as long as
the capacity can be rounded up. -/
lemma newSession_of_valid {id : SessionID} {key : Bytes} {capacity : ℤ} (role : Role)
    (hid : id.isZero = false) (hkey : key.length = keySize) (hpos : 0 < capacity)
    (hov : capacity + 63 < 2 ^ 63) : ∃ s, newSession id key role capacity = .ok s := by
  obtain ⟨w, hw, -⟩ := ReplayWindow.newReplayWindow_ok hpos hov
  exact ⟨⟨id, role, ⟨key, hkey⟩, ByteArrayN.zero 4, 0, w⟩,
    by simp [newSession, newSealer, hid, hkey, hw]⟩

namespace DataGateway

variable {C : Crypto} {T : TokenLib} {E : Cipher} {capacity : ℤ} {g : DataGateway}
  {P : SessionID → Prop}

/-! ## The states of a gateway -/

/-- A call of one of the methods of the gateway. -/
inductive Method where
  | handleDatagram (amb : Ambient) (datagram : Bytes)
  | frameReturn (id : SessionID) (payload : Bytes)
  | serve (i : Input)
  | serveReturn (now : ℤ) (sendTo : Bytes → AddrPort → Option GoError) (packet : Bytes)

/-- The gateway after a call. -/
def after (C : Crypto) (T : TokenLib) (E : Cipher) (g : DataGateway) : Method → DataGateway
  | .handleDatagram amb datagram => (g.handleDatagram C T E amb datagram).2.2
  | .frameReturn id payload => (g.frameReturn E id payload).2
  | .serve i => (g.serve C T E i).2
  | .serveReturn now sendTo packet => (g.serveReturn E now sendTo packet).2

/-- The datagram that the call dispatches. -/
def Method.datagram : Method → Option Bytes
  | .handleDatagram _ datagram => some datagram
  | .frameReturn _ _ => none
  | .serve i => some (i.datagram.take bufSize)
  | .serveReturn _ _ _ => none

/-- If the call dispatches a hello, its session id has the property. -/
def Method.HelloFor (P : SessionID → Prop) (m : Method) : Prop :=
  ∀ b hello, m.datagram = some b → decodeClientHello b = .ok hello → P hello.id

/-- The states of a gateway, with the exit path off or on, whose hellos had session ids with the
property. -/
inductive Reachable (C : Crypto) (T : TokenLib) (E : Cipher) (capacity : ℤ)
    (P : SessionID → Prop) : DataGateway → Prop
  | new (identityPriv : Bytes) (service : Service) :
      Reachable C T E capacity P (newDataGateway identityPriv service capacity)
  | newExit {pool : Prefix} {a : Allocator} (ha : newAllocator pool = .ok a)
      (identityPriv : Bytes) (service : Service) (ttl : ℤ) :
      Reachable C T E capacity P (newExitGateway identityPriv service capacity a ttl)
  | call {g : DataGateway} (hg : Reachable C T E capacity P g) (m : Method)
      (hm : m.HelloFor P) : Reachable C T E capacity P (g.after C T E m)

/-- What holds in these states: the gateway is sound, it has its capacity, and the keys that it
stores are AES keys for session ids with the property. -/
structure WellKeyed (capacity : ℤ) (P : SessionID → Prop) (g : DataGateway) : Prop where
  sound : g.Sound
  capacity_eq : g.dataPlane.capacity = capacity
  keys : ∀ id key, g.store.keys id = some key → key.length = keySize ∧ P id

/-- An admitted hello adds a key of the right length. -/
lemma WellKeyed.keys_admitted (h : WellKeyed capacity P g) (hC : C.Lawful) {amb : Ambient}
    {datagram : Bytes} {k : Admitter.Keyed} {ip : ByteArrayN assignedIPv4Size × Addr}
    {exit : Option Router} {answer : Admitter.Answer}
    (hadm : Admits C T g amb datagram k ip exit answer)
    (hP : ∀ hello, decodeClientHello datagram = .ok hello → P hello.id) :
    ∀ id key, (g.admitted k exit).store.keys id = some key → key.length = keySize ∧ P id := by
  intro id key hkey
  rcases hadm.keys hC hkey with hold | ⟨hlen, hello, hdec, rfl⟩
  · exact h.keys id key hold
  · exact ⟨hlen, hP hello hdec⟩

/-- `FrameReturn` works on the current session of an id, or it changes nothing. -/
lemma Sound.frameReturn (hg : g.Sound) (E : Cipher) (id : SessionID) (payload : Bytes) :
    (g.frameReturn E id payload).2.Sound ∧
      (g.frameReturn E id payload).2.dataPlane.capacity = g.dataPlane.capacity := by
  have hres : g.store.sessionKey = g.store.keys := rfl
  simp only [DataGateway.frameReturn, DataPlane.frameReturn_eq, hres]
  rcases hs : g.dataPlane.current g.store.keys id with e | s
  · exact ⟨hg, rfl⟩
  by_cases hlen : payload.length ≤ maxPayload
  · simp only [Session.outbound_of_le E s hlen]
    exact ⟨⟨hg.ordered, hg.leases, hg.sessions.put hs rfl rfl rfl⟩, rfl⟩
  · simp only [Session.outbound_of_gt E s (not_le.mp hlen)]
    exact ⟨⟨hg.ordered, hg.leases, hg.sessions.put hs rfl rfl rfl⟩, rfl⟩

/-- **Every call keeps the keys in order.** -/
lemma WellKeyed.after (h : WellKeyed capacity P g) (hC : C.Lawful) (T : TokenLib) (E : Cipher)
    {m : Method} (hm : m.HelloFor P) : WellKeyed capacity P (g.after C T E m) := by
  cases m with
  | handleDatagram amb datagram =>
    have hsound := h.sound.handleDatagram hC T E amb datagram
    have hout := handleDatagram_outcome hC T E h.sound amb datagram
    simp only [DataGateway.after]
    generalize g.handleDatagram C T E amb datagram = out at hsound hout
    cases hout with
    | refused => exact h
    | admitted _ hadm =>
      exact ⟨hsound, h.capacity_eq, h.keys_admitted hC hadm fun hello => hm datagram hello rfl⟩
    | rejected _ hsame => exact ⟨hsound, hsame.capacity_eq.trans h.capacity_eq, h.keys⟩
    | accepted => exact ⟨hsound, h.capacity_eq, h.keys⟩
    | other => exact h
  | frameReturn id payload =>
    obtain ⟨hsound, hcap⟩ := h.sound.frameReturn E id payload
    exact ⟨hsound, hcap.trans h.capacity_eq, h.keys⟩
  | serve i =>
    have hsound := h.sound.serve hC T E i
    have hout := serve_outcome hC T E h.sound i
    simp only [DataGateway.after]
    generalize g.serve C T E i = out at hsound hout
    cases hout with
    | refused => exact h
    | admitted _ hadm =>
      exact ⟨hsound, h.capacity_eq,
        h.keys_admitted hC hadm fun hello => hm (i.datagram.take bufSize) hello rfl⟩
    | rejected _ hsame => exact ⟨hsound, hsame.capacity_eq.trans h.capacity_eq, h.keys⟩
    | accepted => exact ⟨hsound, h.capacity_eq, h.keys⟩
    | other => exact h
  | serveReturn now sendTo packet =>
    have hsound := h.sound.serveReturn E now sendTo packet
    have hout := serveReturn_outcome E g now sendTo packet
    simp only [DataGateway.after]
    generalize g.serveReturn E now sendTo packet = out at hsound hout
    cases hout with
    | dropped _ hsame => exact ⟨hsound, hsame.capacity_eq.trans h.capacity_eq, h.keys⟩
    | framed => exact ⟨hsound, h.capacity_eq, h.keys⟩

/-- All states of a gateway are so. -/
lemma Reachable.wellKeyed (hg : Reachable C T E capacity P g) (hC : C.Lawful) :
    WellKeyed capacity P g := by
  have hnone : ∀ id key, SessionStore.new.keys id = some key → key.length = keySize ∧ P id :=
    fun id key h => by cases h
  induction hg with
  | new identityPriv service =>
    have hoff : (newDataGateway identityPriv service capacity).exit = none := rfl
    refine ⟨⟨fun r hr => ?_, fun r hr => ?_, DataPlane.agrees_new _ _⟩, rfl, hnone⟩
    · rw [hoff] at hr
      cases hr
    · rw [hoff] at hr
      cases hr
  | newExit ha identityPriv service ttl =>
    exact ⟨newExitGateway_sound ha identityPriv service capacity ttl, rfl, hnone⟩
  | call _ m hm ih => exact ih.after hC T E hm

/-! ## Sessions that can carry traffic -/

/-- The session with this id and key can carry traffic: the headers of its frames parse, the data
plane can build it, whatever its peer seals is opened and reaches the replay window, and packets
for its peer are framed. -/
structure Carries (E : Cipher) (g : DataGateway) (id : SessionID) (key : Bytes) : Prop where
  header : ∀ n ≠ 0, ∀ dir, (dir = dirInitiator ∨ dir = dirResponder) → ∀ rest,
    parseHeader (frameHeader ⟨id, n⟩ dir ++ rest) = .ok (⟨id, n⟩, dir, dataHeaderSize)
  session : ∃ s, newSession id key .responder g.dataPlane.capacity = .ok s
  inbound : ∀ n ≠ 0, ∀ payload, ∃ decision d',
    g.dataPlane.handleClassified E g.store.sessionKey (dataFrame E key dirInitiator ⟨id, n⟩ payload)
      = (.ok (payload, decision), d')
  outbound : ∀ payload, payload.length ≤ maxPayload → ∃ frame d',
    g.dataPlane.frameReturn E g.store.sessionKey id payload = (.ok frame, d')

/-- What the peer of a session seals is accepted by the current session of its id. -/
lemma accepted_dataFrame (hE : E.Correct) {id : SessionID} {s : Session} {n : PacketNumber}
    (hcurrent : g.dataPlane.current g.store.keys id = .ok s)
    (hbelongs : DataPlane.Belongs g.store.keys id s) (hn : n ≠ 0) (payload : Bytes) :
    DataPlane.Accepted E g.store.keys g.dataPlane
      (dataFrame E s.key.1 dirInitiator ⟨id, n⟩ payload) ⟨id, n⟩ s payload := by
  have hpeer : s.role.peerDir = dirInitiator := by rw [hbelongs.role]; rfl
  refine ⟨?_, hcurrent, ?_⟩
  · rw [hpeer]
    exact parseHeader_frameHeader (PacketID.valid_iff.mpr ⟨hbelongs.id_ne, hn⟩) (Or.inl rfl) _
  · rw [hpeer, dataFrame, List.drop_left' (length_frameHeader _ _), List.slice_zero,
      List.take_left' (length_frameHeader _ _)]
    exact hE _ _ _ _

/-- **A stored key can be used**, if its session id is not zero. -/
lemma WellKeyed.carries (h : WellKeyed capacity P g) (hE : E.Correct) (hpos : 0 < capacity)
    (hov : capacity + 63 < 2 ^ 63) {id : SessionID} {key : Bytes}
    (hkey : g.store.keys id = some key) (hid : id.isZero = false) : Carries E g id key := by
  have hcap := h.capacity_eq
  obtain ⟨s₀, hs₀⟩ := newSession_of_valid .responder hid (h.keys id key hkey).1 hpos hov
  -- the session is in the cache, or it is built now
  obtain ⟨s, hs⟩ : ∃ s, g.dataPlane.current g.store.keys id = .ok s := by
    rcases hd : g.dataPlane.sessions id with _ | s
    · exact ⟨s₀, by simp [DataPlane.current, hd, hkey, hcap, hs₀]⟩
    · exact ⟨s, DataPlane.current_of_some hd⟩
  have hbelongs := h.sound.sessions.current hs
  obtain rfl : s.key.1 = key := Option.some.inj (hbelongs.key.symm.trans hkey)
  refine ⟨fun n hn dir hdir rest => ?_, ⟨s₀, by rw [hcap, hs₀]⟩, fun n hn payload => ?_,
    fun payload hlen => ?_⟩
  · exact parseHeader_frameHeader (PacketID.valid_iff.mpr ⟨hid, hn⟩) hdir rest
  · exact ⟨_, _, (accepted_dataFrame hE hs hbelongs hn payload).handleClassified⟩
  · refine ⟨s.frame E payload, g.dataPlane.put id { s with next := s.next + 1 }, ?_⟩
    have hres : g.store.sessionKey = g.store.keys := rfl
    rw [DataPlane.frameReturn_eq, hres, hs]
    simp [Session.outbound_of_le E s hlen]

/-- Nothing is carried under this id: no datagram is of it, no session can be built for it, and no
packet is framed for it. -/
structure CarriesNothing (E : Cipher) (g : DataGateway) (id : SessionID) : Prop where
  inbound : ∀ datagram, sessionIDFromDatagram datagram ≠ .ok id
  session : ∀ key, newSession id key .responder g.dataPlane.capacity = .error errBadIdentity
  outbound : ∀ payload, ∃ e d',
    g.dataPlane.frameReturn E g.store.sessionKey id payload = (.error e, d')

/-- No datagram is of the session id zero. -/
lemma sessionIDFromDatagram_ne_zero {id : SessionID} (hid : id.isZero = true) (datagram : Bytes) :
    sessionIDFromDatagram datagram ≠ .ok id := by
  intro h
  rcases hp : parseHeader datagram with e | ⟨pid, dir, off⟩
  · simp [sessionIDFromDatagram, hp] at h
  · simp only [sessionIDFromDatagram, hp, Except.ok.injEq] at h
    have hvalid := (PacketID.valid_iff.mp (parseHeader_ok hp).1).1
    rw [h, hid] at hvalid
    cases hvalid

/-- **The session id zero carries nothing**, whether it has a key or not. -/
lemma WellKeyed.carriesNothing (h : WellKeyed capacity P g) (E : Cipher) {id : SessionID}
    (hid : id.isZero = true) : CarriesNothing E g id := by
  refine ⟨sessionIDFromDatagram_ne_zero hid, fun key => by rw [newSession, if_pos hid], ?_⟩
  intro payload
  have hres : g.store.sessionKey = g.store.keys := rfl
  -- a session in the cache would have an id that is not zero
  rcases hs : g.dataPlane.current g.store.keys id with e | s
  · exact ⟨e, _, by rw [DataPlane.frameReturn_eq, hres, hs]⟩
  · have hne := (h.sound.sessions.current hs).id_ne
    rw [hid] at hne
    cases hne

/-- A packet for a session whose replay window is as it was built is delivered. -/
lemma WellKeyed.first_delivered (h : WellKeyed capacity P g) (hE : E.Correct) (hpos : 0 < capacity)
    (hov : capacity + 63 < 2 ^ 63) {id : SessionID} {key : Bytes}
    (hkey : g.store.keys id = some key) (hid : id.isZero = false)
    (hwindow : ∀ s, g.dataPlane.sessions id = some s →
      ReplayWindow.newReplayWindow capacity = .ok s.window)
    {n : PacketNumber} (hn : n ≠ 0) (amb : Ambient) (payload : Bytes) :
    (g.handleDatagram C T E amb (dataFrame E key dirInitiator ⟨id, n⟩ payload)).2.1 =
      { kind := .data, deliver := true, payload := payload, sessionID := id } := by
  obtain ⟨s, hs, hbuilt⟩ : ∃ s, g.dataPlane.current g.store.keys id = .ok s ∧
      ReplayWindow.newReplayWindow capacity = .ok s.window := by
    rcases hd : g.dataPlane.sessions id with _ | s
    · obtain ⟨s, hs⟩ := newSession_of_valid .responder hid (h.keys id key hkey).1 hpos hov
      obtain ⟨-, -, -, -, -, hw⟩ := newSession_ok hs
      exact ⟨s, by simp [DataPlane.current, hd, hkey, h.capacity_eq, hs], hw⟩
    · exact ⟨s, DataPlane.current_of_some hd, hwindow s hd⟩
  have hbelongs := h.sound.sessions.current hs
  obtain rfl : s.key.1 = key := Option.some.inj (hbelongs.key.symm.trans hkey)
  have hacc := accepted_dataFrame hE hs hbelongs hn payload
  have hkind := classifyDatagram_of_parseHeader hacc.header
  simp [handleDatagram, hkind, handleData_of_accepted hacc, acceptedRecord,
    ReplayWindow.observe_new hbuilt hn]

/-- **Admitted sessions can carry traffic.**  Whatever a gateway has handled, a hello that it
admits for a session id other than zero leaves a key under this id with which the session can
carry traffic, and the frame with number one is delivered.  If no hello was for the session id zero,
then every session that has a key can carry traffic.  And the session id zero never carries
anything. -/
theorem admitted_can_carry (hC : C.Lawful) (T : TokenLib) (hE : E.Correct) (hpos : 0 < capacity)
    (hov : capacity + 63 < 2 ^ 63) :
    (∀ g, Reachable C T E capacity (fun _ => True) g → ∀ amb datagram reply rec g',
      g.handleDatagram C T E amb datagram = (reply, rec, g') → rec.admitted = true →
      rec.sessionID.isZero = false →
      ∃ key, g'.store.sessionKey rec.sessionID = some key ∧ Carries E g' rec.sessionID key ∧
        ∀ amb' payload,
          (g'.handleDatagram C T E amb'
            (dataFrame E key dirInitiator ⟨rec.sessionID, 1⟩ payload)).2.1 =
          { kind := .data, deliver := true, payload := payload, sessionID := rec.sessionID }) ∧
    (∀ g, Reachable C T E capacity (fun id => id.isZero = false) g →
      ∀ id key, g.store.sessionKey id = some key → Carries E g id key) ∧
    (∀ g, Reachable C T E capacity (fun _ => True) g →
      ∀ id, id.isZero = true → CarriesNothing E g id) := by
  refine ⟨?_, ?_, fun g hg id hid => (hg.wellKeyed hC).carriesNothing E hid⟩
  · intro g hg amb datagram reply rec g' heq hadmitted hid
    have hreach : Reachable C T E capacity (fun _ => True)
        (g.after C T E (.handleDatagram amb datagram)) := hg.call _ fun _ _ _ _ => trivial
    have hg' := hreach.wellKeyed hC
    simp only [after, heq] at hg'
    have hout := handleDatagram_outcome hC T E (hg.wellKeyed hC).sound amb datagram
    rw [heq] at hout
    cases hout with
    | refused => cases hadmitted
    | rejected => cases hadmitted
    | accepted =>
      simp only [acceptedRecord] at hadmitted
      split at hadmitted <;> cases hadmitted
    | other => cases hadmitted
    | @admitted _ k ip exit answer hadm =>
      have hkey : (g.admitted k exit).store.keys k.id = some k.key := by
        simp [DataGateway.admitted]
      -- the id had no key, so it has no session yet
      have hnew : ∀ s, (g.admitted k exit).dataPlane.sessions k.id = some s →
          ReplayWindow.newReplayWindow capacity = .ok s.window := by
        intro s hd
        have hb := ((hg.wellKeyed hC).sound.sessions k.id s hd).key
        rw [hadm.isNew] at hb
        cases hb
      exact ⟨k.key, hkey, hg'.carries hE hpos hov hkey hid,
        hg'.first_delivered hE hpos hov hkey hid hnew (by decide)⟩
  · intro g hg id key hkey
    have hw := hg.wellKeyed hC
    exact hw.carries hE hpos hov hkey (hw.keys id key hkey).2

section Sample

set_option maxRecDepth 8000

/-- A self-hosted gateway with the exit path on, over a pool with one usable address. -/
def sampleGateway (capacity : ℤ) : DataGateway :=
  newExitGateway [1] ⟨.modeOpen, []⟩ capacity Router.oneAddress.alloc 0

/-- The gateway after the hello of a client. -/
def afterHello (capacity : ℤ) (n : UInt8) : Option Bytes × DataRecord × DataGateway :=
  (sampleGateway capacity).handleDatagram sumCrypto plainTokenLib checksumCipher
    ⟨0, 0, .ok (ByteArrayN.zero _)⟩ (helloFrom n)

/-- A client is admitted, and its first packet is delivered. -/
theorem admitted_can_carry_one :
    (afterHello 64 1).2.1.admitted = true ∧ ∃ key, ∀ payload,
      ((afterHello 64 1).2.2.handleDatagram sumCrypto plainTokenLib checksumCipher
        ⟨0, 0, .ok (ByteArrayN.zero _)⟩
        (dataFrame checksumCipher key dirInitiator ⟨sampleClient 1, 1⟩ payload)).2.1 =
      { kind := .data, deliver := true, payload := payload, sessionID := sampleClient 1 } := by
  have hstart : Reachable sumCrypto plainTokenLib checksumCipher 64 (fun _ => True)
      (sampleGateway 64) := .newExit newAllocator_four _ _ _
  have hid : (afterHello 64 1).2.1.sessionID = sampleClient 1 := rfl
  obtain ⟨key, -, -, hfirst⟩ := (admitted_can_carry sumCrypto_lawful plainTokenLib
    checksumCipher_correct (by decide : (0 : ℤ) < 64) (by decide)).1 _ hstart
    ⟨0, 0, .ok (ByteArrayN.zero _)⟩ (helloFrom 1) _ (afterHello 64 1).2.1 (afterHello 64 1).2.2
    rfl rfl rfl
  rw [hid] at hfirst
  exact ⟨rfl, key, hfirst _⟩

/-- **The session id zero is admitted and can never be used.**  The gateway stores a key and
leases its only address, but no session can be built from the key and no datagram carries the
id. -/
theorem zero_session_admitted :
    ∃ key, (afterHello 64 0).2.1.admitted = true ∧
      (afterHello 64 0).2.2.store.sessionKey (sampleClient 0) = some key ∧
      (afterHello 64 0).2.2.leaseOf (sampleClient 0) = some (.v4 0x0a4d0002#32) ∧
      newSession (sampleClient 0) key .responder 64 = .error errBadIdentity ∧
      ∀ datagram, sessionIDFromDatagram datagram ≠ .ok (sampleClient 0) := by
  exact ⟨_, rfl, rfl, rfl, rfl, sessionIDFromDatagram_ne_zero rfl⟩

end Sample

end DataGateway
end Gemina
