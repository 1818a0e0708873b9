/-
# The traffic of a gateway

A gateway with the exit path on, between the datagrams that arrive and the packets that it
reads from the TUN device.  The cipher is ideal: the log collects the seal operations, those
of the gateway and those of anyone else, and the gateway opens exactly what is in it.
-/
import Gemina.Lib.Mealy
import Gemina.Gateway.Leases

namespace Gemina

/-! ## One turn of `ServeReturn` -/

namespace DataGateway

variable {E : Cipher} {g : DataGateway}

/-- The session that frames a packet read from the TUN device: that of the session id which
leases the destination, if the packet is not too long for it. -/
def returnSession (g : DataGateway) (packet : Bytes) : Option (SessionID × Session) :=
  match g.exit, parseIPv4 packet with
  | some r, some (_, dst) =>
    match r.alloc.lookup dst with
    | none => none
    | some id =>
      match g.dataPlane.current g.store.keys id with
      | .error _ => none
      | .ok s => if packet.length ≤ maxPayload then some (id, s) else none
  | _, _ => none

/-- The gateway after it framed a packet for the session: the number is used up, and the
endpoints that are no longer fresh are dropped. -/
def afterFramed (g : DataGateway) (r : Router) (now : ℤ) (id : SessionID) (s : Session) :
    DataGateway :=
  { g with
    dataPlane := g.dataPlane.put id { s with next := s.next + 1 }
    exit := some { r with paths := (r.paths.fresh now id).2 } }

/-- **The outcomes of one turn of `ServeReturn`.**  The packet is dropped, and no session is
different, or it is framed once and handed to the sink for every fresh endpoint. -/
inductive ReturnOutcome (E : Cipher) (g : DataGateway) (now : ℤ) (packet : Bytes) :
    ReturnResult × DataGateway → Prop
  | dropped (hnone : g.returnSession packet = none) {metrics : List Metric} {d' : DataPlane}
      (h : DataPlane.Same g.store.keys g.dataPlane d') :
      ReturnOutcome E g now packet (⟨[], metrics⟩, { g with dataPlane := d' })
  | framed {r : Router} {id : SessionID} {s : Session} {src dst : Addr} {metrics : List Metric}
      (hframer : g.returnSession packet = some (id, s)) (hexit : g.exit = some r)
      (hparse : parseIPv4 packet = some (src, dst)) (hlookup : r.alloc.lookup dst = some id)
      (hcurrent : g.dataPlane.current g.store.keys id = .ok s)
      (hlen : packet.length ≤ maxPayload) :
      ReturnOutcome E g now packet
        (⟨(r.paths.fresh now id).1.map fun ep => (s.frame E packet, ep), metrics⟩,
          g.afterFramed r now id s)

lemma serveReturn_outcome (E : Cipher) (g : DataGateway) (now : ℤ)
    (sendTo : Bytes → AddrPort → Option GoError) (packet : Bytes) :
    ReturnOutcome E g now packet (g.serveReturn E now sendTo packet) := by
  rcases hr : g.exit with _ | r
  · have heq : g.serveReturn E now sendTo packet
        = (⟨[], []⟩, { g with dataPlane := g.dataPlane }) := by
      simp [serveReturn, hr]
    rw [heq]
    exact .dropped (by simp [returnSession, hr]) (Or.inl rfl)
  have hsame : ∀ d', { g with dataPlane := d', exit := some r } = { g with dataPlane := d' } := by
    intro d'
    rw [← hr]
  have hres : g.store.sessionKey = g.store.keys := rfl
  rcases hp : parseIPv4 packet with _ | ⟨src, dst⟩
  · have heq : g.serveReturn E now sendTo packet =
        (⟨[], [.dropped "bad-return-packet"]⟩, { g with dataPlane := g.dataPlane }) := by
      simp [serveReturn, hr, Router.serveReturn, hp, hsame]
    rw [heq]
    exact .dropped (by simp [returnSession, hr, hp]) (Or.inl rfl)
  rcases hl : r.alloc.lookup dst with _ | id
  · have heq : g.serveReturn E now sendTo packet =
        (⟨[], [.dropped "unknown-dst"]⟩, { g with dataPlane := g.dataPlane }) := by
      simp [serveReturn, hr, Router.serveReturn, hp, hl, hsame]
    rw [heq]
    exact .dropped (by simp [returnSession, hr, hp, hl]) (Or.inl rfl)
  rcases hs : g.dataPlane.current g.store.keys id with e | s
  · have heq : g.serveReturn E now sendTo packet =
        (⟨[], [.dropped "frame-error"]⟩, { g with dataPlane := g.dataPlane }) := by
      simp [serveReturn, hr, Router.serveReturn, hp, hl, hres, DataPlane.frameReturn_eq, hs, hsame]
    rw [heq]
    exact .dropped (by simp [returnSession, hr, hp, hl, hs]) (Or.inl rfl)
  by_cases hlen : packet.length ≤ maxPayload
  · have heq : g.serveReturn E now sendTo packet =
        (⟨(r.paths.fresh now id).1.map fun ep => (s.frame E packet, ep),
          (Router.sendAll sendTo (s.frame E packet) (r.paths.fresh now id).1).metrics⟩,
          g.afterFramed r now id s) := by
      simp [serveReturn, hr, Router.serveReturn, hp, hl, hres, DataPlane.frameReturn_eq, hs,
        Session.outbound_of_le E s hlen, afterFramed, ← Router.sendAll_sends sendTo]
    rw [heq]
    exact .framed (by simp [returnSession, hr, hp, hl, hs, hlen]) hr hp hl hs hlen
  · -- the session was built, and the packet is too long for it
    have heq : g.serveReturn E now sendTo packet =
        (⟨[], [.dropped "frame-error"]⟩, { g with dataPlane := g.dataPlane.put id s }) := by
      simp [serveReturn, hr, Router.serveReturn, hp, hl, hres, DataPlane.frameReturn_eq, hs,
        Session.outbound_of_gt E s (not_le.mp hlen), hsame]
    rw [heq]
    exact .dropped (by simp [returnSession, hr, hp, hl, hs, hlen]) (Or.inr ⟨id, s, hs, rfl⟩)

/-- `ServeReturn` keeps the gateway sound. -/
lemma Sound.serveReturn (hg : g.Sound) (E : Cipher) (now : ℤ)
    (sendTo : Bytes → AddrPort → Option GoError) (packet : Bytes) :
    (g.serveReturn E now sendTo packet).2.Sound := by
  have hout := serveReturn_outcome E g now sendTo packet
  generalize g.serveReturn E now sendTo packet = out at hout
  cases hout with
  | dropped _ h => exact ⟨hg.ordered, hg.leases, h.agrees hg.sessions⟩
  | @framed r id s src dst metrics hframer hexit hparse hlookup hcurrent hlen =>
    refine ⟨?_, ?_, hg.sessions.put hcurrent rfl rfl rfl⟩
    · rintro _ ⟨⟩
      exact hg.ordered r hexit
    · rintro _ ⟨⟩
      exact hg.leases r hexit

end DataGateway

/-! ## The gateway and the log -/

namespace Traffic

open DataGateway

/-- The inputs of one seal operation. -/
abbrev Seal : Type := Aead.Sealed Bytes Bytes Bytes Bytes

/-- The gateway, and the seal operations made so far. -/
structure World where
  gateway : DataGateway
  log : List Seal

/-- What can happen next. -/
inductive Event where
  /-- `Serve` reads a datagram. -/
  | datagram (i : DataGateway.Input)
  /-- `ServeReturn` reads a packet; the sink answers with `sendTo`. -/
  | packet (now : ℤ) (sendTo : Bytes → AddrPort → Option GoError) (packet : Bytes)
  /-- Someone else seals: a client, or whoever holds a key. -/
  | sealed (r : Seal)

/-- What the gateway does, together with what an observer of the keys can tell. -/
inductive Output where
  /-- `sender` is the session that the datagram comes from, if it is authentic. -/
  | served (result : Served) (sender : Option SessionID)
  /-- `framed` is the identity that the packet was framed with. -/
  | returned (result : ReturnResult) (framed : Option PacketID)
  | sealed

/-- The session that sent the bytes: they are framed in the initiator's direction, and they
are authentic under the key of the session that the gateway has for the id they name. -/
def sender (E : Cipher) (w : World) (b : Bytes) : Option SessionID :=
  match parseHeader b with
  | .error _ => none
  | .ok (id, dir, off) =>
    if dir ≠ dirInitiator then none
    else match w.gateway.dataPlane.current w.gateway.store.keys id.session with
      | .error _ => none
      | .ok s =>
        match (E.ideal w.log).aeadOpen s.key.1 (nonce dir id.number) (b.drop off)
          (b.slice 0 off) with
        | none => none
        | some _ => some id.session

/-- One event. -/
def step (C : Crypto) (T : TokenLib) (E : Cipher) (w : World) : Event → Output × World
  | .datagram i =>
    let (result, g) := w.gateway.serve C T (E.ideal w.log) i
    (.served result (sender E w (i.datagram.take bufSize)), { w with gateway := g })
  | .packet now sendTo packet =>
    let (result, g) := w.gateway.serveReturn (E.ideal w.log) now sendTo packet
    (.returned result ((w.gateway.returnSession packet).map fun x => x.2.nextID),
      ⟨g, w.log ++ ((w.gateway.returnSession packet).map fun x => x.2.sealedNext packet).toList⟩)
  | .sealed r => (.sealed, { w with log := w.log ++ [r] })

/-- A run so far: the events, each with what the gateway did. -/
abbrev Trace : Type := List (Event × Output)

/-- The world before anything happened: a new gateway over a new allocator. -/
def start (identityPriv : Bytes) (service : Service) (capacity : ℤ) (a : Allocator) (ttl : ℤ) :
    World := ⟨newExitGateway identityPriv service capacity a ttl, []⟩

/-! ## What holds in every world -/

/-- The gateway is sound, its exit path is on and its keys have the length of a key. -/
structure World.Sound (w : World) : Prop where
  gateway : w.gateway.Sound
  exit : w.gateway.exit.isSome = true
  keys : ∀ id key, w.gateway.store.keys id = some key → key.length = keySize

variable {C : Crypto} {T : TokenLib} {E : Cipher} {w : World}

lemma start_sound {pool : Prefix} {a : Allocator} (ha : newAllocator pool = .ok a)
    (identityPriv : Bytes) (service : Service) (capacity ttl : ℤ) :
    (start identityPriv service capacity a ttl).Sound :=
  ⟨newExitGateway_sound ha identityPriv service capacity ttl, rfl,
    by simp [start, newExitGateway, enableExit, newDataGateway, SessionStore.new]⟩

/-- With the exit path on, it stays on. -/
lemma exit_isSome_serve (hC : C.Lawful) {g : DataGateway} (hg : g.Sound) (i : DataGateway.Input)
    (h : g.exit.isSome = true) : (g.serve C T E i).2.exit.isSome = true := by
  have hout := serve_outcome hC T E hg i
  generalize g.serve C T E i = out at hout
  cases hout with
  | admitted _ hadm =>
    have hstep := hadm.leased
    rcases hr : g.exit with _ | r
    · simp [hr] at h
    · rw [hr] at hstep
      cases hstep
      rfl
  | accepted => simpa [afterAccepted] using h
  | refused => exact h
  | rejected => exact h
  | other => exact h

/-- **Every event keeps the world sound.** -/
lemma World.Sound.step (hC : C.Lawful) (hw : w.Sound) (e : Event) :
    (Traffic.step C T E w e).2.Sound := by
  cases e with
  | datagram i =>
    refine ⟨hw.gateway.serve hC T _ i, exit_isSome_serve hC hw.gateway i hw.exit, ?_⟩
    have hout := serve_outcome hC T (E.ideal w.log) hw.gateway i
    simp only [Traffic.step]
    generalize w.gateway.serve C T (E.ideal w.log) i = out at hout
    cases hout with
    | admitted _ h =>
      intro id key hkey
      rcases h.keys hC hkey with hold | ⟨hlen, -⟩
      · exact hw.keys id key hold
      · exact hlen
    | refused => exact hw.keys
    | rejected => exact hw.keys
    | accepted => exact hw.keys
    | other => exact hw.keys
  | packet now sendTo packet =>
    have hout := serveReturn_outcome (E.ideal w.log) w.gateway now sendTo packet
    have hsound := hw.gateway.serveReturn (E.ideal w.log) now sendTo packet
    simp only [Traffic.step]
    generalize w.gateway.serveReturn (E.ideal w.log) now sendTo packet = out at hout hsound
    cases hout with
    | dropped => exact ⟨hsound, hw.exit, hw.keys⟩
    | framed => exact ⟨hsound, rfl, hw.keys⟩
  | sealed r => exact ⟨hw.gateway, hw.exit, hw.keys⟩

/-! ## A sample client

One client of a gateway in open mode, over a pool of five addresses, with primitives that can
be evaluated. -/

def sampleAllocator : Allocator :=
  ⟨fun _ => none, fun _ => none, [.v4 0x0a4d0002#32, .v4 0x0a4d0003#32, .v4 0x0a4d0004#32,
    .v4 0x0a4d0005#32, .v4 0x0a4d0006#32]⟩

lemma newAllocator_sample : newAllocator (.v4 0x0a4d0000#32 29 (by decide)) = .ok sampleAllocator :=
  newAllocator_eight

abbrev sampleStart : World := start [1] ⟨.modeOpen, []⟩ 64 sampleAllocator 0

/-- The endpoint that the client sends from. -/
def sampleEndpoint : AddrPort := ⟨.v4 0xc0000201#32, 5000⟩

def sampleInput (now : ℤ) (b : Bytes) : DataGateway.Input :=
  ⟨⟨now, now, .ok (ByteArrayN.zero _)⟩, b, some sampleEndpoint, none⟩

/-- A packet from the address that the client is given. -/
def samplePacket : Bytes :=
  [0x45] ++ List.replicate 11 0 ++ [10, 77, 0, 6] ++ [192, 0, 2, 9]

/-- A packet to the address that the client is given. -/
def sampleReturn : Bytes :=
  [0x45] ++ List.replicate 11 0 ++ [192, 0, 2, 9] ++ [10, 77, 0, 6]

/-- The client seals its packet with the number `n`. -/
def sampleSeal (n : PacketNumber) : Seal :=
  ⟨List.replicate 32 3, nonce dirInitiator n, frameHeader ⟨sampleID, n⟩ dirInitiator, samplePacket⟩

def sampleFrame (n : PacketNumber) : Bytes :=
  (sampleSeal n).aad ++ checksumCipher.aeadSeal (sampleSeal n).key (sampleSeal n).nonce
    (sampleSeal n).plaintext (sampleSeal n).aad

/-- The client is admitted and sends one packet. -/
def sampleEvents : List Event :=
  [.datagram (sampleInput 0 (helloFrom 1)), .sealed (sampleSeal 1),
    .datagram (sampleInput 1 (sampleFrame 1))]

/-- A sink that never fails. -/
def sampleSink : Bytes → AddrPort → Option GoError := fun _ _ => none

end Traffic
end Gemina
