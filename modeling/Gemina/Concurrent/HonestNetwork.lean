/-
# Clients and a gateway over an honest network

Any number of clients handshake with one gateway and send it packets.  The network delivers what
was sent, to anyone and as often as it likes, in any order or not at all, but it does not change
a byte.  Everything that was ever sent stays available for delivery, so losing, duplicating,
delaying and reordering need no steps of their own.

A client may complete its handshake more than once, and keeps every session that it gets.
-/
import Gemina.Concurrent.NonceReuse
import Gemina.Gateway.Usability

namespace Gemina
namespace HonestNetwork

open DataGateway

/-! ## The model -/

/-- A client: its handshake, and the sessions that it got from completing it. -/
structure Client where
  hs : ClientHandshake
  sessions : List Session

/-- A frame that a client has sent, with its identity and its payload. -/
structure Frame where
  id : PacketID
  payload : Bytes
  wire : Bytes

/-- The gateway, the clients and the network. -/
structure World where
  gateway : DataGateway
  clients : List Client
  /-- Every datagram that was sent. -/
  sent : List Bytes
  /-- For the observer: the session ids of the `ServerHello`s that the gateway returned. -/
  answered : List SessionID
  /-- For the observer: the frames that the clients sent. -/
  frames : List Frame
  /-- For the observer: the session ids of the frames that have reached the gateway. -/
  arrived : List SessionID

/-- Before the first handshake. -/
def start (g : DataGateway) : World := ⟨g, [], [], [], [], []⟩

/-- The session id of a `ServerHello`. -/
def serverHelloID (b : Bytes) : Option SessionID :=
  (decodeServerHello b).toOption.map ServerHello.id

/-- The session ids of the frames with these bytes. -/
def World.senders (w : World) (datagram : Bytes) : List SessionID :=
  (w.frames.filter fun f => f.wire = datagram).map fun f => f.id.session

/-- One step of a client or of the gateway. -/
inductive Step (C : Crypto) (T : TokenLib) (E : Cipher) : World → World → Prop
  /-- A client begins a handshake, with a session id that no other client has. -/
  | begin {w : World} {gatewayPub token hello : Bytes} {random : Except GoError SessionID}
      {seed : KeySeed} {unixNow : Int64} {hs : ClientHandshake}
      (hbegin : beginClientHandshake C gatewayPub token random seed unixNow = .ok (hello, hs))
      (hnew : ∀ c ∈ w.clients, c.hs.sessionID ≠ hs.sessionID) :
      Step C T E w { w with
        clients := w.clients ++ [⟨hs, []⟩]
        sent := w.sent ++ [hello] }
  /-- A datagram reaches the gateway. -/
  | arrive {w : World} {amb : Ambient} {datagram : Bytes} {reply : Option Bytes} {rec : DataRecord}
      {g : DataGateway} (hsent : datagram ∈ w.sent)
      (hhandle : w.gateway.handleDatagram C T E amb datagram = (reply, rec, g)) :
      Step C T E w { w with
        gateway := g
        sent := w.sent ++ reply.toList
        answered := w.answered ++ (reply.bind serverHelloID).toList
        arrived := w.arrived ++ w.senders datagram }
  /-- The gateway frames a packet for a session. -/
  | frameReturn {w : World} {id : SessionID} {payload : Bytes} {result : Except GoError Bytes}
      {g : DataGateway} (hframe : w.gateway.frameReturn E id payload = (result, g)) :
      Step C T E w { w with
        gateway := g
        sent := w.sent ++ result.toOption.toList }
  /-- A client completes its handshake with a datagram that it received. -/
  | complete {w : World} {before after : List Client} {hs : ClientHandshake}
      {sessions : List Session} {serverHello : Bytes} {dedupCapacity : ℤ} {session : Session}
      (hclient : w.clients = before ++ ⟨hs, sessions⟩ :: after) (hsent : serverHello ∈ w.sent)
      (hcomplete : hs.complete C serverHello dedupCapacity = .ok session) :
      Step C T E w { w with clients := before ++ ⟨hs, sessions ++ [session]⟩ :: after }
  /-- A client sends a packet on one of its sessions. -/
  | send {w : World} {before after : List Client} {hs : ClientHandshake}
      {older newer : List Session} {session session' : Session} {payload frame : Bytes}
      (hclient : w.clients = before ++ ⟨hs, older ++ session :: newer⟩ :: after)
      (hout : session.outbound E payload = (.ok frame, session')) :
      Step C T E w { w with
        clients := before ++ ⟨hs, older ++ session' :: newer⟩ :: after
        sent := w.sent ++ [frame]
        frames := w.frames ++ [⟨session.nextID, payload, frame⟩] }
  /-- A client receives a datagram on one of its sessions. -/
  | receive {w : World} {before after : List Client} {hs : ClientHandshake}
      {older newer : List Session} {session : Session} {wire : Bytes}
      (hclient : w.clients = before ++ ⟨hs, older ++ session :: newer⟩ :: after)
      (hsent : wire ∈ w.sent) :
      Step C T E w { w with
        clients := before ++ ⟨hs, older ++ (session.inboundClassified E wire).2 :: newer⟩ :: after }

/-- The states that some interleaving reaches. -/
def Reaches (C : Crypto) (T : TokenLib) (E : Cipher) (w w' : World) : Prop :=
  Relation.ReflTransGen (Step C T E) w w'

/-! ## What is on the network -/

variable {C : Crypto} {T : TokenLib} {E : Cipher}

/-- What the gateway has for a client: the key that both derive, and the address that it was
told. -/
structure Serves (C : Crypto) (g : DataGateway) (hs : ClientHandshake) (hello : ServerHello) :
    Prop where
  id_eq : hello.id = hs.sessionID
  key : ∃ (priv : ByteArrayN x25519PrivSize) (key : Bytes),
    hello.ephemeralPub = C.publicKey priv.1 ∧
    deriveSessionKey C priv.1 (C.publicKey hs.ephemeralPriv) hs.sessionID = .ok key ∧
    g.store.keys hs.sessionID = some key
  lease : g.leaseOf hs.sessionID = some (Addr.from4 hello.assignedIPv4)

/-- The datagrams on the network: the hello of a client, the answer of the gateway to it, a frame
of a client, and a frame of the gateway. -/
inductive Kind (C : Crypto) (handshakes : List ClientHandshake) (g : DataGateway)
    (frames : List Frame) (b : Bytes) : Prop
  | hello {hs : ClientHandshake} (hhs : hs ∈ handshakes) {h : ClientHello}
      (hdec : decodeClientHello b = .ok h) (hid : h.id = hs.sessionID)
      (heph : h.ephemeralPub = C.publicKey hs.ephemeralPriv)
  | serverHello {hs : ClientHandshake} (hhs : hs ∈ handshakes) {h : ServerHello}
      (hdec : decodeServerHello b = .ok h) (hserves : Serves C g hs h)
  | frame {f : Frame} (hf : f ∈ frames) (hwire : b = f.wire)
  | returned {id : PacketID} {rest : Bytes} (hb : b = frameHeader id dirResponder ++ rest)

/-- The gateway keeps the keys and the leases that it has. -/
structure Keeps (g g' : DataGateway) : Prop where
  keys : ∀ id key, g.store.keys id = some key → g'.store.keys id = some key
  leases : ∀ id addr, g.leaseOf id = some addr → g'.leaseOf id = some addr

lemma Keeps.refl (g : DataGateway) : Keeps g g := ⟨fun _ _ h => h, fun _ _ h => h⟩

lemma Serves.keeps {g g' : DataGateway} {hs : ClientHandshake} {h : ServerHello}
    (hserves : Serves C g hs h) (hkeeps : Keeps g g') : Serves C g' hs h := by
  obtain ⟨priv, key, heph, hderive, hkey⟩ := hserves.key
  exact ⟨hserves.id_eq, ⟨priv, key, heph, hderive, hkeeps.keys _ _ hkey⟩,
    hkeeps.leases _ _ hserves.lease⟩

/-- A datagram stays what it is while clients and frames are added. -/
lemma Kind.mono {handshakes handshakes' : List ClientHandshake} {g g' : DataGateway}
    {frames frames' : List Frame} {b : Bytes} (h : Kind C handshakes g frames b)
    (hhs : handshakes ⊆ handshakes') (hkeeps : Keeps g g') (hframes : frames ⊆ frames') :
    Kind C handshakes' g' frames' b := by
  cases h with
  | hello hmem hdec hid heph => exact .hello (hhs hmem) hdec hid heph
  | serverHello hmem hdec hserves => exact .serverHello (hhs hmem) hdec (hserves.keeps hkeeps)
  | frame hf hwire => exact .frame (hframes hf) hwire
  | returned hb => exact .returned hb

/-! ## The invariant -/

/-- The handshakes of the clients. -/
def World.handshakes (w : World) : List ClientHandshake := w.clients.map Client.hs

/-- How many frames were sent for a session id. -/
def framesFor (frames : List Frame) (id : SessionID) : ℕ :=
  (frames.filter fun f => f.id.session = id).length

lemma framesFor_append (frames new : List Frame) (id : SessionID) :
    framesFor (frames ++ new) id = framesFor frames id + framesFor new id := by
  simp [framesFor]

/-- A session of a client shares its key with the gateway and has the address that is leased to
it; it has numbered no more frames than were sent. -/
structure Connected (g : DataGateway) (frames : List Frame) (hs : ClientHandshake)
    (session : Session) : Prop where
  id_eq : session.id = hs.sessionID
  id_ne : hs.sessionID.isZero = false
  role : session.role = .initiator
  key : g.store.keys hs.sessionID = some session.key.1
  lease : g.leaseOf hs.sessionID = some (Addr.from4 session.assignedIPv4)
  next : ∃ n ≤ framesFor frames hs.sessionID, session.next = UInt64.ofNat n

/-- A frame of a client: it is sealed with the key that the gateway has for its session, and has
one of the numbers that the frames for its session id can have. -/
structure Frame.Genuine (E : Cipher) (g : DataGateway) (frames : List Frame) (f : Frame) :
    Prop where
  key : ∃ key, g.store.keys f.id.session = some key ∧
    f.wire = dataFrame E key dirInitiator f.id f.payload
  session_ne : f.id.session.isZero = false
  number : ∃ n < framesFor frames f.id.session, f.id.number = UInt64.ofNat n + 1

lemma Connected.mono {g g' : DataGateway} {frames : List Frame} {hs : ClientHandshake}
    {session : Session} (h : Connected g frames hs session) (hkeeps : Keeps g g')
    (new : List Frame) : Connected g' (frames ++ new) hs session := by
  obtain ⟨n, hn, hnext⟩ := h.next
  refine ⟨h.id_eq, h.id_ne, h.role, hkeeps.keys _ _ h.key, hkeeps.leases _ _ h.lease, n, ?_, hnext⟩
  rw [framesFor_append]
  omega

lemma Frame.Genuine.mono {g g' : DataGateway} {frames : List Frame} {f : Frame}
    (h : f.Genuine E g frames) (hkeeps : Keeps g g') (new : List Frame) :
    f.Genuine E g' (frames ++ new) := by
  obtain ⟨key, hkey, hwire⟩ := h.key
  obtain ⟨n, hn, hnumber⟩ := h.number
  refine ⟨⟨key, hkeeps.keys _ _ hkey, hwire⟩, h.session_ne, n, ?_, hnumber⟩
  rw [framesFor_append]
  omega

/-- What holds in every state. -/
structure Inv (C : Crypto) (E : Cipher) (capacity : ℤ) (w : World) : Prop where
  gateway : w.gateway.WellKeyed capacity fun _ => True
  exit : w.gateway.exit.isSome = true
  ids : (w.handshakes.map ClientHandshake.sessionID).Nodup
  kinds : ∀ b ∈ w.sent, Kind C w.handshakes w.gateway w.frames b
  answered : w.answered.Nodup ∧ ∀ id ∈ w.answered, w.gateway.store.keys id ≠ none
  connected : ∀ c ∈ w.clients, ∀ session ∈ c.sessions, Connected w.gateway w.frames c.hs session
  genuine : ∀ f ∈ w.frames, f.Genuine E w.gateway w.frames
  /-- The window of a session of which nothing has arrived is as it was built. -/
  window : ∀ id session, w.gateway.dataPlane.sessions id = some session → id ∉ w.arrived →
    ReplayWindow.newReplayWindow capacity = .ok session.window

variable {capacity : ℤ} {w w' : World}

lemma inv_start {g : DataGateway} (hg : g.WellKeyed capacity fun _ => True)
    (hexit : g.exit.isSome = true) (hsessions : ∀ id, g.dataPlane.sessions id = none) :
    Inv C E capacity (start g) where
  gateway := hg
  exit := hexit
  ids := List.nodup_nil
  kinds := by simp [start]
  answered := by simp [start]
  connected := by simp [start]
  genuine := by simp [start]
  window id session h := by simp [start, hsessions] at h

/-! ## The steps of the clients -/

/-- **The sessions of one client change**, and the client may have sent frames. -/
lemma Inv.setSessions (h : Inv C E capacity w) {before after : List Client} {hs : ClientHandshake}
    {old : List Session} (hclient : w.clients = before ++ ⟨hs, old⟩ :: after)
    {sessions : List Session} {new : List Frame}
    (hconn : ∀ session ∈ sessions, Connected w.gateway (w.frames ++ new) hs session)
    (hnew : ∀ f ∈ new, f.Genuine E w.gateway (w.frames ++ new)) :
    Inv C E capacity { w with
      clients := before ++ ⟨hs, sessions⟩ :: after
      sent := w.sent ++ new.map Frame.wire
      frames := w.frames ++ new } := by
  have hhs : World.handshakes { w with
      clients := before ++ ⟨hs, sessions⟩ :: after
      sent := w.sent ++ new.map Frame.wire
      frames := w.frames ++ new } = w.handshakes := by
    simp [World.handshakes, hclient]
  refine ⟨h.gateway, h.exit, hhs ▸ h.ids, ?_, h.answered, ?_, ?_, h.window⟩
  · intro b hb
    rw [hhs]
    rcases List.mem_append.mp hb with hb | hb
    · exact (h.kinds b hb).mono (List.Subset.refl _) (Keeps.refl _) (List.subset_append_left _ _)
    · obtain ⟨f, hf, rfl⟩ := List.mem_map.mp hb
      exact .frame (List.mem_append_right _ hf) rfl
  · intro c hc session hsession
    have hcases : c = ⟨hs, sessions⟩ ∨ c ∈ w.clients := by
      rw [hclient]
      simp only [List.mem_append, List.mem_cons] at hc ⊢
      tauto
    rcases hcases with rfl | hc
    · exact hconn session hsession
    · exact (h.connected c hc session hsession).mono (Keeps.refl _) new
  · intro f hf
    rcases List.mem_append.mp hf with hf | hf
    · exact (h.genuine f hf).mono (Keeps.refl _) new
    · exact hnew f hf

/-- The sessions of a client are connected. -/
lemma Inv.sessions (h : Inv C E capacity w) {before after : List Client} {hs : ClientHandshake}
    {sessions : List Session} (hclient : w.clients = before ++ ⟨hs, sessions⟩ :: after) :
    ∀ session ∈ sessions, Connected w.gateway w.frames hs session :=
  fun session hs' => h.connected ⟨hs, sessions⟩ (by simp [hclient]) session hs'

/-- A client begins a handshake. -/
lemma Inv.begin (h : Inv C E capacity w) {gatewayPub token hello : Bytes}
    {random : Except GoError SessionID} {seed : KeySeed} {unixNow : Int64} {hs : ClientHandshake}
    (hbegin : beginClientHandshake C gatewayPub token random seed unixNow = .ok (hello, hs))
    (hnew : ∀ c ∈ w.clients, c.hs.sessionID ≠ hs.sessionID) :
    Inv C E capacity { w with
      clients := w.clients ++ [⟨hs, []⟩]
      sent := w.sent ++ [hello] } := by
  obtain ⟨-, -, -, -, henc⟩ := beginClientHandshake_ok hbegin
  have hhs : World.handshakes { w with
      clients := w.clients ++ [⟨hs, []⟩]
      sent := w.sent ++ [hello] } = w.handshakes ++ [hs] := by
    simp [World.handshakes]
  refine ⟨h.gateway, h.exit, ?_, ?_, h.answered, ?_, h.genuine, h.window⟩
  · rw [hhs, List.map_append, List.map_singleton, List.nodup_append_singleton]
    refine ⟨fun hmem => ?_, h.ids⟩
    obtain ⟨hs', hmem', heq⟩ := List.mem_map.mp hmem
    obtain ⟨c, hc, rfl⟩ := List.mem_map.mp hmem'
    exact hnew c hc heq
  · intro b hb
    rw [hhs]
    rcases List.mem_append.mp hb with hb | hb
    · exact (h.kinds b hb).mono (List.subset_append_left _ _) (Keeps.refl _)
        (List.Subset.refl _)
    · rw [List.mem_singleton.mp hb]
      exact .hello (List.mem_append_right _ (List.mem_singleton.mpr rfl))
        (decodeClientHello_ok_iff.mpr henc) rfl rfl
  · intro c hc session hs'
    rcases List.mem_append.mp hc with hc | hc
    · exact h.connected c hc session hs'
    · rw [List.mem_singleton.mp hc] at hs'
      cases hs'

/-- A frame of a client is data. -/
lemma Inv.classifyDatagram_wire (h : Inv C E capacity w) {f : Frame} (hf : f ∈ w.frames) :
    classifyDatagram f.wire = .data := by
  obtain ⟨key, -, hframe⟩ := (h.genuine f hf).key
  rw [hframe]
  exact classifyDatagram_frameHeader _ _ _

/-- A `ServerHello` on the network is the gateway's answer to a client. -/
lemma Inv.serves (h : Inv C E capacity w) {b : Bytes} (hb : b ∈ w.sent) {hello : ServerHello}
    (hdec : decodeServerHello b = .ok hello) :
    ∃ hs ∈ w.handshakes, Serves C w.gateway hs hello := by
  have hclass := classifyDatagram_of_decodeServerHello hdec
  cases h.kinds b hb with
  | hello _ hdec' =>
    rw [classifyDatagram_of_decodeClientHello hdec'] at hclass
    cases hclass
  | serverHello hhs hdec' hserves =>
    rw [hdec, Except.ok.injEq] at hdec'
    subst hdec'
    exact ⟨_, hhs, hserves⟩
  | frame hf hwire =>
    rw [hwire, h.classifyDatagram_wire hf] at hclass
    cases hclass
  | returned hframe =>
    rw [hframe, classifyDatagram_frameHeader] at hclass
    cases hclass

/-- A client completes its handshake: the answer is to its own hello, so both ends derive the
same key. -/
lemma Inv.complete (h : Inv C E capacity w) (hC : C.Lawful) {before after : List Client}
    {hs : ClientHandshake} {sessions : List Session}
    (hclient : w.clients = before ++ ⟨hs, sessions⟩ :: after)
    {serverHello : Bytes} (hsent : serverHello ∈ w.sent) {dedupCapacity : ℤ} {session : Session}
    (hcomplete : hs.complete C serverHello dedupCapacity = .ok session) :
    Inv C E capacity { w with clients := before ++ ⟨hs, sessions ++ [session]⟩ :: after } := by
  obtain ⟨hello, hdec, hid, -, hderive, hip, hsid, hne, hrole, hnext⟩ :=
    ClientHandshake.complete_ok hcomplete
  obtain ⟨hs', hmem', hserves⟩ := h.serves hsent hdec
  have hmem : hs ∈ w.handshakes := by simp [World.handshakes, hclient]
  obtain rfl : hs' = hs :=
    List.inj_on_of_nodup_map h.ids hmem' hmem (hserves.id_eq.symm.trans hid)
  obtain ⟨priv, key, heph, hgateway, hkey⟩ := hserves.key
  have hagree : key = session.key.1 := by
    have hlen := length_of_deriveSessionKey hderive
    have hcomm := deriveSessionKey_comm hC priv.2 hlen hs'.sessionID
    rw [hgateway, ← heph, ← hid, hderive] at hcomm
    exact Except.ok.inj hcomm
  have hconn : Connected w.gateway (w.frames ++ []) hs' session := by
    refine ⟨hsid, hsid ▸ hne, hrole, hagree ▸ hkey, hip ▸ hserves.lease, 0, by omega, ?_⟩
    rw [hnext]
    rfl
  have hall : ∀ s ∈ sessions ++ [session], Connected w.gateway (w.frames ++ []) hs' s := by
    intro s hs
    rcases List.mem_append.mp hs with hs | hs
    · exact (h.sessions hclient s hs).mono (Keeps.refl _) []
    · rw [List.mem_singleton.mp hs]
      exact hconn
  simpa using h.setSessions hclient hall (by simp)

/-- The sessions of a client stay connected when one of them changes and stays so. -/
lemma Inv.replace (h : Inv C E capacity w) {before after : List Client} {hs : ClientHandshake}
    {older newer : List Session} {session session' : Session}
    (hclient : w.clients = before ++ ⟨hs, older ++ session :: newer⟩ :: after) {new : List Frame}
    (hconn : Connected w.gateway (w.frames ++ new) hs session')
    (hnew : ∀ f ∈ new, f.Genuine E w.gateway (w.frames ++ new)) :
    Inv C E capacity { w with
      clients := before ++ ⟨hs, older ++ session' :: newer⟩ :: after
      sent := w.sent ++ new.map Frame.wire
      frames := w.frames ++ new } := by
  refine h.setSessions hclient (fun s hs' => ?_) hnew
  have hcases : s = session' ∨ s ∈ older ++ session :: newer := by
    simp only [List.mem_append, List.mem_cons] at hs' ⊢
    tauto
  rcases hcases with rfl | hs'
  · exact hconn
  · exact (h.sessions hclient s hs').mono (Keeps.refl _) new

/-- A client sends a packet. -/
lemma Inv.send (h : Inv C E capacity w) {before after : List Client} {hs : ClientHandshake}
    {older newer : List Session} {session session' : Session}
    (hclient : w.clients = before ++ ⟨hs, older ++ session :: newer⟩ :: after)
    {payload frame : Bytes} (hout : session.outbound E payload = (.ok frame, session')) :
    Inv C E capacity { w with
      clients := before ++ ⟨hs, older ++ session' :: newer⟩ :: after
      sent := w.sent ++ [frame]
      frames := w.frames ++ [⟨session.nextID, payload, frame⟩] } := by
  obtain ⟨rfl, rfl⟩ := Session.outbound_ok hout
  have hold := h.sessions hclient session (by simp)
  obtain ⟨n, hn, hnext⟩ := hold.next
  have hid : session.nextID.session = hs.sessionID := hold.id_eq
  have hdir : session.role.sendDir = dirInitiator := by
    rw [hold.role]
    rfl
  have hcount : framesFor (w.frames ++ [⟨session.nextID, payload, session.frame E payload⟩])
      hs.sessionID = framesFor w.frames hs.sessionID + 1 := by
    simp [framesFor, hid]
  have hconn : Connected w.gateway (w.frames ++ [⟨session.nextID, payload,
      session.frame E payload⟩]) hs { session with next := session.next + 1 } := by
    refine ⟨hold.id_eq, hold.id_ne, hold.role, hold.key, hold.lease, n + 1, ?_, ?_⟩
    · rw [hcount]
      omega
    · simp [hnext]
  refine h.replace hclient hconn fun f hf => ?_
  rw [List.mem_singleton.mp hf]
  refine ⟨⟨session.key.1, ?_, ?_⟩, ?_, n, ?_, ?_⟩
  · show w.gateway.store.keys session.nextID.session = _
    rw [hid]
    exact hold.key
  · show session.frame E payload = _
    rw [Session.frame_eq, Session.sealedNext, hdir]
    rfl
  · show session.nextID.session.isZero = false
    rw [hid]
    exact hold.id_ne
  · show n < framesFor _ session.nextID.session
    rw [hid, hcount]
    omega
  · show session.next + 1 = _
    rw [hnext]

/-- A client receives a datagram. -/
lemma Inv.receive (h : Inv C E capacity w) {before after : List Client} {hs : ClientHandshake}
    {older newer : List Session} {session : Session}
    (hclient : w.clients = before ++ ⟨hs, older ++ session :: newer⟩ :: after) (wire : Bytes) :
    Inv C E capacity { w with
      clients := before ++
        ⟨hs, older ++ (session.inboundClassified E wire).2 :: newer⟩ :: after } := by
  have hold := h.sessions hclient session (by simp)
  obtain ⟨window, heq⟩ := Session.inboundClassified_snd E session wire
  rw [heq]
  have hconn : Connected w.gateway (w.frames ++ []) hs { session with window := window } := by
    rw [List.append_nil]
    exact ⟨hold.id_eq, hold.id_ne, hold.role, hold.key, hold.lease, hold.next⟩
  simpa using h.replace hclient hconn (by simp)

/-! ## The steps of the gateway -/

/-- **The gateway changes**, and keeps the keys and leases that it has. -/
lemma Inv.setGateway (h : Inv C E capacity w) {g : DataGateway}
    (hg : g.WellKeyed capacity fun _ => True) (hexit : g.exit.isSome = true)
    (hkeeps : Keeps w.gateway g) (extra : List Bytes) (ids arrivals : List SessionID)
    (hextra : ∀ b ∈ extra, Kind C w.handshakes g w.frames b)
    (hids : (w.answered ++ ids).Nodup ∧ ∀ id ∈ ids, g.store.keys id ≠ none)
    (hwindow : ∀ id session, g.dataPlane.sessions id = some session →
      id ∉ w.arrived ++ arrivals → ReplayWindow.newReplayWindow capacity = .ok session.window) :
    Inv C E capacity { w with
      gateway := g
      sent := w.sent ++ extra
      answered := w.answered ++ ids
      arrived := w.arrived ++ arrivals } := by
  refine ⟨hg, hexit, h.ids, ?_, ⟨hids.1, ?_⟩, ?_, ?_, hwindow⟩
  · intro b hb
    rcases List.mem_append.mp hb with hb | hb
    · exact (h.kinds b hb).mono (List.Subset.refl _) hkeeps (List.Subset.refl _)
    · exact hextra b hb
  · intro id hid
    rcases List.mem_append.mp hid with hid | hid
    · obtain ⟨key, hkey⟩ := Option.ne_none_iff_exists'.mp (h.answered.2 id hid)
      simp [hkeeps.keys id key hkey]
    · exact hids.2 id hid
  · intro c hc session hs
    simpa using (h.connected c hc session hs).mono hkeeps []
  · intro f hf
    simpa using (h.genuine f hf).mono hkeeps []

/-- The window of the current session of an id of which nothing has arrived is as it was
built. -/
lemma Inv.window_current (h : Inv C E capacity w) {id : SessionID} {s : Session}
    (hs : w.gateway.dataPlane.current w.gateway.store.keys id = .ok s) (hid : id ∉ w.arrived) :
    ReplayWindow.newReplayWindow capacity = .ok s.window := by
  rcases hd : w.gateway.dataPlane.sessions id with _ | s'
  · simp only [DataPlane.current, hd] at hs
    rcases hk : w.gateway.store.keys id with _ | key
    · simp [hk] at hs
    · simp only [hk, h.gateway.capacity_eq] at hs
      obtain ⟨-, -, -, -, -, hw⟩ := newSession_ok hs
      exact hw
  · rw [DataPlane.current_of_some hd] at hs
    cases hs
    exact h.window id s hd hid

/-- A call works on the current session of an id, and shows its window nothing. -/
lemma Inv.window_put (h : Inv C E capacity w) {id : SessionID} {s s' : Session}
    (hs : w.gateway.dataPlane.current w.gateway.store.keys id = .ok s)
    (hwindow : s'.window = s.window) :
    ∀ id' session, (w.gateway.dataPlane.put id s').sessions id' = some session →
      id' ∉ w.arrived → ReplayWindow.newReplayWindow capacity = .ok session.window := by
  intro id' session hsession hid'
  by_cases hne : id' = id
  · subst hne
    rw [DataPlane.put_sessions_self, Option.some.injEq] at hsession
    rw [← hsession, hwindow]
    exact h.window_current hs hid'
  · rw [DataPlane.put_sessions_of_ne _ _ hne] at hsession
    exact h.window id' session hsession hid'

/-- The gateway frames a packet. -/
lemma Inv.frameReturn (h : Inv C E capacity w) {id : SessionID} {payload : Bytes}
    {result : Except GoError Bytes} {g : DataGateway}
    (hframe : w.gateway.frameReturn E id payload = (result, g)) :
    Inv C E capacity { w with
      gateway := g
      sent := w.sent ++ result.toOption.toList } := by
  obtain ⟨hsound, hcap⟩ := h.gateway.sound.frameReturn E id payload
  have hres : w.gateway.store.sessionKey = w.gateway.store.keys := rfl
  simp only [DataGateway.frameReturn, DataPlane.frameReturn_eq, hres] at hframe hsound hcap
  rcases hs : w.gateway.dataPlane.current w.gateway.store.keys id with e | s
  · simp only [hs, Prod.mk.injEq] at hframe
    obtain ⟨rfl, rfl⟩ := hframe
    simpa [Except.toOption] using h
  have hdir : s.role.sendDir = dirResponder := by
    rw [(h.gateway.sound.sessions.current hs).role]
    rfl
  simp only [hs, Prod.mk.injEq] at hframe hsound hcap
  obtain ⟨rfl, rfl⟩ := hframe
  have hwindow : (s.outbound E payload).2.window = s.window := by
    rw [Session.outbound]
    split <;> rfl
  have hextra : ∀ b ∈ ((s.outbound E payload).1.toOption.toList), Kind C w.handshakes
      { w.gateway with dataPlane := w.gateway.dataPlane.put id (s.outbound E payload).2 } w.frames
      b := by
    intro b hb
    rcases hout : s.outbound E payload with ⟨e | frame, s'⟩
    · simp [hout, Except.toOption] at hb
    · obtain ⟨rfl, -⟩ := Session.outbound_ok hout
      simp only [hout, Except.toOption, Option.toList_some, List.mem_singleton] at hb
      rw [hb, Session.frame, hdir]
      exact .returned rfl
  have hinv := h.setGateway ⟨hsound, hcap.trans h.gateway.capacity_eq, h.gateway.keys⟩ h.exit
    ⟨fun _ _ hk => hk, fun _ _ hl => hl⟩ _ [] [] hextra (by simpa using h.answered.1)
    (by simpa using h.window_put hs hwindow)
  simpa using hinv

/-- A hello on the network is the hello of a client. -/
lemma Inv.hello (h : Inv C E capacity w) {b : Bytes} (hb : b ∈ w.sent)
    (hclass : classifyDatagram b = .clientHello) :
    ∃ hs ∈ w.handshakes, ∃ hello, decodeClientHello b = .ok hello ∧ hello.id = hs.sessionID ∧
      hello.ephemeralPub = C.publicKey hs.ephemeralPriv := by
  cases h.kinds b hb with
  | hello hhs hdec hid heph => exact ⟨_, hhs, _, hdec, hid, heph⟩
  | serverHello _ hdec =>
    rw [classifyDatagram_of_decodeServerHello hdec] at hclass
    cases hclass
  | frame hf hwire =>
    rw [hwire, h.classifyDatagram_wire hf] at hclass
    cases hclass
  | returned hframe =>
    rw [hframe, classifyDatagram_frameHeader] at hclass
    cases hclass

/-- A datagram on the network that is no hello and no data is a `ServerHello`. -/
lemma Inv.serverHello (h : Inv C E capacity w) {b : Bytes} (hb : b ∈ w.sent)
    (hhello : classifyDatagram b ≠ .clientHello) (hdata : classifyDatagram b ≠ .data) :
    classifyDatagram b = .serverHello := by
  cases h.kinds b hb with
  | hello _ hdec => exact absurd (classifyDatagram_of_decodeClientHello hdec) hhello
  | serverHello _ hdec => exact classifyDatagram_of_decodeServerHello hdec
  | frame hf hwire =>
    rw [hwire] at hdata
    exact absurd (h.classifyDatagram_wire hf) hdata
  | returned hframe =>
    rw [hframe] at hdata
    exact absurd (classifyDatagram_frameHeader _ _ _) hdata

/-- A datagram that the gateway accepts is a frame of a client. -/
lemma Inv.sender (h : Inv C E capacity w) {b : Bytes} (hb : b ∈ w.sent) {pid : PacketID}
    {s : Session} {payload : Bytes} (hacc : DataPlane.Accepted E w.gateway.store.keys
      w.gateway.dataPlane b pid s payload) : pid.session ∈ w.senders b := by
  have hclass := classifyDatagram_of_parseHeader hacc.header
  have hpeer : s.role.peerDir = dirInitiator := by
    rw [(h.gateway.sound.sessions.current hacc.current).role]
    rfl
  -- a header that parses is that of the frame
  have hparse : ∀ id dir rest, (dir = dirInitiator ∨ dir = dirResponder) →
      b = frameHeader id dir ++ rest → pid = id ∧ dirInitiator = dir := by
    intro id dir rest hdir heq
    have hheader := hacc.header
    rw [heq, parseHeader_frameHeader_eq id hdir, hpeer] at hheader
    split at hheader
    · cases hheader
    · simp only [Except.ok.injEq, Prod.mk.injEq] at hheader
      exact ⟨hheader.1.symm, hheader.2.1.symm⟩
  cases h.kinds b hb with
  | hello _ hdec =>
    rw [classifyDatagram_of_decodeClientHello hdec] at hclass
    cases hclass
  | serverHello _ hdec =>
    rw [classifyDatagram_of_decodeServerHello hdec] at hclass
    cases hclass
  | @frame f hf hwire =>
    obtain ⟨key, -, hframe⟩ := (h.genuine f hf).key
    obtain ⟨rfl, -⟩ := hparse f.id dirInitiator _ (Or.inl rfl) (hwire.trans hframe)
    exact List.mem_map.mpr ⟨f, List.mem_filter.mpr ⟨hf, by simp [hwire]⟩, rfl⟩
  | @returned id rest hframe =>
    exact absurd (hparse id dirResponder rest (Or.inr rfl) hframe).2 (by decide)

/-- The gateway admits the hello of a client, and its answer is on the network. -/
lemma Inv.admitted (h : Inv C E capacity w) {amb : Ambient} {b : Bytes} (hb : b ∈ w.sent)
    (hclass : classifyDatagram b = .clientHello) {k : Admitter.Keyed}
    {ip : ByteArrayN assignedIPv4Size × Addr} {exit : Option Router} {answer : Admitter.Answer}
    (hadm : Admits C T w.gateway amb b k ip exit answer) :
    Keeps w.gateway (w.gateway.admitted k exit) ∧
      serverHelloID answer.serverHello = some k.id ∧
      Kind C w.handshakes (w.gateway.admitted k exit) w.frames answer.serverHello := by
  have hadd := hadm.addsLease h.gateway.sound h.exit
  have hkeeps : Keeps w.gateway (w.gateway.admitted k exit) := by
    constructor
    · intro id key hkey
      have hne : id ≠ k.id := by
        rintro rfl
        rw [hadd.had_no_key] at hkey
        cases hkey
      rw [hadd.keys, Function.update_of_ne hne]
      exact hkey
    · intro id addr haddr
      have hne : id ≠ k.id := by
        rintro rfl
        rw [hadd.had_no_lease] at haddr
        cases haddr
      rw [hadd.leases, Function.update_of_ne hne]
      exact haddr
  obtain ⟨_, sh, heq, hdec, hid, hfrom⟩ := hadd.reply
  cases heq
  obtain ⟨hs, hmem, hello, hdecode, hhid, heph⟩ := h.hello hb hclass
  obtain ⟨hello', priv, hdecode', -, hkid, -, hpub, hderive⟩ := Admitter.handshakeKey_ok hadm.keyed
  rw [hdecode, Except.ok.injEq] at hdecode'
  subst hdecode'
  have hkhs : k.id = hs.sessionID := hkid.symm.trans hhid
  have hsheph : sh.ephemeralPub = k.gatewayEphPub := by
    have hdec' := decodeServerHello_ok_iff.mpr hadm.hello
    rw [hdec, Except.ok.injEq] at hdec'
    rw [hdec']
  refine ⟨hkeeps, by simp [serverHelloID, hdec, Except.toOption, hid], .serverHello hmem hdec ?_⟩
  refine ⟨hid.trans hkhs, ⟨priv, k.key, hsheph.trans hpub, ?_, ?_⟩, ?_⟩
  · rw [← heph, ← hkhs]
    exact hderive
  · rw [hadd.keys, ← hkhs, Function.update_self]
  · rw [hadd.leases, ← hkhs, Function.update_self, hfrom]

/-- **A datagram reaches the gateway.** -/
lemma Inv.arrive (h : Inv C E capacity w) (hC : C.Lawful) {amb : Ambient} {datagram : Bytes}
    (hsent : datagram ∈ w.sent) {reply : Option Bytes} {rec : DataRecord} {g : DataGateway}
    (hhandle : w.gateway.handleDatagram C T E amb datagram = (reply, rec, g)) :
    Inv C E capacity { w with
      gateway := g
      sent := w.sent ++ reply.toList
      answered := w.answered ++ (reply.bind serverHelloID).toList
      arrived := w.arrived ++ w.senders datagram } := by
  have hg : g.WellKeyed capacity fun _ => True := by
    have hafter := h.gateway.after hC T E (m := .handleDatagram amb datagram)
      fun _ _ _ _ => trivial
    rwa [DataGateway.after, hhandle] at hafter
  have hexit : g.exit.isSome = true := by
    have hafter := exit_isSome_handleDatagram (T := T) (E := E) hC h.gateway.sound amb datagram
      h.exit
    rwa [hhandle] at hafter
  have hnone : (w.answered ++ []).Nodup ∧ ∀ id ∈ ([] : List SessionID), g.store.keys id ≠ none := by
    simpa using h.answered.1
  have hold : ∀ id session, w.gateway.dataPlane.sessions id = some session →
      id ∉ w.arrived ++ w.senders datagram →
      ReplayWindow.newReplayWindow capacity = .ok session.window :=
    fun id session hs hid => h.window id session hs fun hmem => hid (List.mem_append_left _ hmem)
  have hout := handleDatagram_outcome hC T E h.gateway.sound amb datagram
  rw [hhandle] at hout
  cases hout with
  | refused => exact h.setGateway hg hexit (Keeps.refl _) _ _ _ (by simp) hnone hold
  | @admitted hclass k ip exit answer hadm =>
    obtain ⟨hkeeps, hid, hkind⟩ := h.admitted hsent hclass hadm
    have hkey : (w.gateway.admitted k exit).store.keys k.id = some k.key := by
      simp [DataGateway.admitted]
    refine h.setGateway hg hexit hkeeps _ _ _ (by simpa using hkind) ?_ hold
    simp only [Option.bind_some, hid, Option.toList_some, List.nodup_append_singleton,
      List.mem_singleton, forall_eq, hkey, ne_eq, reduceCtorEq, not_false_eq_true, and_true]
    exact ⟨fun hmem => h.answered.2 k.id hmem hadm.isNew, h.answered.1⟩
  | @rejected _ d' hsame =>
    refine h.setGateway hg hexit ⟨fun _ _ hk => hk, fun _ _ hl => hl⟩ _ _ _ (by simp) hnone ?_
    intro id session hs hid
    rcases hsame with rfl | ⟨id', s, hcurrent, rfl⟩
    · exact hold id session hs hid
    · exact h.window_put hcurrent rfl id session hs fun hmem => hid (List.mem_append_left _ hmem)
  | @accepted _ pid s payload hacc =>
    refine h.setGateway hg hexit ⟨fun _ _ hk => hk, fun _ _ hl => hl⟩ _ _ _ (by simp) hnone ?_
    intro id session hs hid
    have hne : id ≠ pid.session := by
      rintro rfl
      exact hid (List.mem_append_right _ (h.sender hsent hacc))
    simp only [DataPlane.put_sessions_of_ne _ _ hne] at hs
    exact hold id session hs hid
  | other hhello hdata =>
    -- a `ServerHello` is not answered
    have hclass := h.serverHello hsent hhello hdata
    have hreply : reply = none := by
      simp only [handleDatagram, hclass, Prod.mk.injEq] at hhandle
      exact hhandle.1.symm
    subst hreply
    exact h.setGateway hg hexit (Keeps.refl _) _ _ _ (by simp) hnone hold

/-! ## The result -/

/-- **Every step keeps the invariant.** -/
lemma Inv.step (h : Inv C E capacity w) (hC : C.Lawful) (hstep : Step C T E w w') :
    Inv C E capacity w' := by
  cases hstep with
  | begin hbegin hnew => exact h.begin hbegin hnew
  | arrive hsent hhandle => exact h.arrive hC hsent hhandle
  | frameReturn hframe => exact h.frameReturn hframe
  | complete hclient hsent hcomplete => exact h.complete hC hclient hsent hcomplete
  | send hclient hout => exact h.send hclient hout
  | receive hclient => exact h.receive hclient _

/-- What a run from a new gateway with the exit path on establishes. -/
lemma Reaches.inv (hC : C.Lawful) {pool : Prefix} {a : Allocator}
    (ha : newAllocator pool = .ok a) (identityPriv : Bytes) (service : Service)
    (capacity ttl : ℤ)
    (hrun : Reaches C T E (start (newExitGateway identityPriv service capacity a ttl)) w) :
    Inv C E capacity w := by
  induction hrun with
  | refl =>
    have hreach : DataGateway.Reachable C T E capacity (fun _ => True)
        (newExitGateway identityPriv service capacity a ttl) :=
      .newExit ha identityPriv service ttl
    exact inv_start (hreach.wellKeyed hC) rfl fun _ => rfl
  | tail _ hstep ih => exact ih.step hC hstep

/-- **Honest clients are served.**  In every interleaving of clients with different session ids and
a gateway with the exit path on, over a network that does not change bytes: the gateway returns at
most one `ServerHello` for each session id; every session that a client has completed has the key
that the gateway stores for the client and the address that is leased to it, and no other client
has that address; and as long as no frame of the client has reached the gateway, each of its
frames would be delivered there with its payload, if it has sent fewer than `2 ^ 64`. -/
theorem honest_clients_served (hC : C.Lawful) (T : TokenLib) (hE : E.Correct) {pool : Prefix}
    {a : Allocator} (ha : newAllocator pool = .ok a) (identityPriv : Bytes) (service : Service)
    {capacity : ℤ} (hpos : 0 < capacity) (hov : capacity + 63 < 2 ^ 63) (ttl : ℤ) {w : World}
    (hrun : Reaches C T E (start (newExitGateway identityPriv service capacity a ttl)) w) :
    w.answered.Nodup ∧
    (∀ c ∈ w.clients, ∀ session ∈ c.sessions,
      w.gateway.store.sessionKey c.hs.sessionID = some session.key.1 ∧
      w.gateway.leaseOf c.hs.sessionID = some (Addr.from4 session.assignedIPv4) ∧
      ∀ c' ∈ w.clients, ∀ session' ∈ c'.sessions,
        c'.hs.sessionID ≠ c.hs.sessionID → session'.assignedIPv4 ≠ session.assignedIPv4) ∧
    (∀ f ∈ w.frames, f.id.session ∉ w.arrived → framesFor w.frames f.id.session < 2 ^ 64 → ∀ amb,
      (w.gateway.handleDatagram C T E amb f.wire).2.1 =
        { kind := .data, deliver := true, payload := f.payload, sessionID := f.id.session }) := by
  have h := hrun.inv hC ha identityPriv service capacity ttl
  refine ⟨h.answered.1, ?_, ?_⟩
  · intro c hc session hs
    have hconn := h.connected c hc session hs
    refine ⟨hconn.key, hconn.lease, ?_⟩
    -- two sessions do not lease one address
    intro c' hc' session' hs' hne heq
    have hlease' := (h.connected c' hc' session' hs').lease
    have hlease := hconn.lease
    rw [heq] at hlease'
    obtain ⟨r, hr⟩ := Option.isSome_iff_exists.mp h.exit
    simp only [leaseOf, hr, Option.bind_some] at hlease hlease'
    exact hne ((h.gateway.sound.ordered r hr).forward_inj hlease' hlease)
  · intro f hf hnot hfew amb
    have hgenuine := h.genuine f hf
    obtain ⟨key, hkey, hwire⟩ := hgenuine.key
    obtain ⟨n, hn, hnumber⟩ := hgenuine.number
    have hne : f.id.number ≠ 0 := by
      rw [hnumber]
      exact Counter.ofNat_succ_ne_zero (by omega)
    rw [hwire]
    exact h.gateway.first_delivered hE hpos hov hkey hgenuine.session_ne
      (fun s hs => h.window f.id.session s hs hnot) hne amb f.payload

section Sample

open Concurrent (sampleHandshake)

set_option maxRecDepth 8000

/-- A gateway with the exit path on, over a pool with one usable address. -/
def exitGateway (capacity : ℤ) : DataGateway :=
  newExitGateway (List.replicate 32 7) ⟨.modeOpen, []⟩ capacity Router.oneAddress.alloc 0

/-- The clocks at zero, and an ephemeral key of threes. -/
def threes : Ambient := ⟨0, 0, .ok ⟨List.replicate 32 3, rfl⟩⟩

/-- The gateway answers the hello of a client. -/
def answering (capacity : ℤ) : Option Bytes × DataRecord × DataGateway :=
  (exitGateway capacity).handleDatagram sumCrypto plainTokenLib checksumCipher threes
    (helloFrom 1)

/-- The answer: the gateway's ephemeral key, its signature, and the address `10.77.0.2`. -/
def exitServerHello : Bytes :=
  helloWith 3 (Addr.as4 (.v4 0x0a4d0002#32))

/-- The client has begun its handshake and the gateway has answered; nothing else was sent. -/
def answeredWorld (capacity : ℤ) (sessions : List Session) : World where
  gateway := (answering capacity).2.2
  clients := [⟨sampleHandshake, sessions⟩]
  sent := [helloFrom 1, exitServerHello]
  answered := [sampleID]
  frames := []
  arrived := []

/-- What the gateway makes of a datagram. -/
def World.handles (w : World) (datagram : Bytes) : DataRecord :=
  (w.gateway.handleDatagram sumCrypto plainTokenLib checksumCipher threes datagram).2.1

lemma reaches_answered (capacity : ℤ) :
    Reaches sumCrypto plainTokenLib checksumCipher (start (exitGateway capacity))
      (answeredWorld capacity []) := by
  have hbegin : beginClientHandshake sumCrypto (List.replicate 32 7) [] (.ok sampleID)
      (.ok ⟨List.replicate 32 2, rfl⟩) 0 = .ok (helloFrom 1, sampleHandshake) := rfl
  have hanswer : (exitGateway capacity).handleDatagram sumCrypto plainTokenLib checksumCipher
      threes (helloFrom 1)
      = (some exitServerHello, (answering capacity).2.1, (answering capacity).2.2) := rfl
  have h₁ := Relation.ReflTransGen.single (@Step.begin sumCrypto plainTokenLib checksumCipher
    (start (exitGateway capacity)) _ _ _ _ _ _ _ hbegin (by simp [start]))
  have h₂ := h₁.tail (.arrive (List.mem_singleton.mpr rfl) hanswer)
  exact h₂

/-- The client completes its handshake once more. -/
lemma reaches_completed {capacity : ℤ} {sessions : List Session} {session : Session}
    (h : Reaches sumCrypto plainTokenLib checksumCipher (start (exitGateway capacity))
      (answeredWorld capacity sessions))
    (hcomplete : sampleHandshake.complete sumCrypto exitServerHello 64 = .ok session) :
    Reaches sumCrypto plainTokenLib checksumCipher (start (exitGateway capacity))
      (answeredWorld capacity (sessions ++ [session])) :=
  h.tail (@Step.complete _ _ _ (answeredWorld capacity sessions) [] [] _ _ _ _ _ rfl
    (by simp [answeredWorld]) hcomplete)

/-- A client is served: its first packet is delivered. -/
theorem honest_clients_served_one :
    ∃ w f, Reaches sumCrypto plainTokenLib checksumCipher (start (exitGateway 64)) w ∧
      w.frames = [f] ∧ f.payload = [1, 2, 3] ∧ w.handles f.wire =
        { kind := .data, deliver := true, payload := [1, 2, 3], sessionID := sampleID } := by
  obtain ⟨session, hcomplete, hid⟩ : ∃ session,
      sampleHandshake.complete sumCrypto exitServerHello 64 = .ok session ∧
      session.id = sampleID := ⟨_, rfl, rfl⟩
  have h₁ := reaches_completed (reaches_answered 64) hcomplete
  have h₂ := h₁.tail (@Step.send _ _ _ (answeredWorld 64 [session]) [] [] _ [] [] _ _ [1, 2, 3] _
    rfl (Session.outbound_of_le checksumCipher session (by decide)))
  obtain ⟨-, -, hfirst⟩ := honest_clients_served sumCrypto_lawful plainTokenLib
    checksumCipher_correct newAllocator_four (List.replicate 32 7) ⟨.modeOpen, []⟩
    (by decide : (0 : ℤ) < 64) (by decide) 0 h₂
  refine ⟨_, ⟨session.nextID, [1, 2, 3], session.frame checksumCipher [1, 2, 3]⟩, h₂, rfl, rfl, ?_⟩
  have hrec := hfirst _ (List.mem_singleton.mpr rfl) (by simp [answeredWorld])
    (lt_of_le_of_lt (List.length_filter_le _ _) (by simp [answeredWorld])) threes
  rw [← hid]
  exact hrec

/-- A session sends any number of packets, and the network loses them all. -/
lemma reaches_lost {capacity : ℤ} {hs : ClientHandshake} {session : Session} {w : World}
    (h : Reaches sumCrypto plainTokenLib checksumCipher (start (exitGateway capacity)) w)
    (hclients : w.clients = [⟨hs, [session]⟩]) (n : ℕ) :
    ∃ w', Reaches sumCrypto plainTokenLib checksumCipher (start (exitGateway capacity)) w' ∧
      w'.clients = [⟨hs, [{ session with next := session.next + UInt64.ofNat n }]⟩] ∧
      w'.gateway = w.gateway ∧ w'.arrived = w.arrived := by
  induction n with
  | zero => exact ⟨w, h, by simpa using hclients, rfl, rfl⟩
  | succ n ih =>
    obtain ⟨w', h', hclients', hgateway, harrived⟩ := ih
    have hstep := h'.tail (@Step.send _ _ _ w' [] [] _ [] [] _ _ [] _ hclients'
      (Session.outbound_of_le checksumCipher _ (by decide)))
    refine ⟨_, hstep, ?_, hgateway, harrived⟩
    simp [UInt64.add_assoc]

/-- **The first frame of a session can be rejected**: when the gateway has no dedup capacity, when
`2 ^ 64 - 1` frames before it were lost and it has the number zero, and when the client has
completed its handshake before and the frames of that session have used its numbers. -/
theorem first_frame_rejected :
    (∃ w f, Reaches sumCrypto plainTokenLib checksumCipher (start (exitGateway 0)) w ∧
      w.frames = [f] ∧ w.arrived = [] ∧ (w.handles f.wire).deliver = false) ∧
    (∃ w f, Reaches sumCrypto plainTokenLib checksumCipher (start (exitGateway 64)) w ∧
      f ∈ w.frames ∧ w.arrived = [] ∧ (w.handles f.wire).deliver = false) ∧
    (∃ w older session, Reaches sumCrypto plainTokenLib checksumCipher (start (exitGateway 64)) w ∧
      w.clients = [⟨sampleHandshake, [older, session]⟩] ∧ session.next = 0 ∧
      (w.handles (session.frame checksumCipher [])).deliver = false) := by
  have hempty : ([] : Bytes).length ≤ maxPayload := by decide
  refine ⟨?_, ?_, ?_⟩
  · -- the gateway can build no session
    obtain ⟨session, hcomplete, hlost⟩ : ∃ session,
        sampleHandshake.complete sumCrypto exitServerHello 64 = .ok session ∧
        ((answeredWorld 0 []).handles (session.frame checksumCipher [])).deliver = false :=
      ⟨_, rfl, rfl⟩
    have h₁ := reaches_completed (reaches_answered 0) hcomplete
    have h₂ := h₁.tail (@Step.send _ _ _ (answeredWorld 0 [session]) [] [] _ [] [] _ _ [] _ rfl
      (Session.outbound_of_le checksumCipher session hempty))
    exact ⟨_, _, h₂, rfl, rfl, hlost⟩
  · -- the number wraps around
    obtain ⟨session, hcomplete, hlost⟩ : ∃ session,
        sampleHandshake.complete sumCrypto exitServerHello 64 = .ok session ∧
        ((answeredWorld 64 []).handles ({ session with
          next := session.next + UInt64.ofNat (2 ^ 64 - 1) }.frame checksumCipher [])).deliver
          = false := ⟨_, rfl, rfl⟩
    have h₁ := reaches_completed (reaches_answered 64) hcomplete
    obtain ⟨w, h₂, hclients, hgateway, harrived⟩ := reaches_lost h₁ rfl (2 ^ 64 - 1)
    have h₃ := h₂.tail (@Step.send _ _ _ w [] [] _ [] [] _ _ [] _ hclients
      (Session.outbound_of_le checksumCipher _ hempty))
    refine ⟨_, _, h₃, List.mem_append_right _ (List.mem_singleton.mpr rfl), harrived, ?_⟩
    rw [World.handles, hgateway]
    exact hlost
  · -- both sessions number their first frame with one
    obtain ⟨session, hcomplete, hnext, hlost⟩ : ∃ session,
        sampleHandshake.complete sumCrypto exitServerHello 64 = .ok session ∧ session.next = 0 ∧
        (((answeredWorld 64 []).gateway.handleDatagram sumCrypto plainTokenLib checksumCipher threes
          (session.frame checksumCipher [])).2.2.handleDatagram sumCrypto plainTokenLib
          checksumCipher threes (session.frame checksumCipher [])).2.1.deliver = false :=
      ⟨_, rfl, rfl, rfl⟩
    have h₁ := reaches_completed (reaches_answered 64) hcomplete
    have h₂ := reaches_completed h₁ hcomplete
    have h₃ := h₂.tail (@Step.send _ _ _ (answeredWorld 64 [session, session]) [] [] _ [] [session]
      _ _ [] _ rfl (Session.outbound_of_le checksumCipher session hempty))
    have h₄ := h₃.tail (@Step.arrive _ _ _ _ threes (session.frame checksumCipher []) _ _ _
      (List.mem_append_right _ (List.mem_singleton.mpr rfl)) rfl)
    exact ⟨_, _, session, h₄, rfl, hnext, hlost⟩

end Sample

end HonestNetwork
end Gemina
