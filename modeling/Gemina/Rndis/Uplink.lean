/-
# Bringing up the uplink

The life of the uplink over the phone (`rndis_uplink.c`): `rndis_uplink_bring_up` claims the phone,
gets a lease from its DHCP server and asks for the hardware address of its router;
`rndis_uplink_send_udp` sends datagrams, and `rndis_uplink_close` ends it.

The phone is arbitrary here, see `Gemina.Rndis.Usb`.  Random numbers and uninitialised memory are
arguments.
-/
import Gemina.Rndis.Usb

namespace Gemina
namespace Rndis

open Buffer (write)

/-- `rndis_uplink_t`. -/
structure Uplink where
  usb : Usb
  mac : ByteArrayN 6
  clientIP : ByteArrayN 4
  gwMac : ByteArrayN 6
  sport : UInt16
  ready : Bool

/-- The structure after `memset`. -/
def Uplink.zero : Uplink :=
  ⟨Usb.zero, ByteArrayN.zero 6, ByteArrayN.zero 4, ByteArrayN.zero 6, 0, false⟩

/-- What `rand` returns: six bytes, the transaction and a number for the port. -/
structure Random where
  mac : ByteArrayN 6
  xid : UInt32
  port : ℕ

/-- The first byte of an address is made that of a locally administered unicast one. -/
lemma length_localMac (mac : ByteArrayN 6) :
    (mac.1.modifyHead fun b => (b &&& 0xfe) ||| 0x02).length = 6 := by
  rw [List.length_modifyHead]
  exact mac.2

/-- The address of the uplink. -/
def Random.localMac (rnd : Random) : ByteArrayN 6 :=
  ⟨rnd.mac.1.modifyHead fun b => (b &&& 0xfe) ||| 0x02, length_localMac rnd.mac⟩

/-- The port of the uplink. -/
def Random.sport (rnd : Random) : UInt16 := UInt16.ofNat (40000 + rnd.port % 20000)

/-- Uninitialised memory: the buffers, and the two leases. -/
structure Memory where
  frame : Bytes
  discoverBody : Bytes
  requestBody : Bytes
  msg : Bytes
  offer : Lease
  ack : Lease

/-- What a call of `rndis_uplink_bring_up` does: its result, the uplink and the phone, and what it
prints. -/
structure Outcome (δ : Type) where
  ret : ℤ
  up : Uplink
  link : Link δ
  printed : String

variable {δ : Type}

/-- The device is closed, and the reason is printed. -/
def Outcome.fail (up : Uplink) (link : Link δ) (printed : String) : Outcome δ :=
  ⟨1, { up with usb := usbClose up.usb }, link, printed⟩

/-- `match_offer`. -/
def matchOffer : MatchFn Lease := fun f len ctx => parseDhcpReply f len dhcpOffer ctx

/-- `match_ack`. -/
def matchAck : MatchFn Lease := fun f len ctx => parseDhcpReply f len dhcpAck ctx

/-- `match_arp`. -/
def matchArp (targetIP : ByteArrayN 4) : MatchFn (ByteArrayN 6) :=
  fun f len ctx => parseArpReply f len targetIP ctx

/-- The lease that is used: the router of the offer stands in for one that is missing. -/
def Lease.orRouterOf (ack offer : Lease) : Lease :=
  if !ack.hasRouter && offer.hasRouter then
    { ack with hasRouter := true, router := offer.router }
  else ack

/-- The part of `rndis_uplink_bring_up` behind the filter: DHCP and ARP. -/
def configure (B : Bus δ) (rnd : Random) (mem : Memory) (up : Uplink) (l : Link δ) :
    Option (Outcome δ) := do
  let up := { up with mac := rnd.localMac, sport := rnd.sport }
  let discover := buildDhcpDiscover up.mac rnd.xid mem.discoverBody mem.frame
  let (rc, l, offer) ←
    exchange B up.usb mem.msg discover.2 discover.1 matchOffer 5 l mem.offer
  if rc ≠ 1 then
    return .fail up l "FAIL dhcp-offer: no OFFER (is USB tethering on?)\n"
  let request := buildDhcpRequest up.mac rnd.xid offer mem.requestBody discover.2
  let (rc, l, ack) ← exchange B up.usb mem.msg request.2 request.1 matchAck 5 l mem.ack
  if rc ≠ 1 then
    return .fail up l "FAIL dhcp-ack: no ACK to our REQUEST\n"
  let ack := ack.orRouterOf offer
  if !ack.hasRouter then
    return .fail up l "FAIL lease: no router/gateway option in the lease\n"
  let up := { up with clientIP := ack.clientIP }
  let arp := buildArpRequest up.mac up.clientIP ack.router request.2
  let (rc, l, mac) ←
    exchange B up.usb mem.msg arp.2 arp.1 (matchArp ack.router) 6 l (ByteArrayN.zero 6)
  if rc ≠ 1 then
    return .fail up l "FAIL arp: gateway did not answer ARP\n"
  return ⟨0, { up with gwMac := mac, ready := true }, l, ""⟩

/-- `rndis_uplink_bring_up`. -/
def bringUp (B : Bus δ) (rnd : Random) (mem : Memory) (d : δ) : Option (Outcome δ) := do
  let (rc, usb) ← usbOpen B
  let up := { Uplink.zero with usb := usb }
  if rc ≠ 0 then
    return ⟨1, up, ⟨d, []⟩, "FAIL open: no RNDIS function claimed. Enable USB tethering.\n"⟩
  let (rc, d) ← usbInitialize B usb d
  if rc ≠ 0 then return .fail up ⟨d, []⟩ "FAIL init: INITIALIZE failed\n"
  let (rc, d) ← usbSetFilter B usb d packetFilter
  if rc ≠ 0 then return .fail up ⟨d, []⟩ "FAIL filter: set packet filter failed\n"
  configure B rnd mem up ⟨d, []⟩

/-- `rndis_uplink_send_udp`. -/
def sendUdp (B : Bus δ) (up : Uplink) (l : Link δ) (msg frame : Bytes) (dstIP : ByteArrayN 4)
    (dport : UInt16) (payload : Bytes) (plen : ℤ) : ℤ × Link δ :=
  if !up.ready then (-1, l)
  else
    let f := buildUdpFrame up.mac up.gwMac up.clientIP dstIP up.sport dport payload plen frame
    if f.1 < 0 then (-1, l) else usbSendFrame B up.usb l msg f.2 f.1

/-- `rndis_uplink_close`. -/
def closeUplink (up : Uplink) : Uplink := { up with usb := usbClose up.usb, ready := false }

/-! ## What the answers mean -/

/-- The frame is a reply of the given type, and grants the lease. -/
structure Grants (f : Bytes) (type : UInt8) (lease : Lease) : Prop where
  reply : ∃ dhcp, IsReply f dhcp ∧ messageType (options f dhcp) = some type ∧
    lease.clientIP.1 = f.slice (dhcp + 16) (dhcp + 20) ∧
    serverOption (options f dhcp) = (if lease.hasServerID then some lease.serverID.1 else none) ∧
    routerOption (options f dhcp) = if lease.hasRouter then some lease.router.1 else none

/-- The parser of replies reads inside the frame, and what it accepts grants a lease. -/
lemma parseDhcpReply_cases (f : Bytes) (type : UInt8) (ctx : Lease) :
    ∃ k lease, parseDhcpReply f f.length type ctx = some (k, lease) ∧
      (k ≠ 0 → Grants f type lease) := by
  by_cases hreply : ∃ dhcp, IsReply f dhcp
  · obtain ⟨dhcp, hdhcp⟩ := hreply
    obtain ⟨clientIP, ⟨k, lease⟩, hparse, hclientIP, hst⟩ :=
      parseDhcpReply_of_isReply hdhcp type ctx
    refine ⟨k, lease, hparse, fun hk => ⟨dhcp, hdhcp, ?_, ?_, hst.server, hst.router⟩⟩
    · by_contra htype
      exact hk (by rw [show k = _ from hst.matched, if_neg htype])
    · rw [show lease.clientIP = clientIP from hst.clientIP, hclientIP]
  · push Not at hreply
    exact ⟨0, ctx, parseDhcpReply_of_not hreply type ctx, by simp⟩

lemma matchOffer_safe : matchOffer.Safe := fun f ctx =>
  let ⟨k, lease, hparse, _⟩ := parseDhcpReply_cases f dhcpOffer ctx
  ⟨k, lease, hparse⟩

lemma matchAck_safe : matchAck.Safe := fun f ctx =>
  let ⟨k, lease, hparse, _⟩ := parseDhcpReply_cases f dhcpAck ctx
  ⟨k, lease, hparse⟩

lemma matchArp_safe (targetIP : ByteArrayN 4) : (matchArp targetIP).Safe := by
  intro f ctx
  rcases parseArpReply_cases f targetIP ctx with ⟨-, mac, -, hparse⟩ | ⟨-, hparse⟩
  · exact ⟨1, mac, hparse⟩
  · exact ⟨0, ctx, hparse⟩

lemma grants_of_match {f : Bytes} {type : UInt8} {ctx lease : Lease} {k : ℤ}
    (h : parseDhcpReply f f.length type ctx = some (k, lease)) (hk : k ≠ 0) :
    Grants f type lease := by
  obtain ⟨k', lease', hparse, hgrants⟩ := parseDhcpReply_cases f type ctx
  obtain ⟨rfl, rfl⟩ := Prod.mk.inj (Option.some_inj.mp (hparse.symm.trans h))
  exact hgrants hk

lemma isArpReply_of_match {f : Bytes} {targetIP : ByteArrayN 4} {ctx mac : ByteArrayN 6} {k : ℤ}
    (h : parseArpReply f f.length targetIP ctx = some (k, mac)) (hk : k ≠ 0) :
    IsArpReply f targetIP ∧ mac.1 = f.slice 22 28 := by
  rcases parseArpReply_cases f targetIP ctx with ⟨hreply, mac', hmac, hparse⟩ | ⟨-, hparse⟩
  · obtain ⟨-, rfl⟩ := Prod.mk.inj (Option.some_inj.mp (hparse.symm.trans h))
    exact ⟨hreply, hmac⟩
  · obtain ⟨rfl, -⟩ := Prod.mk.inj (Option.some_inj.mp (hparse.symm.trans h))
    exact absurd rfl hk

/-! ## Commands -/

/-- A response is looked at only where it was received. -/
lemma runCommand_safe (B : Bus δ) (u : Usb) (d : δ) (msg : Bytes) (type : UInt32) :
    ∃ rc d', runCommand B u d msg type = some (rc, d') := by
  rcases hcommand : command B u d msg 1025 with ⟨_ | resp, d'⟩
  · exact ⟨-1, d', by simp [runCommand, hcommand]⟩
  · have hdone : ∃ done, completes resp type = some done := by
      rw [completes]
      by_cases hlen : resp.length < 16
      · exact ⟨false, by rw [if_pos hlen]⟩
      · obtain ⟨t, ht⟩ := rd32_isSome (show 0 + 4 ≤ resp.length by omega)
        obtain ⟨status, hstatus⟩ := rd32_isSome (show 12 + 4 ≤ resp.length by omega)
        rw [if_neg hlen, ht, hstatus]
        simp only [Option.bind_eq_bind, Option.bind_some, Option.pure_def]
        split
        · exact ⟨false, rfl⟩
        · exact ⟨_, rfl⟩
    obtain ⟨done, hdone⟩ := hdone
    exact ⟨if done then 0 else -1, d', by simp [runCommand, hcommand, hdone]⟩

/-! ## Opening -/

lemma openFirst_ctx (u : Usb) (i : ℕ) (ds : List UsbDevice) : (openFirst u i ds).ctx = u.ctx := by
  induction ds generalizing i with
  | nil => rfl
  | cons d ds ih =>
    rw [openFirst]
    split
    · split
      · rfl
      · exact ih (i + 1)
    · exact ih (i + 1)

/-- The device is closed: there is neither a handle nor a context. -/
def Usb.Closed (u : Usb) : Prop := u.h = none ∧ u.ctx = false

/-- The first device that has an RNDIS function and can be opened. -/
def firstOpenable (ds : List UsbDevice) : Option ℕ :=
  ds.findIdx? fun d => d.function.isSome && d.opens

lemma openFirst_h (u : Usb) (hu : u.h = none) (i : ℕ) (ds : List UsbDevice) :
    (openFirst u i ds).h = (firstOpenable ds).map (i + ·) := by
  induction ds generalizing i with
  | nil => simpa [openFirst, firstOpenable] using hu
  | cons d ds ih =>
    have hrest : ((firstOpenable ds).map (i + 1 + ·)) =
        ((firstOpenable ds).map (· + 1)).map (i + ·) := by
      rw [Option.map_map]
      congr 1
      funext j
      simp only [Function.comp_apply]
      omega
    rw [openFirst]
    rcases hf : d.function with _ | ⟨control, data, epIn, epOut⟩
    · simp only [ih, hrest]
      simp [firstOpenable, List.findIdx?_cons, hf]
    · by_cases hopen : d.opens = true
      · simp [firstOpenable, List.findIdx?_cons, hf, hopen]
      · simp only [hopen, Bool.false_eq_true, if_false, ih, hrest]
        simp [firstOpenable, List.findIdx?_cons, hf, hopen]

/-- The list of devices cannot be read, although the library could be initialised. -/
def Bus.ListFails (B : Bus δ) : Prop := B.init = true ∧ B.devices = none

/-- The structure holds the first device that has an RNDIS function and can be opened. -/
def Usb.Opened (u : Usb) (B : Bus δ) : Prop :=
  u.ctx = true ∧ ∃ ds i, B.devices = some ds ∧ firstOpenable ds = some i ∧ u.h = some i

/-- Opening succeeds with the first device that has an RNDIS function and can be opened, or leaves
everything closed, unless the list of devices cannot be read. -/
lemma usbOpen_cases (B : Bus δ) :
    (∃ u, ¬ B.ListFails ∧ usbOpen B = some (0, u) ∧ u.Opened B) ∨
    (∃ u, ¬ B.ListFails ∧ usbOpen B = some (-1, u) ∧ u.Closed) ∨
    B.ListFails ∧ usbOpen B = none := by
  rw [usbOpen, Bus.ListFails]
  by_cases hinit : B.init = true
  swap
  · exact Or.inr (Or.inl ⟨Usb.zero, by simp [hinit], by simp [hinit], rfl, rfl⟩)
  simp only [hinit, Bool.not_true, Bool.false_eq_true, if_false, true_and]
  rcases hds : B.devices with _ | ds
  · exact Or.inr (Or.inr ⟨rfl, rfl⟩)
  have hctx := openFirst_ctx { Usb.zero with ctx := true } 0 ds
  have hh := openFirst_h { Usb.zero with ctx := true } rfl 0 ds
  simp only [reduceCtorEq, not_false_eq_true, true_and]
  generalize openFirst { Usb.zero with ctx := true } 0 ds = u at hctx hh ⊢
  rcases hu : u.h with _ | i
  · exact Or.inr (Or.inl ⟨_, rfl, rfl, rfl⟩)
  · simp only
    split
    · exact Or.inr (Or.inl ⟨_, rfl, rfl, rfl⟩)
    · refine Or.inl ⟨u, rfl, hctx, ds, i, hds, ?_, hu⟩
      rw [hu] at hh
      obtain ⟨j, hj, hji⟩ := Option.map_eq_some_iff.mp hh.symm
      rw [hj, ← hji, Nat.zero_add]

/-! ## The frames of the three exchanges -/

/-- The frame of the first exchange. -/
def Random.discover (rnd : Random) : Bytes :=
  clientFrame rnd.localMac rnd.xid dhcpDiscover none none []

/-- The frame of the second exchange, for the lease that was offered. -/
def Random.request (rnd : Random) (offer : Lease) : Bytes :=
  clientFrame rnd.localMac rnd.xid dhcpRequest (some offer.clientIP) offer.server []

lemma discover_sent (rnd : Random) (mem : Memory) :
    (buildDhcpDiscover rnd.localMac rnd.xid mem.discoverBody mem.frame).2.take
        (buildDhcpDiscover rnd.localMac rnd.xid mem.discoverBody mem.frame).1.toNat =
      rnd.discover := by
  rw [buildDhcpDiscover_eq, Int.toNat_natCast, clientFrame_append,
    List.take_left' length_clientFrame]
  rfl

lemma request_sent (rnd : Random) (offer : Lease) (body frame : Bytes) :
    (buildDhcpRequest rnd.localMac rnd.xid offer body frame).2.take
        (buildDhcpRequest rnd.localMac rnd.xid offer body frame).1.toNat =
      rnd.request offer := by
  rw [buildDhcpRequest_eq, Int.toNat_natCast, clientFrame_append,
    List.take_left' length_clientFrame]
  rfl

lemma arp_sent (mac : ByteArrayN 6) (srcIP targetIP : ByteArrayN 4) (frame : Bytes) :
    (buildArpRequest mac srcIP targetIP frame).2.take
        (buildArpRequest mac srcIP targetIP frame).1.toNat =
      arpRequestFrame mac srcIP targetIP := by
  rw [buildArpRequest_eq]
  exact List.take_left' (length_arpRequestFrame ..)

lemma discover_length (rnd : Random) (mem : Memory) :
    (buildDhcpDiscover rnd.localMac rnd.xid mem.discoverBody mem.frame).1 =
      rnd.discover.length := by
  rw [buildDhcpDiscover_eq, Random.discover, length_clientFrame]

lemma request_length (rnd : Random) (offer : Lease) (body frame : Bytes) :
    (buildDhcpRequest rnd.localMac rnd.xid offer body frame).1 = (rnd.request offer).length := by
  rw [buildDhcpRequest_eq, Random.request, length_clientFrame]

lemma arp_length (mac : ByteArrayN 6) (srcIP targetIP : ByteArrayN 4) (frame : Bytes) :
    (buildArpRequest mac srcIP targetIP frame).1 = (arpRequestFrame mac srcIP targetIP).length := by
  rw [buildArpRequest_eq, length_arpRequestFrame]
  rfl

/-! ## The result -/

/-- What an uplink that is up rests on: the frames that were exchanged. -/
structure Outcome.Up (o : Outcome δ) (B : Bus δ) (rnd : Random) : Prop where
  ready : o.up.ready = true
  /-- The handle is that of the first device with an RNDIS function that can be opened. -/
  opened : o.up.usb.Opened B
  mac_eq : o.up.mac = rnd.localMac
  sport_eq : o.up.sport = rnd.sport
  /-- An offer came after the discovery, an acknowledgement after the request of what was offered,
  and the router of the lease answered for its hardware address. -/
  exchanged : ∃ (offer ack : Lease) (offerFrame ackFrame arpFrame : Bytes)
      (evs₁ evs₂ evs₃ : List Event),
    o.link.events = (.sent rnd.discover :: evs₁ ++ [.received offerFrame]) ++
      (.sent (rnd.request offer) :: evs₂ ++ [.received ackFrame]) ++
      (.sent (arpRequestFrame rnd.localMac o.up.clientIP (ack.orRouterOf offer).router) :: evs₃ ++
        [.received arpFrame]) ∧
    Grants offerFrame dhcpOffer offer ∧ Grants ackFrame dhcpAck ack ∧
    o.up.clientIP = ack.clientIP ∧ (ack.orRouterOf offer).hasRouter = true ∧
    IsArpReply arpFrame (ack.orRouterOf offer).router ∧ o.up.gwMac.1 = arpFrame.slice 22 28

/-- What a failure leaves: a closed device, an uplink that is not ready, and a reason. -/
structure Outcome.Down (o : Outcome δ) : Prop where
  ready : o.up.ready = false
  closed : o.up.usb.Closed
  printed : o.printed ≠ ""

/-- The frame is a DHCP message or an ARP request from the given hardware address. -/
def IsQuestion (mac : ByteArrayN 6) (f : Bytes) : Prop :=
  (∃ m, readClientMessage f = some m ∧ m.chaddr = mac.1) ∨
    ∃ a, readArp f = some a ∧ a.oper = [0x00, 0x01] ∧ a.sha = mac.1

/-- What can have been sent and received in some attempts: not too much, and only questions were
sent. -/
structure Bounded (mac : ByteArrayN 6) (attempts : ℕ) (evs : List Event) : Prop where
  count_le : evs.countP Event.isSent ≤ attempts
  length_le : evs.length ≤ 17 * attempts
  questions : ∀ f, .sent f ∈ evs → IsQuestion mac f

lemma Exchanged.bounded {γ : Type} {mtch : MatchFn γ} {tx : Bytes} {attempts : ℕ} {ret : ℤ}
    {ctx' : γ} {evs : List Event} (h : Exchanged mtch tx attempts ret ctx' evs)
    {mac : ByteArrayN 6} (htx : IsQuestion mac tx) : Bounded mac attempts evs :=
  ⟨h.count_le, h.length_le, fun f hf => by rw [h.sends f hf]; exact htx⟩

lemma Bounded.append {mac : ByteArrayN 6} {a b : ℕ} {evs evs' : List Event}
    (h : Bounded mac a evs) (h' : Bounded mac b evs') : Bounded mac (a + b) (evs ++ evs') := by
  have hcount := h.count_le
  have hlen := h.length_le
  have hcount' := h'.count_le
  have hlen' := h'.length_le
  refine ⟨?_, ?_, ?_⟩
  · rw [List.countP_append]
    omega
  · rw [List.length_append]
    omega
  · intro f hf
    rcases List.mem_append.mp hf with hf | hf
    · exact h.questions f hf
    · exact h'.questions f hf

lemma Bounded.mono {mac : ByteArrayN 6} {a b : ℕ} {evs : List Event} (h : Bounded mac a evs)
    (hab : a ≤ b) : Bounded mac b evs :=
  ⟨h.count_le.trans hab, h.length_le.trans (by omega), h.questions⟩

lemma isQuestion_clientFrame (mac : ByteArrayN 6) (xid : UInt32) (msgtype : UInt8)
    (reqIP serverID : Option (ByteArrayN 4)) :
    IsQuestion mac (clientFrame mac xid msgtype reqIP serverID []) :=
  Or.inl ⟨_, readClientMessage_clientFrame .., rfl⟩

lemma isQuestion_arpRequestFrame (mac : ByteArrayN 6) (srcIP targetIP : ByteArrayN 4) :
    IsQuestion mac (arpRequestFrame mac srcIP targetIP) :=
  Or.inr ⟨_, readArp_arpRequestFrame .., rfl, rfl⟩

/-- The part behind the filter. -/
lemma configure_safe {B : Bus δ} (hB : B.Lawful) (rnd : Random) (mem : Memory) {up : Uplink}
    (hready : up.ready = false)
    (hopened : up.usb.Opened B) (d : δ) :
    ∃ o, configure B rnd mem up ⟨d, []⟩ = some o ∧ Bounded rnd.localMac 16 o.link.events ∧
      (o.ret = 0 ∧ o.Up B rnd ∨ o.ret = 1 ∧ o.Down) := by
  obtain ⟨rc₁, d₁, evs₁, offer, hex₁, h₁⟩ := exchange_safe hB up.usb matchOffer_safe mem.msg
    (buildDhcpDiscover rnd.localMac rnd.xid mem.discoverBody mem.frame).2
    (buildDhcpDiscover rnd.localMac rnd.xid mem.discoverBody mem.frame).1 5 ⟨d, []⟩ mem.offer
  rw [discover_sent] at h₁
  simp only [List.nil_append] at hex₁
  have hb₁ := h₁.bounded (isQuestion_clientFrame ..)
  by_cases hrc₁ : rc₁ = 1
  swap
  · refine ⟨.fail { up with mac := rnd.localMac, sport := rnd.sport } ⟨d₁, evs₁⟩
      "FAIL dhcp-offer: no OFFER (is USB tethering on?)\n", by simp [configure, hex₁, hrc₁],
      hb₁.mono (by omega), Or.inr ⟨rfl, hready, ⟨rfl, rfl⟩, by simp [Outcome.fail]⟩⟩
  obtain ⟨rc₂, d₂, evs₂, ack, hex₂, h₂⟩ := exchange_safe hB up.usb matchAck_safe mem.msg
    (buildDhcpRequest rnd.localMac rnd.xid offer mem.requestBody
      (buildDhcpDiscover rnd.localMac rnd.xid mem.discoverBody mem.frame).2).2
    (buildDhcpRequest rnd.localMac rnd.xid offer mem.requestBody
      (buildDhcpDiscover rnd.localMac rnd.xid mem.discoverBody mem.frame).2).1 5 ⟨d₁, evs₁⟩ mem.ack
  rw [request_sent] at h₂
  have hb₂ := hb₁.append (h₂.bounded (isQuestion_clientFrame ..))
  by_cases hrc₂ : rc₂ = 1
  swap
  · refine ⟨.fail { up with mac := rnd.localMac, sport := rnd.sport } ⟨d₂, evs₁ ++ evs₂⟩
      "FAIL dhcp-ack: no ACK to our REQUEST\n", by simp [configure, hex₁, hrc₁, hex₂, hrc₂],
      hb₂.mono (by omega), Or.inr ⟨rfl, hready, ⟨rfl, rfl⟩, by simp [Outcome.fail]⟩⟩
  by_cases hrouter : (ack.orRouterOf offer).hasRouter = true
  swap
  · refine ⟨.fail { up with mac := rnd.localMac, sport := rnd.sport } ⟨d₂, evs₁ ++ evs₂⟩
      "FAIL lease: no router/gateway option in the lease\n",
      by simp [configure, hex₁, hrc₁, hex₂, hrc₂, hrouter],
      hb₂.mono (by omega), Or.inr ⟨rfl, hready, ⟨rfl, rfl⟩, by simp [Outcome.fail]⟩⟩
  obtain ⟨rc₃, d₃, evs₃, mac, hex₃, h₃⟩ := exchange_safe hB up.usb
    (matchArp_safe (ack.orRouterOf offer).router) mem.msg
    (buildArpRequest rnd.localMac (ack.orRouterOf offer).clientIP (ack.orRouterOf offer).router
      (buildDhcpRequest rnd.localMac rnd.xid offer mem.requestBody
        (buildDhcpDiscover rnd.localMac rnd.xid mem.discoverBody mem.frame).2).2).2
    (buildArpRequest rnd.localMac (ack.orRouterOf offer).clientIP (ack.orRouterOf offer).router
      (buildDhcpRequest rnd.localMac rnd.xid offer mem.requestBody
        (buildDhcpDiscover rnd.localMac rnd.xid mem.discoverBody mem.frame).2).2).1 6
    ⟨d₂, evs₁ ++ evs₂⟩ (ByteArrayN.zero 6)
  rw [arp_sent] at h₃
  have hb₃ := hb₂.append (h₃.bounded (isQuestion_arpRequestFrame ..))
  have hclient : (ack.orRouterOf offer).clientIP = ack.clientIP := by
    rw [Lease.orRouterOf]
    split <;> rfl
  by_cases hrc₃ : rc₃ = 1
  swap
  · refine ⟨.fail ⟨up.usb, rnd.localMac, (ack.orRouterOf offer).clientIP, up.gwMac, rnd.sport,
        up.ready⟩ ⟨d₃, evs₁ ++ evs₂ ++ evs₃⟩
      "FAIL arp: gateway did not answer ARP\n",
      by simp [configure, hex₁, hrc₁, hex₂, hrc₂, hrouter, hex₃, hrc₃],
      hb₃, Or.inr ⟨rfl, hready, ⟨rfl, rfl⟩, by simp [Outcome.fail]⟩⟩
  refine ⟨⟨0, ⟨up.usb, rnd.localMac, (ack.orRouterOf offer).clientIP, mac, rnd.sport, true⟩,
      ⟨d₃, evs₁ ++ evs₂ ++ evs₃⟩, ""⟩,
    by simp [configure, hex₁, hrc₁, hex₂, hrc₂, hrouter, hex₃, hrc₃], hb₃, Or.inl ⟨rfl, ?_⟩⟩
  obtain ⟨between₁, offerFrame, c₁, k₁, heq₁, hmatch₁, hk₁⟩ := h₁.last hrc₁
  obtain ⟨between₂, ackFrame, c₂, k₂, heq₂, hmatch₂, hk₂⟩ := h₂.last hrc₂
  obtain ⟨between₃, arpFrame, c₃, k₃, heq₃, hmatch₃, hk₃⟩ := h₃.last hrc₃
  obtain ⟨harp, hmac⟩ := isArpReply_of_match hmatch₃ hk₃
  exact ⟨rfl, hopened, rfl, rfl, offer, ack, offerFrame, ackFrame, arpFrame, between₁, between₂,
    between₃, by rw [heq₁, heq₂, heq₃], grants_of_match hmatch₁ hk₁, grants_of_match hmatch₂ hk₂,
    hclient, hrouter, harp, hmac⟩

/-- **Bringing up the uplink is safe**, unless the list of devices cannot be read: then
`rndis_usb_open` frees a pointer that was never set.  Otherwise, whatever devices are on the bus and
whatever the phone answers, `rndis_uplink_bring_up` returns, after at most 16 sends, and has looked
at nothing but what was received.  It sends nothing but DHCP messages and ARP requests with its own
hardware address.  If it returns 0, then the uplink is ready and open on the first device that has
an RNDIS function and can be opened; the client's address is that of an acknowledgement which came
after a request of an offered lease; and the hardware address of the router is that of an ARP reply
from the router of the lease.  If not, then the device is closed, the uplink is not ready, and the
reason was printed. -/
theorem bring_up_safe {B : Bus δ} (hB : B.Lawful) (rnd : Random) (mem : Memory) (d : δ) :
    (B.ListFails ∧ bringUp B rnd mem d = none) ∨
    ¬ B.ListFails ∧ ∃ o, bringUp B rnd mem d = some o ∧ Bounded rnd.localMac 16 o.link.events ∧
      (o.ret = 0 ∧ o.Up B rnd ∨ o.ret = 1 ∧ o.Down) := by
  have hnil : Bounded rnd.localMac 16 [] := ⟨by simp, by simp, by simp⟩
  rcases usbOpen_cases B with ⟨u, hlist, hopen, hopened⟩ | ⟨u, hlist, hopen, hclosed⟩ |
    ⟨hlist, hopen⟩
  rotate_left
  · exact Or.inr ⟨hlist, ⟨1, { Uplink.zero with usb := u }, ⟨d, []⟩,
      "FAIL open: no RNDIS function claimed. Enable USB tethering.\n"⟩, by simp [bringUp, hopen],
      hnil, Or.inr ⟨rfl, rfl, hclosed, by simp⟩⟩
  · exact Or.inl ⟨hlist, by simp [bringUp, hopen]⟩
  refine Or.inr ⟨hlist, ?_⟩
  obtain ⟨rc₁, d₁, hinit⟩ := runCommand_safe B u d initMsg msgInitCmplt
  by_cases hrc₁ : rc₁ = 0
  swap
  · exact ⟨.fail { Uplink.zero with usb := u } ⟨d₁, []⟩ "FAIL init: INITIALIZE failed\n",
      by simp [bringUp, hopen, usbInitialize, hinit, hrc₁], hnil,
      Or.inr ⟨rfl, rfl, ⟨rfl, rfl⟩, by simp [Outcome.fail]⟩⟩
  obtain ⟨rc₂, d₂, hset⟩ := runCommand_safe B u d₁ (setMsg packetFilter) msgSetCmplt
  by_cases hrc₂ : rc₂ = 0
  swap
  · exact ⟨.fail { Uplink.zero with usb := u } ⟨d₂, []⟩ "FAIL filter: set packet filter failed\n",
      by simp [bringUp, hopen, usbInitialize, hinit, hrc₁, usbSetFilter, hset, hrc₂], hnil,
      Or.inr ⟨rfl, rfl, ⟨rfl, rfl⟩, by simp [Outcome.fail]⟩⟩
  obtain ⟨o, hconf, hbounded, hcases⟩ := @configure_safe δ B hB rnd mem
    { Uplink.zero with usb := u } rfl hopened d₂
  refine ⟨o, ?_, hbounded, hcases⟩
  simpa [bringUp, hopen, usbInitialize, hinit, hrc₁, usbSetFilter, hset, hrc₂] using hconf

section Sample

/-- What a phone answers, whatever it is asked: its responses to the commands, and the messages with
its frames. -/
structure Script where
  responses : List Bytes
  messages : List Bytes

/-- A bus with a phone that takes everything and answers by its script. -/
def scriptedBus : Bus Script where
  init := true
  devices := some [⟨none, true⟩, ⟨some [⟨0xE0, 0, []⟩, ⟨0x0A, 1, [0x81, 0x02]⟩], true⟩]
  claim _ _ := true
  controlOut s _ msg := (msg.length, s)
  controlIn s _ cap :=
    (s.responses.head?.map (List.take cap), { s with responses := s.responses.tail })
  bulkOut s _ msg := ((0, msg.length), s)
  bulkIn s _ cap := (s.messages.head?.map (List.take cap), { s with messages := s.messages.tail })

lemma scriptedBus_lawful : scriptedBus.Lawful := by
  refine ⟨?_, ?_⟩
  · rintro ⟨_ | ⟨r, rs⟩, ms⟩ ifc cap data d' h
    · cases h
    · obtain ⟨h, -⟩ := Prod.mk.inj h
      rw [← Option.some_inj.mp h]
      exact List.length_take_le _ _
  · rintro ⟨rs, _ | ⟨m, ms⟩⟩ ep cap data d' h
    · cases h
    · obtain ⟨h, -⟩ := Prod.mk.inj h
      rw [← Option.some_inj.mp h]
      exact List.length_take_le _ _

/-- A reply that grants an address, which is that of the router as well. -/
def sampleReply (type : UInt8) : Bytes :=
  zeros 12 ++ [0x08, 0x00, 0x45] ++ zeros 8 ++ [17] ++ zeros 10 ++ [0, 67, 0, 68] ++ zeros 4 ++
    [2] ++ zeros 15 ++ [192, 168, 42, 1] ++ zeros 220 ++ [53, 1, type, 3, 4, 192, 168, 42, 1, 255]

/-- The message that carries a frame. -/
def packetMessage (f : Bytes) : Bytes := packetHeader f.length ++ f

/-- The phone completes both commands, offers a lease, confirms it, and its router answers. -/
def sampleScript : Script where
  responses := [le32 msgInitCmplt ++ le32 16 ++ le32 1 ++ le32 0,
    le32 msgSetCmplt ++ le32 16 ++ le32 2 ++ le32 0]
  messages := [packetMessage (sampleReply dhcpOffer), packetMessage (sampleReply dhcpAck),
    packetMessage sampleArpReply]

def sampleRandom : Random := ⟨sampleMac, 7, 123⟩

def sampleMemory : Memory := ⟨[], [], [], [], Lease.zero, Lease.zero⟩

/-- The uplink comes up over the phone. -/
theorem bring_up_safe_answered :
    scriptedBus.Lawful ∧ ∃ o, bringUp scriptedBus sampleRandom sampleMemory sampleScript = some o ∧
      o.ret = 0 ∧ o.Up scriptedBus sampleRandom := by
  have hret : (bringUp scriptedBus sampleRandom sampleMemory sampleScript).map Outcome.ret
      = some 0 := by decide +kernel
  refine ⟨scriptedBus_lawful, ?_⟩
  rcases bring_up_safe scriptedBus_lawful sampleRandom sampleMemory sampleScript with
    ⟨-, hnone⟩ | ⟨-, o, hrun, -, hup | ⟨hfail, -⟩⟩
  · rw [hnone] at hret
    cases hret
  · exact ⟨o, hrun, hup⟩
  · rw [hrun, Option.map_some, hfail] at hret
    cases hret

end Sample

end Rndis
end Gemina
