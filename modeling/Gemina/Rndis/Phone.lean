/-
# An honest phone

The uplink meets a phone that does its part: it completes the commands, answers the questions of the
uplink and forwards everything else.  By a schedule of its own it may miss a few questions, and send
other frames before it answers one or misses it.  Then the uplink comes up with the lease of the
phone, and what is sent over it reaches the network as it was meant.
-/
import Gemina.Rndis.Uplink

namespace Gemina
namespace Rndis

/-! ## The phone -/

/-- What a phone gives to the host, and the frames in which it says so. -/
structure Phone where
  devices : List UsbDevice
  clientIP : ByteArrayN 4
  router : ByteArrayN 4
  routerMac : ByteArrayN 6
  offerFrame : Bytes
  ackFrame : Bytes
  arpFrame : Bytes
  /-- Whether the phone hears the question with the given number. -/
  hears : ℕ → Bool
  /-- Other frames, which come after this question and before its answer. -/
  chatter : ℕ → List Bytes

/-- The state of a phone. -/
structure PhoneState where
  /-- How many questions it has been asked. -/
  asked : ℕ
  /-- The response to the last command. -/
  response : Bytes
  /-- The frames for the host. -/
  pending : List Bytes
  /-- The frames that went to the network. -/
  forwarded : List Bytes

/-- The frame is a DHCP message or an ARP packet. -/
def isLocal (f : Bytes) : Bool := (readClientMessage f).isSome || (readArp f).isSome

/-- The answer to a question. -/
def Phone.answer (ph : Phone) (f : Bytes) : List Bytes :=
  match readClientMessage f, readArp f with
  | some m, _ =>
    if m.type = dhcpDiscover then [ph.offerFrame]
    else if m.type = dhcpRequest ∧ m.requestedIP = some ph.clientIP.1 then [ph.ackFrame]
    else []
  | none, some a => if a.oper = [0x00, 0x01] ∧ a.tpa = ph.router.1 then [ph.arpFrame] else []
  | none, none => []

/-- What the phone does with a frame. -/
def Phone.receive (ph : Phone) (s : PhoneState) (f : Bytes) : PhoneState :=
  if isLocal f then
    { s with
      asked := s.asked + 1
      pending := s.pending ++ ph.chatter s.asked ++
        if ph.hears s.asked then ph.answer f else [] }
  else { s with forwarded := s.forwarded ++ [f] }

/-- The frame in a message. -/
def frameIn (msg : Bytes) : Option Bytes := do
  let (n, pos) ← unwrapPacket msg msg.length
  let pos ← pos
  return msg.slice pos (pos + n.toNat)

/-- The response to a command: its type with the bit of a completion, its request id, and
success. -/
def completion (msg : Bytes) : Bytes :=
  le32 ((rd32 msg 0).getD 0 ||| 0x80000000) ++ (le32 16 ++ (le32 ((rd32 msg 8).getD 0) ++ le32 0))

/-- The bus with the phone on it. -/
def Phone.bus (ph : Phone) : Bus PhoneState where
  init := true
  devices := some ph.devices
  claim _ _ := true
  controlOut s _ msg := (msg.length, { s with response := completion msg })
  controlIn s _ cap := (some (s.response.take cap), s)
  bulkOut s _ msg := ((0, msg.length), ((frameIn msg).map (ph.receive s)).getD s)
  bulkIn s _ cap :=
    match s.pending with
    | [] => (none, s)
    | f :: fs => (some ((packetMessage f).take cap), { s with pending := fs })

/-- The frame fits into a message. -/
def Fits (f : Bytes) : Prop := 0 < f.length ∧ packetHdr + f.length ≤ 2048

/-- The frame answers no question of the uplink. -/
def Phone.Unrelated (ph : Phone) (f : Bytes) : Prop :=
  (∀ dhcp, ¬ IsReply f dhcp) ∧ ¬ IsArpReply f ph.router

/-- **What an honest phone does**: one of its devices has an RNDIS function and can be opened, its
frames fit into messages and mean what they should.  The router may be named in the offer only. -/
structure Phone.Honest (ph : Phone) : Prop where
  openable : (firstOpenable ph.devices).isSome = true
  fits : ∀ f ∈ [ph.offerFrame, ph.ackFrame, ph.arpFrame], Fits f
  chatter : ∀ n, (ph.chatter n).length < 16 ∧ ∀ f ∈ ph.chatter n, Fits f ∧ ph.Unrelated f
  lease : ∃ offer ack, Grants ph.offerFrame dhcpOffer offer ∧ Grants ph.ackFrame dhcpAck ack ∧
    offer.clientIP = ph.clientIP ∧ ack.clientIP = ph.clientIP ∧
    (ack.orRouterOf offer).hasRouter = true ∧ (ack.orRouterOf offer).router = ph.router
  arp : IsArpReply ph.arpFrame ph.router ∧ ph.arpFrame.slice 22 28 = ph.routerMac.1

/-- A phone in a state from which the uplink can come up: it misses at most four of the next sixteen
questions, whichever they are, and not too many other frames come first. -/
structure Phone.Ready (ph : Phone) (s : PhoneState) : Prop where
  misses : ((Finset.range 16).filter fun i => ph.hears (s.asked + i) = false).card ≤ 4
  pending : ∀ f ∈ s.pending, Fits f ∧ ph.Unrelated f
  length_lt : s.pending.length + (ph.chatter s.asked).length < 16

/-- Of five questions in a row the phone hears one. -/
lemma Phone.Ready.hears {ph : Phone} {s : PhoneState} (h : ph.Ready s) {n : ℕ} (hn : s.asked ≤ n)
    (hle : n + 5 ≤ s.asked + 16) : ∃ i < 5, ph.hears (n + i) = true := by
  by_contra hnone
  push Not at hnone
  obtain ⟨k, rfl⟩ := Nat.exists_eq_add_of_le hn
  have hsub : (Finset.range 5).image (k + ·) ⊆
      (Finset.range 16).filter fun i => ph.hears (s.asked + i) = false := by
    intro i hi
    obtain ⟨j, hj, rfl⟩ := Finset.mem_image.mp hi
    have hmiss := hnone j (Finset.mem_range.mp hj)
    rw [Nat.add_assoc] at hmiss
    exact Finset.mem_filter.mpr ⟨Finset.mem_range.mpr (by have := Finset.mem_range.mp hj; omega),
      Bool.eq_false_iff.mpr hmiss⟩
  have hcard := (Finset.card_le_card hsub).trans h.misses
  rw [Finset.card_image_of_injective _ (add_right_injective k), Finset.card_range] at hcard
  omega

/-! ## One transfer -/

variable {ph : Phone} {γ : Type}

lemma length_packetMessage (f : Bytes) : (packetMessage f).length = packetHdr + f.length := by
  rw [packetMessage, List.length_append, length_packetHeader]

lemma unwrapPacket_packetMessage {f : Bytes} (h : Fits f) :
    unwrapPacket (packetMessage f) (packetMessage f).length =
      some ((f.length : ℤ), some packetHdr) := by
  have hunwrap := @unwrapPacket_packetHeader f [] (by
    have := h.2
    simp only [List.length_nil, intMax]
    omega)
  rw [List.append_nil] at hunwrap
  exact hunwrap

lemma slice_packetMessage (f : Bytes) :
    (packetMessage f).slice packetHdr (packetHdr + f.length) = f := by
  have hparts : packetMessage f = packetHeader f.length ++ (f ++ []) := by
    rw [List.append_nil, packetMessage]
  rw [hparts]
  exact List.slice_mid (length_packetHeader _) rfl

/-- The phone finds the frame in a message. -/
lemma frameIn_packetMessage {f : Bytes} (h : Fits f) : frameIn (packetMessage f) = some f := by
  simp only [frameIn, unwrapPacket_packetMessage h, Option.bind_eq_bind, Option.bind_some,
    Int.toNat_natCast, slice_packetMessage, Option.pure_def]

/-- Only so much of the buffer goes into the message. -/
lemma wrapPacket_take (frame msg : Bytes) (n cap : ℤ) :
    wrapPacket (frame.take n.toNat) n msg cap = wrapPacket frame n msg cap := by
  simp only [wrapPacket, List.take_take, Nat.min_self]

/-- **A frame that is sent** is what the phone receives. -/
lemma usbSendFrame_phone (u : Usb) (s : PhoneState) (evs : List Event) (msg : Bytes)
    {frame tx : Bytes} {n : ℤ} (hn : n = tx.length) (htx : frame.take n.toNat = tx) (h : Fits tx) :
    usbSendFrame ph.bus u ⟨s, evs⟩ msg frame n = (0, ⟨ph.receive s tx, evs ++ [.sent tx]⟩) := by
  have hcap : (packetHdr : ℤ) + tx.length ≤ 2048 := by exact_mod_cast h.2
  have htake : (packetHeader tx.length ++ (tx ++ msg.drop (packetHdr + tx.length))).take
      ((packetHdr : ℤ) + tx.length).toNat = packetMessage tx := by
    rw [← List.append_assoc, ← packetMessage, ← length_packetMessage,
      show ((packetHdr : ℤ) + tx.length).toNat = (packetMessage tx).length by
        rw [length_packetMessage]
        omega]
    exact List.take_left
  have hlen : ((packetMessage tx).length : ℤ) = packetHdr + tx.length := by
    rw [length_packetMessage]
    push_cast
    rfl
  have hneg : ¬ ((packetHdr : ℤ) + tx.length < 0) := by omega
  rw [usbSendFrame, ← wrapPacket_take, htx, hn, wrapPacket_of_le hcap]
  simp only [if_neg hneg, htake, Phone.bus, frameIn_packetMessage h, hlen, Option.map_some,
    Option.getD_some]
  rw [if_pos (by simp)]

lemma usbRecvFrame_phone_nil (u : Usb) {s : PhoneState} (hs : s.pending = []) (evs : List Event) :
    usbRecvFrame ph.bus u ⟨s, evs⟩ = some (-1, none, ⟨s, evs⟩) := by
  simp [usbRecvFrame, Phone.bus, hs]

/-- **A frame that is received** is the next one that the phone has. -/
lemma usbRecvFrame_phone_cons (u : Usb) {s : PhoneState} {f : Bytes} {fs : List Bytes}
    (hs : s.pending = f :: fs) (h : Fits f) (evs : List Event) :
    usbRecvFrame ph.bus u ⟨s, evs⟩ =
      some ((f.length : ℤ), some f, ⟨{ s with pending := fs }, evs ++ [.received f]⟩) := by
  have htake : (packetMessage f).take 2048 = packetMessage f :=
    List.take_of_length_le (by rw [length_packetMessage]; exact h.2)
  have hframe : ((packetMessage f).drop packetHdr).take f.length = f := by
    rw [packetMessage, List.drop_left' (length_packetHeader _), List.take_length]
  simp [usbRecvFrame, Phone.bus, hs, htake, unwrapPacket_packetMessage h, hframe]

/-! ## An exchange -/

/-- The matching function passes over the frame. -/
def MatchFn.Ignores (mtch : MatchFn γ) (f : Bytes) : Prop :=
  ∀ ctx, mtch f f.length ctx = some (0, ctx)

/-- The frames before the one that counts are read and passed over. -/
lemma drain_phone_append (u : Usb) {mtch : MatchFn γ} {junk fs : List Bytes}
    (hjunk : ∀ f ∈ junk, Fits f ∧ mtch.Ignores f) (r : ℕ) (s : PhoneState)
    (hs : s.pending = junk ++ fs) (evs : List Event) (ctx : γ) :
    drain ph.bus u mtch (junk.length + r) ⟨s, evs⟩ ctx =
      drain ph.bus u mtch r ⟨{ s with pending := fs }, evs ++ junk.map .received⟩ ctx := by
  induction junk generalizing s evs with
  | nil =>
    rw [List.nil_append] at hs
    simp [← hs]
  | cons f junk ih =>
    obtain ⟨hfits, hignores⟩ := hjunk f List.mem_cons_self
    have hpos : 0 < (f.length : ℤ) := by exact_mod_cast hfits.1
    have hs' : s.pending = f :: (junk ++ fs) := hs
    rw [List.length_cons, Nat.succ_add, drain, usbRecvFrame_phone_cons u hs' hfits evs]
    simp only [Option.bind_eq_bind, Option.bind_some, hpos, if_true, hignores ctx, ne_eq,
      not_true_eq_false, if_false]
    rw [ih (fun g hg => hjunk g (List.mem_cons_of_mem _ hg)) { s with pending := junk ++ fs } rfl]
    simp

/-- Nothing is left to be read. -/
lemma drain_phone_nil (u : Usb) (mtch : MatchFn γ) (r : ℕ) {s : PhoneState} (hs : s.pending = [])
    (evs : List Event) (ctx : γ) :
    drain ph.bus u mtch r ⟨s, evs⟩ ctx = some (false, ⟨s, evs⟩, ctx) := by
  induction r with
  | zero => rfl
  | succ r ih => simp [drain, usbRecvFrame_phone_nil u hs, ih]

section Exchange

variable {mtch : MatchFn γ} {Q : γ → Prop} {frame tx answer : Bytes} {n : ℤ}

/-- **An exchange with the phone** ends with its answer, as soon as it hears the question. -/
lemma exchange_phone (hph : ph.Honest) (u : Usb) (msg : Bytes) (hn : n = tx.length)
    (htx : frame.take n.toNat = tx) (hfits : Fits tx) (hlocal : isLocal tx = true)
    (hanswer : ph.answer tx = [answer]) (hafits : Fits answer)
    (hmatch : ∀ ctx, ∃ k ctx', mtch answer answer.length ctx = some (k, ctx') ∧ k ≠ 0 ∧ Q ctx')
    (hignores : ∀ f, ph.Unrelated f → mtch.Ignores f) (attempts : ℕ) (s : PhoneState)
    (hears : ∃ i < attempts, ph.hears (s.asked + i) = true)
    (hpending : ∀ f ∈ s.pending, Fits f ∧ ph.Unrelated f)
    (hlen : s.pending.length + (ph.chatter s.asked).length < 16) (evs : List Event) (ctx : γ) :
    ∃ m evs' ctx', s.asked ≤ m ∧ m ≤ s.asked + attempts ∧
      exchange ph.bus u msg frame n mtch attempts ⟨s, evs⟩ ctx =
        some (1, ⟨⟨m, s.response, [], s.forwarded⟩, evs'⟩, ctx') ∧ Q ctx' := by
  induction attempts generalizing s evs with
  | zero =>
    obtain ⟨i, hi, -⟩ := hears
    omega
  | succ attempts ih =>
    -- what waits and what comes before the answer is passed over
    have hjunk : ∀ f ∈ s.pending ++ ph.chatter s.asked, Fits f ∧ mtch.Ignores f := by
      intro f hf
      rcases List.mem_append.mp hf with hf | hf
      · exact ⟨(hpending f hf).1, hignores f (hpending f hf).2⟩
      · obtain ⟨hfit, hunrelated⟩ := (hph.chatter s.asked).2 f hf
        exact ⟨hfit, hignores f hunrelated⟩
    by_cases hd : ph.hears s.asked = true
    · obtain ⟨k, ctx', hm, hk, hQ⟩ := hmatch ctx
      have hrecv : ph.receive s tx = { s with
          asked := s.asked + 1
          pending := (s.pending ++ ph.chatter s.asked) ++ [answer] } := by
        simp [Phone.receive, hlocal, hd, hanswer]
      obtain ⟨r, hr⟩ : ∃ r, 16 = (s.pending ++ ph.chatter s.asked).length + (r + 1) :=
        ⟨16 - (s.pending ++ ph.chatter s.asked).length - 1, by rw [List.length_append]; omega⟩
      have hdrain : ∀ evs, ∃ evs', drain ph.bus u mtch 16 ⟨{ s with
            asked := s.asked + 1
            pending := (s.pending ++ ph.chatter s.asked) ++ [answer] }, evs⟩ ctx =
          some (true, ⟨⟨s.asked + 1, s.response, [], s.forwarded⟩, evs'⟩, ctx') := by
        intro evs
        rw [hr, drain_phone_append u hjunk (r + 1) _ rfl evs ctx, drain,
          usbRecvFrame_phone_cons u rfl hafits]
        simp [hafits.1, hm, hk]
      obtain ⟨evs', hdrain⟩ := hdrain (evs ++ [.sent tx])
      refine ⟨s.asked + 1, evs', ctx', by omega, by omega, ?_, hQ⟩
      rw [exchange, usbSendFrame_phone u s evs msg hn htx hfits]
      simp only [ne_eq, not_true_eq_false, if_false, hrecv, hdrain, Option.bind_eq_bind,
        Option.bind_some, if_true, Option.pure_def]
    · -- the question was missed, and is asked again
      have hrecv : ph.receive s tx = { s with
          asked := s.asked + 1, pending := s.pending ++ ph.chatter s.asked } := by
        simp [Phone.receive, hlocal, hd]
      obtain ⟨r, hr⟩ : ∃ r, 16 = (s.pending ++ ph.chatter s.asked).length + r :=
        ⟨16 - (s.pending ++ ph.chatter s.asked).length, by rw [List.length_append]; omega⟩
      have hdrain : ∀ evs, ∃ evs', drain ph.bus u mtch 16 ⟨{ s with
            asked := s.asked + 1, pending := s.pending ++ ph.chatter s.asked }, evs⟩ ctx =
          some (false, ⟨⟨s.asked + 1, s.response, [], s.forwarded⟩, evs'⟩, ctx) := by
        intro evs
        rw [hr, @drain_phone_append ph γ u mtch _ [] hjunk r _ (by simp) evs ctx]
        exact ⟨_, drain_phone_nil u mtch r rfl _ ctx⟩
      obtain ⟨evs', hdrain⟩ := hdrain (evs ++ [.sent tx])
      have hlater : ∃ i < attempts, ph.hears (s.asked + 1 + i) = true := by
        obtain ⟨_ | i, hi, hhears⟩ := hears
        · exact absurd hhears hd
        · exact ⟨i, by omega, by rwa [Nat.add_assoc, Nat.add_comm 1 i]⟩
      obtain ⟨m, evs'', ctx', hle, hle', hex, hQ⟩ :=
        ih ⟨s.asked + 1, s.response, [], s.forwarded⟩ hlater (by simp)
          (by simpa using (hph.chatter (s.asked + 1)).1) evs'
      refine ⟨m, evs'', ctx', by simp only at hle; omega, by simp only at hle'; omega, ?_, hQ⟩
      simp [exchange, usbSendFrame_phone u s evs msg hn htx hfits, hrecv, hdrain, hex]

end Exchange

/-! ## The answers -/

/-- What a frame grants is determined, as far as the uplink uses it. -/
lemma Grants.unique {f : Bytes} {type type' : UInt8} {lease lease' : Lease}
    (h : Grants f type lease) (h' : Grants f type' lease') :
    lease.clientIP = lease'.clientIP ∧ lease.hasRouter = lease'.hasRouter ∧
      (lease.hasRouter = true → lease.router = lease'.router) := by
  obtain ⟨dhcp, hreply, -, hip, -, hrouter⟩ := h.reply
  obtain ⟨dhcp', hreply', -, hip', -, hrouter'⟩ := h'.reply
  obtain rfl := hreply.unique hreply'
  have hsame := hrouter.symm.trans hrouter'
  refine ⟨Subtype.ext (hip.trans hip'.symm), ?_⟩
  cases hr : lease.hasRouter <;> cases hr' : lease'.hasRouter <;> simp [hr, hr'] at hsame ⊢
  exact Subtype.ext hsame

/-- The router of the two leases together. -/
lemma Lease.hasRouter_orRouterOf (ack offer : Lease) :
    (ack.orRouterOf offer).hasRouter = (ack.hasRouter || offer.hasRouter) := by
  rw [Lease.orRouterOf]
  cases ha : ack.hasRouter <;> cases ho : offer.hasRouter <;> simp [ha]

lemma Lease.router_orRouterOf (ack offer : Lease) (h : (ack.orRouterOf offer).hasRouter = true) :
    (ack.orRouterOf offer).router = if ack.hasRouter then ack.router else offer.router := by
  rw [Lease.hasRouter_orRouterOf] at h
  rw [Lease.orRouterOf]
  cases ha : ack.hasRouter <;> cases ho : offer.hasRouter <;> simp [ha, ho] at h ⊢

/-- A frame that grants a lease is accepted, whatever was known before. -/
lemma match_of_grants {f : Bytes} {type : UInt8} {lease : Lease} (h : Grants f type lease)
    (ctx : Lease) :
    ∃ k lease', parseDhcpReply f f.length type ctx = some (k, lease') ∧ k ≠ 0 ∧
      Grants f type lease' := by
  obtain ⟨dhcp, hreply, htype, -⟩ := h.reply
  obtain ⟨clientIP, ⟨k, lease'⟩, hparse, -, hst⟩ := parseDhcpReply_of_isReply hreply type ctx
  have hk : k ≠ 0 := by
    rw [show k = _ from hst.matched, if_pos htype]
    decide
  exact ⟨k, lease', hparse, hk, grants_of_match hparse hk⟩

lemma match_of_isArpReply {f : Bytes} {targetIP : ByteArrayN 4} {mac : ByteArrayN 6}
    (h : IsArpReply f targetIP) (hmac : f.slice 22 28 = mac.1) (ctx : ByteArrayN 6) :
    ∃ k mac', matchArp targetIP f f.length ctx = some (k, mac') ∧ k ≠ 0 ∧ mac' = mac := by
  rcases parseArpReply_cases f targetIP ctx with ⟨-, mac', hmac', hparse⟩ | ⟨hno, -⟩
  · exact ⟨1, mac', hparse, by decide, Subtype.ext (hmac'.trans hmac)⟩
  · exact absurd h hno

/-- Unrelated frames are passed over in every exchange. -/
lemma Phone.Unrelated.ignored {f : Bytes} (h : ph.Unrelated f) :
    matchOffer.Ignores f ∧ matchAck.Ignores f ∧ (matchArp ph.router).Ignores f := by
  refine ⟨fun ctx => parseDhcpReply_of_not h.1 _ ctx, fun ctx => parseDhcpReply_of_not h.1 _ ctx,
    fun ctx => ?_⟩
  rcases parseArpReply_cases f ph.router ctx with ⟨hreply, -⟩ | ⟨-, hparse⟩
  · exact absurd hreply h.2
  · exact hparse

/-! ## The questions -/

lemma fits_clientFrame (mac : ByteArrayN 6) (xid : UInt32) (msgtype : UInt8)
    (reqIP serverID : Option (ByteArrayN 4)) :
    Fits (clientFrame mac xid msgtype reqIP serverID []) := by
  have hle := @length_clientBody_le mac xid msgtype reqIP serverID
  rw [Fits, length_clientFrame, packetHdr]
  omega

lemma isLocal_clientFrame (mac : ByteArrayN 6) (xid : UInt32) (msgtype : UInt8)
    (reqIP serverID : Option (ByteArrayN 4)) :
    isLocal (clientFrame mac xid msgtype reqIP serverID []) = true := by
  simp [isLocal, readClientMessage_clientFrame]

lemma Phone.answer_discover (rnd : Random) : ph.answer rnd.discover = [ph.offerFrame] := by
  simp [Phone.answer, Random.discover, readClientMessage_clientFrame]

lemma Phone.answer_request (rnd : Random) {offer : Lease} (h : offer.clientIP = ph.clientIP) :
    ph.answer (rnd.request offer) = [ph.ackFrame] := by
  have hne : dhcpRequest ≠ dhcpDiscover := by decide
  simp [Phone.answer, Random.request, readClientMessage_clientFrame, hne, h]

/-- An ARP request is no DHCP message. -/
lemma readClientMessage_arpRequestFrame (mac : ByteArrayN 6) (srcIP targetIP : ByteArrayN 4) :
    readClientMessage (arpRequestFrame mac srcIP targetIP) = none := by
  have htype : (arpRequestFrame mac srcIP targetIP).slice 12 14 = [0x08, 0x06] := by
    have hparts : arpRequestFrame mac srcIP targetIP = (bcastMac.1 ++ mac.1) ++
        ([0x08, 0x06] ++ ([0x00, 0x01, 0x08, 0x00, 6, 4] ++ ([0x00, 0x01] ++
          (mac.1 ++ (srcIP.1 ++ (zeros 6 ++ targetIP.1)))))) := by
      simp [arpRequestFrame]
    rw [hparts]
    exact List.slice_mid (by simp) rfl
  rw [readClientMessage, htype, if_neg (by simp)]

lemma Phone.answer_arpRequest (mac : ByteArrayN 6) (srcIP : ByteArrayN 4) :
    ph.answer (arpRequestFrame mac srcIP ph.router) = [ph.arpFrame] := by
  simp [Phone.answer, readClientMessage_arpRequestFrame, readArp_arpRequestFrame]

lemma isLocal_arpRequest (mac : ByteArrayN 6) (srcIP targetIP : ByteArrayN 4) :
    isLocal (arpRequestFrame mac srcIP targetIP) = true := by
  simp [isLocal, readArp_arpRequestFrame]

lemma fits_arpRequest (mac : ByteArrayN 6) (srcIP targetIP : ByteArrayN 4) :
    Fits (arpRequestFrame mac srcIP targetIP) := by
  rw [Fits, length_arpRequestFrame, packetHdr]
  omega

/-! ## Coming up -/

/-- The phone completes the commands. -/
lemma runCommand_phone (u : Usb) (s : PhoneState) {msg : Bytes} {type : UInt32}
    (h : completes (completion msg) type = some true) :
    runCommand ph.bus u s msg type = some (0, { s with response := completion msg }) := by
  have hlen : (completion msg).length = 16 := by simp [completion]
  have htake : (completion msg).take 1025 = completion msg := List.take_of_length_le (by omega)
  have hneg : ¬ ((msg.length : ℤ) < 0) := by omega
  simp [runCommand, command, Phone.bus, hneg, htake, h]

/-- **DHCP and ARP with the phone.** -/
lemma configure_phone (hph : ph.Honest) {s : PhoneState} (hs : ph.Ready s) (rnd : Random)
    (mem : Memory) (up : Uplink) :
    ∃ o m, configure ph.bus rnd mem up ⟨s, []⟩ = some o ∧ o.ret = 0 ∧
      o.up = ⟨up.usb, rnd.localMac, ph.clientIP, ph.routerMac, rnd.sport, true⟩ ∧
      o.link.dev = ⟨m, s.response, [], s.forwarded⟩ := by
  obtain ⟨offer₀, ack₀, hoffer, hack, hofferIP, hackIP, hhas, hrouter⟩ := hph.lease
  obtain ⟨harp, hmac⟩ := hph.arp
  -- the offer
  obtain ⟨m₁, evs₁, offer, hle₁, hle₁', hex₁, hgrants₁⟩ := @exchange_phone ph Lease matchOffer
    (Grants ph.offerFrame dhcpOffer) _ rnd.discover ph.offerFrame _ hph up.usb mem.msg
    (discover_length rnd mem) (discover_sent rnd mem) (fits_clientFrame ..)
    (isLocal_clientFrame ..) (Phone.answer_discover rnd) (hph.fits _ (by simp))
    (match_of_grants hoffer) (fun f hf => hf.ignored.1) 5 s (hs.hears le_rfl (by omega))
    hs.pending hs.length_lt [] mem.offer
  obtain ⟨hip₁, hhas₁, hrouter₁⟩ := hgrants₁.unique hoffer
  -- the acknowledgement
  obtain ⟨m₂, evs₂, ack, hle₂, hle₂', hex₂, hgrants₂⟩ := @exchange_phone ph Lease matchAck
    (Grants ph.ackFrame dhcpAck) _ (rnd.request offer) ph.ackFrame _ hph up.usb mem.msg
    (request_length rnd offer mem.requestBody _)
    (request_sent rnd offer mem.requestBody
      (buildDhcpDiscover rnd.localMac rnd.xid mem.discoverBody mem.frame).2)
    (fits_clientFrame ..) (isLocal_clientFrame ..) (Phone.answer_request rnd (hip₁.trans hofferIP))
    (hph.fits _ (by simp)) (match_of_grants hack) (fun f hf => hf.ignored.2.1) 5
    ⟨m₁, s.response, [], s.forwarded⟩ (@Phone.Ready.hears ph s hs m₁ hle₁ (by omega)) (by simp)
    (by simpa using (hph.chatter m₁).1) evs₁ mem.ack
  simp only at hle₂ hle₂'
  obtain ⟨hip₂, hhas₂, hrouter₂⟩ := hgrants₂.unique hack
  -- the router is the one that the phone means
  have hhas' : (ack.orRouterOf offer).hasRouter = true := by
    rw [Lease.hasRouter_orRouterOf, hhas₁, hhas₂, ← Lease.hasRouter_orRouterOf, hhas]
  have hrouter' : (ack.orRouterOf offer).router = ph.router := by
    rw [Lease.router_orRouterOf _ _ hhas', ← hrouter, Lease.router_orRouterOf _ _ hhas]
    rw [Lease.hasRouter_orRouterOf, Bool.or_eq_true] at hhas'
    by_cases ha : ack.hasRouter = true
    · rw [if_pos ha, if_pos (hhas₂ ▸ ha), hrouter₂ ha]
    · rw [if_neg ha, if_neg (hhas₂ ▸ ha), hrouter₁ (hhas'.resolve_left ha)]
  have hclient : (ack.orRouterOf offer).clientIP = ph.clientIP := by
    rw [← hackIP, ← hip₂, Lease.orRouterOf]
    split <;> rfl
  -- the hardware address of the router
  obtain ⟨i, hi, hhears⟩ := hs.hears (hle₁.trans hle₂) (by omega)
  obtain ⟨m₃, evs₃, mac, -, -, hex₃, hmac'⟩ := @exchange_phone ph (ByteArrayN 6)
    (matchArp ph.router) (· = ph.routerMac) _
    (arpRequestFrame rnd.localMac ph.clientIP ph.router) ph.arpFrame _ hph
    up.usb mem.msg (arp_length rnd.localMac ph.clientIP ph.router _)
    (arp_sent rnd.localMac ph.clientIP ph.router
      (buildDhcpRequest rnd.localMac rnd.xid offer mem.requestBody
        (buildDhcpDiscover rnd.localMac rnd.xid mem.discoverBody mem.frame).2).2)
    (fits_arpRequest ..) (isLocal_arpRequest ..) (Phone.answer_arpRequest ..)
    (hph.fits _ (by simp)) (match_of_isArpReply harp hmac) (fun f hf => hf.ignored.2.2) 6
    ⟨m₂, s.response, [], s.forwarded⟩ ⟨i, by omega, hhears⟩ (by simp)
    (by simpa using (hph.chatter m₂).1) evs₂ (ByteArrayN.zero 6)
  refine ⟨⟨0, ⟨up.usb, rnd.localMac, ph.clientIP, ph.routerMac, rnd.sport, true⟩,
    ⟨⟨m₃, s.response, [], s.forwarded⟩, evs₃⟩, ""⟩, m₃, ?_, rfl, rfl, rfl⟩
  simp [configure, hex₁, hex₂, hhas', hrouter', hclient, hex₃, hmac']

/-- **The uplink comes up.** -/
lemma bringUp_phone (hph : ph.Honest) {s : PhoneState} (hs : ph.Ready s) (rnd : Random)
    (mem : Memory) :
    ∃ o, bringUp ph.bus rnd mem s = some o ∧ o.ret = 0 ∧ o.up.mac = rnd.localMac ∧
      o.up.clientIP = ph.clientIP ∧ o.up.gwMac = ph.routerMac ∧ o.up.sport = rnd.sport ∧
      o.up.ready = true ∧ o.link.dev.forwarded = s.forwarded := by
  have hopen : ∃ u, usbOpen ph.bus = some (0, u) := by
    obtain ⟨i, hi⟩ := Option.isSome_iff_exists.mp hph.openable
    have hh := openFirst_h { Usb.zero with ctx := true } rfl 0 ph.devices
    rw [hi, Option.map_some] at hh
    exact ⟨openFirst { Usb.zero with ctx := true } 0 ph.devices, by simp [usbOpen, Phone.bus, hh]⟩
  obtain ⟨u, hopen⟩ := hopen
  have hinit := @runCommand_phone ph u s initMsg msgInitCmplt (by rfl)
  have hset := @runCommand_phone ph u { s with response := completion initMsg }
    (setMsg packetFilter) msgSetCmplt (by rfl)
  obtain ⟨o, m, hconf, hret, hup, hdev⟩ := configure_phone hph
    (s := { s with response := completion (setMsg packetFilter) })
    ⟨hs.misses, hs.pending, hs.length_lt⟩ rnd mem { Uplink.zero with usb := u }
  refine ⟨o, ?_, hret, by rw [hup], by rw [hup], by rw [hup], by rw [hup], by rw [hup],
    by rw [hdev]⟩
  simpa [bringUp, hopen, usbInitialize, hinit, usbSetFilter, hset] using hconf

/-! ## Sending -/

section Frame

variable {dstMac srcMac : ByteArrayN 6} {srcIP dstIP : ByteArrayN 4} {sport dport : UInt16}
  {payload : Bytes}

/-- A datagram that does not come from the port of a DHCP client is not for the phone itself. -/
lemma isLocal_udpFrame (h : sport ≠ 68) :
    isLocal (udpFrame dstMac srcMac srcIP dstIP sport dport payload) = false := by
  generalize hf : udpFrame dstMac srcMac srcIP dstIP sport dport payload = f
  obtain ⟨-, -, htype, -, -, -, -, hsport, -⟩ := slices_frameOf hf.symm
  have hports : f.slice 34 38 ≠ [0, 68, 0, 67] := by
    rw [← List.slice_append_slice f (show 34 ≤ 36 by omega) (show 36 ≤ 38 by omega), hsport]
    intro heq
    have hbytes : be16 sport = [0, 68] := by
      have := congrArg (List.take 2) heq
      rwa [List.take_left' (length_be16 sport)] at this
    have hdecode := decode_be16 sport
    rw [hbytes] at hdecode
    exact h (UInt16.toNat_inj.mp hdecode.symm)
  have hclient : readClientMessage f = none := by
    rw [readClientMessage, if_neg]
    rintro ⟨-, -, -, heq, -⟩
    exact hports heq
  have harp : readArp f = none := by
    rw [readArp, if_neg]
    rintro ⟨-, heq, -⟩
    rw [htype] at heq
    exact absurd heq (by decide)
  rw [isLocal, hclient, harp]
  rfl

end Frame

/-- The port of the uplink is none of the well-known ones. -/
lemma Random.sport_bounds (rnd : Random) :
    40000 ≤ rnd.sport.toNat ∧ rnd.sport.toNat < 60000 := by
  rw [Random.sport, UInt16.toNat_ofNat']
  omega

/-- A call of `rndis_uplink_send_udp`, with the uninitialised buffers. -/
structure Call where
  msg : Bytes
  frame : Bytes
  dstIP : ByteArrayN 4
  dport : UInt16
  payload : Bytes

/-- Calls one after the other: what they return, and the phone afterwards. -/
def sendAll {δ : Type} (B : Bus δ) (up : Uplink) : Link δ → List Call → List ℤ × Link δ
  | l, [] => ([], l)
  | l, c :: cs =>
    let r := sendUdp B up l c.msg c.frame c.dstIP c.dport c.payload c.payload.length
    let rs := sendAll B up r.2 cs
    (r.1 :: rs.1, rs.2)

/-- **A datagram** goes to the network. -/
lemma sendUdp_phone {up : Uplink} (hready : up.ready = true) (hport : up.sport ≠ 68)
    (s : PhoneState) (evs : List Event) {c : Call} (hc : c.payload.length ≤ 512) :
    ∃ evs', sendUdp ph.bus up ⟨s, evs⟩ c.msg c.frame c.dstIP c.dport c.payload c.payload.length =
      (0, ⟨⟨s.asked, s.response, s.pending, s.forwarded ++
        [udpFrame up.gwMac up.mac up.clientIP c.dstIP up.sport c.dport c.payload]⟩, evs'⟩) := by
  have hbuilt : buildUdpFrame up.mac up.gwMac up.clientIP c.dstIP up.sport c.dport c.payload
      c.payload.length c.frame = (((42 + c.payload.length : ℕ) : ℤ),
        udpFrame up.gwMac up.mac up.clientIP c.dstIP up.sport c.dport c.payload ++
          c.frame.drop (42 + c.payload.length)) := by
    rw [buildUdpFrame, udpIpEth_eq (by omega)]
    simp [udpFrame, frameOf]
  have hfits : Fits (udpFrame up.gwMac up.mac up.clientIP c.dstIP up.sport c.dport c.payload) := by
    rw [Fits, length_udpFrame, packetHdr]
    omega
  have hneg : ¬ (((42 + c.payload.length : ℕ) : ℤ) < 0) := by omega
  refine ⟨evs ++ [.sent (udpFrame up.gwMac up.mac up.clientIP c.dstIP up.sport c.dport c.payload)],
    ?_⟩
  simp only [sendUdp, hready, Bool.not_true, Bool.false_eq_true, if_false, hbuilt, if_neg hneg]
  rw [usbSendFrame_phone up.usb s evs c.msg (by rw [length_udpFrame])
    (by rw [Int.toNat_natCast, ← length_udpFrame, List.take_left]) hfits, Phone.receive,
    isLocal_udpFrame hport]
  rfl

/-- **Datagrams** go to the network in their order. -/
lemma sendAll_phone {up : Uplink} (hready : up.ready = true) (hport : up.sport ≠ 68)
    (calls : List Call) (hcalls : ∀ c ∈ calls, c.payload.length ≤ 512) (s : PhoneState)
    (evs : List Event) :
    ∃ evs', sendAll ph.bus up ⟨s, evs⟩ calls =
      (calls.map fun _ => 0, ⟨⟨s.asked, s.response, s.pending, s.forwarded ++ calls.map fun c =>
        udpFrame up.gwMac up.mac up.clientIP c.dstIP up.sport c.dport c.payload⟩, evs'⟩) := by
  induction calls generalizing s evs with
  | nil => exact ⟨evs, by simp [sendAll]⟩
  | cons c cs ih =>
    obtain ⟨evs₁, hsend⟩ := @sendUdp_phone ph up hready hport s evs c
      (hcalls c List.mem_cons_self)
    obtain ⟨evs₂, hrest⟩ := ih (fun c hc => hcalls c (List.mem_cons_of_mem _ hc)) ⟨s.asked,
      s.response, s.pending, s.forwarded ++
        [udpFrame up.gwMac up.mac up.clientIP c.dstIP up.sport c.dport c.payload]⟩ evs₁
    refine ⟨evs₂, ?_⟩
    simp only [sendAll, hsend, hrest]
    simp

/-! ## The result -/

/-- **The uplink over an honest phone.**  A phone that does its part, that misses at most four
questions, whichever they are, and sends fewer than sixteen other frames from one question to the
next, is brought up: the uplink has the address of the lease and the hardware address of the
router.  From then on all datagrams of up
to 512 bytes are sent, and reach the network in their order: a receiver that checks lengths and
checksums reads them as they were meant, from the leased address to their destination.  Once the
uplink is closed nothing is sent any more. -/
theorem uplink_delivers (hph : ph.Honest) {s : PhoneState} (hs : ph.Ready s) (rnd : Random)
    (mem : Memory) (calls : List Call) (hcalls : ∀ c ∈ calls, c.payload.length ≤ 512) :
    ∃ o l, bringUp ph.bus rnd mem s = some o ∧ o.ret = 0 ∧
      sendAll ph.bus o.up o.link calls = (calls.map fun _ => 0, l) ∧
      (∃ frames, l.dev.forwarded = s.forwarded ++ frames ∧ frames.map readUdp = calls.map fun c =>
        some ⟨ph.routerMac.1, rnd.localMac.1, ph.clientIP.1, c.dstIP.1, rnd.sport.toNat,
          c.dport.toNat, c.payload⟩) ∧
      ∀ c : Call, sendUdp ph.bus (closeUplink o.up) l c.msg c.frame c.dstIP c.dport c.payload
        c.payload.length = (-1, l) := by
  obtain ⟨o, hup, hret, hmac, hip, hgw, hsport, hready, hdev⟩ := bringUp_phone hph hs rnd mem
  have hport : o.up.sport ≠ 68 := by
    intro heq
    have hbounds := rnd.sport_bounds
    rw [← hsport, heq] at hbounds
    exact absurd hbounds.1 (by decide)
  obtain ⟨evs, hsend⟩ := @sendAll_phone ph o.up hready hport calls hcalls o.link.dev
    o.link.events
  refine ⟨o, _, hup, hret, hsend, ⟨_, by rw [hdev], ?_⟩, fun c => ?_⟩
  · rw [List.map_map]
    refine List.map_congr_left fun c hc => ?_
    rw [Function.comp_apply, readUdp_udpFrame (hcalls c hc), hgw, hmac, hip, hsport]
  · simp [sendUdp, closeUplink]

section Sample

/-- A phone that misses the second and the third question and hears the others, with one other frame
before the answer to every second one. -/
def samplePhone : Phone where
  devices := [⟨none, true⟩, ⟨some [⟨0xE0, 0, []⟩, ⟨0x0A, 1, [0x81, 0x02]⟩], true⟩]
  clientIP := sampleIP
  router := sampleIP
  routerMac := sampleMac
  offerFrame := sampleReply dhcpOffer
  ackFrame := sampleReply dhcpAck
  arpFrame := sampleArpReply
  hears n := n ≠ 1 ∧ n ≠ 2
  chatter n := if n % 2 = 0 then [[1]] else []

lemma Phone.unrelated_of_length_lt {f : Bytes} (h : f.length < 14) : ph.Unrelated f := by
  refine ⟨fun dhcp hreply => ?_, fun hreply => ?_⟩
  · have hfits := hreply.fits
    have hihl := hreply.ihl
    omega
  · have := hreply.length_le
    omega

lemma grants_sampleReply (type : UInt8) :
    Grants (sampleReply type) type ⟨sampleIP, sampleIP, sampleIP, false, true⟩ := by
  have hoptions : options (sampleReply type) 42 = [(53, [type]), (3, [192, 168, 42, 1])] := by
    have hdrop : (sampleReply type).drop (42 + 240) =
        53 :: 1 :: ([type] ++ (3 :: 4 :: ([192, 168, 42, 1] ++ (255 :: [])))) := rfl
    rw [options, hdrop, Tlv.triples_append (by decide) (by decide) rfl,
      Tlv.triples_append (by decide) (by decide) rfl, Tlv.triples_stop_append]
  refine ⟨42, ⟨⟨rfl, rfl⟩, rfl, ⟨0x45, rfl, by decide, rfl⟩, ⟨rfl, rfl⟩, ⟨rfl, rfl⟩, ?_, rfl⟩, ?_,
    rfl, ?_, ?_⟩
  · simp [sampleReply, length_zeros]
  · rw [hoptions]
    rfl
  · rw [hoptions]
    rfl
  · rw [hoptions]
    rfl

lemma honest_samplePhone : samplePhone.Honest where
  openable := rfl
  fits := by
    intro f hf
    simp only [samplePhone, List.mem_cons, List.not_mem_nil, or_false] at hf
    rcases hf with rfl | rfl | rfl <;>
      simp [Fits, sampleReply, sampleArpReply, length_zeros, packetHdr]
  chatter n := by
    by_cases hn : n % 2 = 0
    · simp only [samplePhone, hn, if_true]
      refine ⟨by simp, fun f hf => ?_⟩
      obtain rfl := List.mem_singleton.mp hf
      exact ⟨by simp [Fits, packetHdr], Phone.unrelated_of_length_lt (by decide)⟩
    · simp [samplePhone, hn]
  lease := ⟨_, _, grants_sampleReply dhcpOffer, grants_sampleReply dhcpAck, rfl, rfl, rfl, rfl⟩
  arp := ⟨⟨by simp [samplePhone, sampleArpReply], rfl, rfl, rfl⟩, rfl⟩

/-- Two datagrams over a phone that misses the first two of its requests for a lease. -/
theorem uplink_delivers_two :
    ∃ o l, bringUp samplePhone.bus sampleRandom sampleMemory ⟨0, [], [[3]], []⟩ = some o ∧
      o.ret = 0 ∧ sendAll samplePhone.bus o.up o.link [⟨[], [], sampleIP, 51820, [1, 2, 3]⟩,
        ⟨[], [], sampleIP, 51820, []⟩] = ([0, 0], l) ∧
      l.dev.forwarded.map readUdp = [
        some ⟨sampleMac.1, sampleMac.1, sampleIP.1, sampleIP.1, 40123, 51820, [1, 2, 3]⟩,
        some ⟨sampleMac.1, sampleMac.1, sampleIP.1, sampleIP.1, 40123, 51820, []⟩] := by
  have hready : samplePhone.Ready ⟨0, [], [[3]], []⟩ := by
    refine ⟨by decide, ?_, by decide⟩
    intro f hf
    obtain rfl := List.mem_singleton.mp hf
    exact ⟨by simp [Fits, packetHdr], Phone.unrelated_of_length_lt (by decide)⟩
  obtain ⟨o, l, hup, hret, hsend, ⟨frames, hforwarded, hread⟩, -⟩ := uplink_delivers
    honest_samplePhone hready sampleRandom sampleMemory [⟨[], [], sampleIP, 51820, [1, 2, 3]⟩,
      ⟨[], [], sampleIP, 51820, []⟩] (by simp)
  refine ⟨o, l, hup, hret, hsend, ?_⟩
  rw [hforwarded, List.nil_append, hread]
  rfl

end Sample

end Rndis
end Gemina
