/-
# What the uplink asks the phone

The frames that the uplink sends while it comes up: the DHCP messages (`dhcp_body`,
`rl_build_dhcp_discover`, `rl_build_dhcp_request`) and the ARP request (`rl_build_arp_request`), and
the parser of the answer to the latter (`rl_parse_arp_reply`), all of `rndis_lib.c`.

What the frames say is read here by a reader of its own, `readClientMessage`, as a DHCP server does
it: from the headers, the fixed part of the body and the options.
-/
import Gemina.Rndis.Packet
import Gemina.Rndis.Udp
import Gemina.Rndis.Dhcp

namespace Gemina
namespace Rndis

open Buffer (write)

/-- `DHCP_DISCOVER`, `DHCP_OFFER`, `DHCP_REQUEST` and `DHCP_ACK`. -/
def dhcpDiscover : UInt8 := 1
def dhcpOffer : UInt8 := 2
def dhcpRequest : UInt8 := 3
def dhcpAck : UInt8 := 5

def bcastMac : ByteArrayN 6 := ⟨List.replicate 6 0xff, rfl⟩
def anyIP : ByteArrayN 4 := ByteArrayN.zero 4
def bcastIP : ByteArrayN 4 := ⟨List.replicate 4 0xff, rfl⟩

/-! ## The builders -/

/-- An option of four bytes, if there is one: the buffer and the next position. -/
def writeAddrOption (body : Bytes) (opt : ℕ) (code : UInt8) : Option (ByteArrayN 4) → Bytes × ℕ
  | none => (body, opt)
  | some ip =>
    let body := write body opt [code]
    let body := write body (opt + 1) [4]
    (write body (opt + 2) ip.1, opt + 2 + 4)

/-- `dhcp_body`: the length, and the buffer. -/
def dhcpBody (body : Bytes) (mac : ByteArrayN 6) (xid : UInt32) (msgtype : UInt8)
    (reqIP serverID : Option (ByteArrayN 4)) : ℕ × Bytes :=
  let body := write body 0 (List.replicate 240 0)
  let body := write body 0 [1] -- op = BOOTREQUEST
  let body := write body 1 [1] -- htype = Ethernet
  let body := write body 2 [6] -- hlen
  let body := wr32 body 4 xid
  let body := wbe16 body 10 0x8000 -- flags = broadcast
  let body := write body 28 mac.1 -- chaddr
  let opt := 236
  let body := wr32 body opt 0x63538263 -- magic cookie
  let opt := opt + 4
  let body := write body opt [53]
  let body := write body (opt + 1) [1]
  let body := write body (opt + 2) [msgtype]
  let opt := opt + 3
  let (body, opt) := writeAddrOption body opt 50 reqIP
  let (body, opt) := writeAddrOption body opt 54 serverID
  let body := write body opt [55]
  let body := write body (opt + 1) [3]
  let body := write body (opt + 2) [1]
  let body := write body (opt + 3) [3]
  let body := write body (opt + 4) [6]
  let body := write body (opt + 5) [255] -- end
  (opt + 6, body)

/-- `rl_build_dhcp_discover`; `body` is the uninitialised scratch buffer. -/
def buildDhcpDiscover (srcMac : ByteArrayN 6) (xid : UInt32) (body frame : Bytes) : ℤ × Bytes :=
  let b := dhcpBody body srcMac xid dhcpDiscover none none
  udpIpEth frame bcastMac srcMac anyIP bcastIP 68 67 b.2 b.1

/-- `rl_build_dhcp_request`. -/
def buildDhcpRequest (srcMac : ByteArrayN 6) (xid : UInt32) (lease : Lease) (body frame : Bytes) :
    ℤ × Bytes :=
  let sid := if lease.hasServerID then some lease.serverID else none
  let b := dhcpBody body srcMac xid dhcpRequest (some lease.clientIP) sid
  udpIpEth frame bcastMac srcMac anyIP bcastIP 68 67 b.2 b.1

/-- `rl_build_arp_request`. -/
def buildArpRequest (srcMac : ByteArrayN 6) (srcIP targetIP : ByteArrayN 4) (frame : Bytes) :
    ℤ × Bytes :=
  let frame := write frame 0 (List.replicate 42 0)
  let frame := write frame 0 (List.replicate 6 0xff) -- dst broadcast
  let frame := write frame 6 srcMac.1
  let frame := wbe16 frame 12 0x0806
  let arp := 14
  let frame := wbe16 frame (arp + 0) 0x0001 -- htype Ethernet
  let frame := wbe16 frame (arp + 2) 0x0800 -- ptype IPv4
  let frame := write frame (arp + 4) [6] -- hlen
  let frame := write frame (arp + 5) [4] -- plen
  let frame := wbe16 frame (arp + 6) 0x0001 -- oper request
  let frame := write frame (arp + 8) srcMac.1 -- sha
  let frame := write frame (arp + 14) srcIP.1 -- spa
  let frame := write frame (arp + 24) targetIP.1 -- tpa
  (42, frame)

/-- `rl_parse_arp_reply`: the result, and the hardware address, if it is set. -/
def parseArpReply (f : Bytes) (len : ℤ) (targetIP : ByteArrayN 4) (outMac : ByteArrayN 6) :
    Option (ℤ × ByteArrayN 6) :=
  if len < 42 then some (0, outMac)
  else do
    let t0 ← f[12]?
    let t1 ← f[13]?
    if t0 ≠ 0x08 ∨ t1 ≠ 0x06 then return (0, outMac) -- not ARP
    let arp : ℕ := 14
    let o0 ← f[arp + 6]?
    let o1 ← f[arp + 7]?
    if ¬ (o0 = 0x00 ∧ o1 = 0x02) then return (0, outMac) -- not a reply
    let spa ← readArray f (arp + 14) 4
    if spa ≠ targetIP then return (0, outMac)
    let sha ← readArray f (arp + 8) 6
    return (1, sha)

/-! ## The DHCP body -/

/-- The bytes of an option that holds an address. -/
def addrOption (code : UInt8) : Option (ByteArrayN 4) → Bytes
  | none => []
  | some ip => code :: 4 :: ip.1

/-- The options of a message. -/
def clientOptions (msgtype : UInt8) (reqIP serverID : Option (ByteArrayN 4)) : Bytes :=
  [53, 1, msgtype] ++ (addrOption 50 reqIP ++ (addrOption 54 serverID ++ [55, 3, 1, 3, 6, 255]))

/-- The fixed part of a body, with the magic cookie. -/
def clientFixed (mac : ByteArrayN 6) (xid : UInt32) : Bytes :=
  [1, 1, 6, 0] ++ (le32 xid ++ ([0, 0] ++ (be16 0x8000 ++ (zeros 16 ++ (mac.1 ++
    (zeros 202 ++ le32 0x63538263))))))

@[simp] lemma length_le32 (v : UInt32) : (le32 v).length = 4 := by simp [le32]

@[simp] lemma length_clientFixed (mac : ByteArrayN 6) (xid : UInt32) :
    (clientFixed mac xid).length = 240 := by
  simp [clientFixed, length_zeros]

@[simp] lemma length_addrOption (code : UInt8) (ip : Option (ByteArrayN 4)) :
    (addrOption code ip).length = if ip.isSome then 6 else 0 := by
  cases ip <;> simp [addrOption]

/-- What is in the buffer up to a position, and what was there before behind it. -/
lemma writeAddrOption_eq {done : Bytes} {opt : ℕ} (hopt : done.length = opt) (buf : Bytes)
    (code : UInt8) (ip : Option (ByteArrayN 4)) :
    writeAddrOption (done ++ buf.drop opt) opt code ip =
      (done ++ addrOption code ip ++ buf.drop (opt + (addrOption code ip).length),
        opt + (addrOption code ip).length) := by
  cases ip with
  | none => simp [writeAddrOption, addrOption]
  | some ip =>
    have h₁ : (done ++ [code]).length = opt + 1 := by simp [hopt]
    have h₂ : (done ++ [code] ++ [4]).length = opt + 2 := by simp [hopt]
    simp only [writeAddrOption, Buffer.write_next hopt, List.length_singleton,
      Buffer.write_next h₁, Buffer.write_next h₂, ByteArrayN.length_val]
    simp [addrOption]

/-- The fixed part is written over zeros. -/
lemma clientFixed_eq (body : Bytes) (mac : ByteArrayN 6) (xid : UInt32) :
    wr32 (write (wbe16 (wr32 (write (write (write (write body 0 (List.replicate 240 0)) 0 [1])
      1 [1]) 2 [6]) 4 xid) 10 0x8000) 28 mac.1) 236 0x63538263 =
      clientFixed mac xid ++ body.drop 240 := by
  have hzero : write body 0 (List.replicate 240 (0 : UInt8)) =
      zeros 1 ++ (zeros 1 ++ (zeros 1 ++ (zeros 1 ++ (zeros 4 ++ (zeros 2 ++ (zeros 2 ++
        (zeros 16 ++ (zeros 6 ++ (zeros 202 ++ (zeros 4 ++ body.drop 240)))))))))) := by
    simp only [write, List.take_zero, List.nil_append, List.length_replicate, Nat.zero_add, zeros,
      ← List.append_assoc, List.replicate_append_replicate]
  rw [hzero]
  simp only [wr32, wbe16, Buffer.write_skip, Buffer.write_here, length_zeros, ByteArrayN.length_val,
    length_be16, length_le32, List.length_singleton, Nat.reduceLeDiff, Nat.reduceSub, le_refl,
    Nat.sub_self]
  have hone : zeros 1 = [0] := rfl
  have htwo : zeros 2 = [0, 0] := rfl
  simp [clientFixed, hone, htwo]

/-- **What `dhcp_body` writes.** -/
lemma dhcpBody_eq (body : Bytes) (mac : ByteArrayN 6) (xid : UInt32) (msgtype : UInt8)
    (reqIP serverID : Option (ByteArrayN 4)) :
    dhcpBody body mac xid msgtype reqIP serverID =
      (240 + (clientOptions msgtype reqIP serverID).length,
        clientFixed mac xid ++ clientOptions msgtype reqIP serverID ++
          body.drop (240 + (clientOptions msgtype reqIP serverID).length)) := by
  have hstart : (clientFixed mac xid).length = 240 := length_clientFixed mac xid
  have h₁ : (clientFixed mac xid ++ [53]).length = 241 := by simp
  have h₂ : (clientFixed mac xid ++ [53] ++ [1]).length = 242 := by simp
  have h₃ : (clientFixed mac xid ++ [53] ++ [1] ++ [msgtype]).length = 243 := by simp
  simp only [dhcpBody, clientFixed_eq, Buffer.write_next hstart, Buffer.write_next h₁,
    Buffer.write_next h₂, List.length_singleton, Nat.reduceAdd, writeAddrOption_eq h₃]
  generalize hn : 243 + (addrOption 50 reqIP).length = n
  have h₄ : (clientFixed mac xid ++ [53] ++ [1] ++ [msgtype] ++ addrOption 50 reqIP).length =
      n := by
    rw [List.length_append, h₃, hn]
  rw [writeAddrOption_eq h₄]
  generalize hm : n + (addrOption 54 serverID).length = m
  generalize hdone : clientFixed mac xid ++ [53] ++ [1] ++ [msgtype] ++ addrOption 50 reqIP ++
    addrOption 54 serverID = done
  have h₅ : done.length = m := by rw [← hdone, List.length_append, h₄, hm]
  have h₆ : (done ++ [55]).length = m + 1 := by simp [h₅]
  have h₇ : (done ++ [55] ++ [3]).length = m + 2 := by simp [h₅]
  have h₈ : (done ++ [55] ++ [3] ++ [1]).length = m + 3 := by simp [h₅]
  have h₉ : (done ++ [55] ++ [3] ++ [1] ++ [3]).length = m + 4 := by simp [h₅]
  have h₁₀ : (done ++ [55] ++ [3] ++ [1] ++ [3] ++ [6]).length = m + 5 := by simp [h₅]
  simp only [Buffer.write_next h₅, Buffer.write_next h₆, Buffer.write_next h₇,
    Buffer.write_next h₈, Buffer.write_next h₉, Buffer.write_next h₁₀, List.length_singleton]
  have hlen : m + 6 = 240 + (clientOptions msgtype reqIP serverID).length := by
    simp only [clientOptions, List.length_append, List.length_cons, List.length_nil]
    omega
  rw [hlen, ← hdone]
  simp [clientOptions, add_assoc]

/-! ## The DHCP frames -/

/-- The body of a message. -/
def clientBody (mac : ByteArrayN 6) (xid : UInt32) (msgtype : UInt8)
    (reqIP serverID : Option (ByteArrayN 4)) : Bytes :=
  clientFixed mac xid ++ clientOptions msgtype reqIP serverID

/-- The frame of a message, from the client to everyone. -/
def clientFrame (mac : ByteArrayN 6) (xid : UInt32) (msgtype : UInt8)
    (reqIP serverID : Option (ByteArrayN 4)) (rest : Bytes) : Bytes :=
  let body := clientBody mac xid msgtype reqIP serverID
  frameOf bcastMac mac anyIP bcastIP 68 67 body (ipCsumOf anyIP bcastIP body)
    (udpCsumOf anyIP bcastIP 68 67 body) rest

section Frames

variable {mac : ByteArrayN 6} {xid : UInt32} {msgtype : UInt8}
  {reqIP serverID : Option (ByteArrayN 4)} {body frame rest : Bytes}

lemma length_clientOptions_le : (clientOptions msgtype reqIP serverID).length ≤ 21 := by
  simp only [clientOptions, List.length_append, List.length_cons, List.length_nil,
    length_addrOption]
  split <;> split <;> omega

lemma length_clientBody : (clientBody mac xid msgtype reqIP serverID).length =
    240 + (clientOptions msgtype reqIP serverID).length := by
  simp [clientBody]

/-- A body fits into the scratch buffer of the builders and into that of the checksum. -/
lemma length_clientBody_le : (clientBody mac xid msgtype reqIP serverID).length ≤ 261 := by
  have := @length_clientOptions_le msgtype reqIP serverID
  rw [length_clientBody]
  omega

/-- Only the given part of the payload is used. -/
lemma udpIpEth_append {dstMac srcMac : ByteArrayN 6} {srcIP dstIP : ByteArrayN 4}
    {sport dport : UInt16} (payload more : Bytes) :
    udpIpEth frame dstMac srcMac srcIP dstIP sport dport (payload ++ more) payload.length =
      udpIpEth frame dstMac srcMac srcIP dstIP sport dport payload payload.length := by
  simp [udpIpEth, writeHeaders]

lemma udpIpEth_dhcpBody :
    udpIpEth frame bcastMac mac anyIP bcastIP 68 67
        (dhcpBody body mac xid msgtype reqIP serverID).2
        (dhcpBody body mac xid msgtype reqIP serverID).1 =
      (((42 + (clientBody mac xid msgtype reqIP serverID).length : ℕ) : ℤ),
        clientFrame mac xid msgtype reqIP serverID
          (frame.drop (42 + (clientBody mac xid msgtype reqIP serverID).length))) := by
  have hle := @length_clientBody_le mac xid msgtype reqIP serverID
  rw [dhcpBody_eq]
  simp only
  rw [← @length_clientBody mac xid, ← clientBody, udpIpEth_append,
    udpIpEth_eq (by omega)]
  rfl

/-- **What the builders return**: the frame of the message, and the rest of the buffer. -/
lemma buildDhcpDiscover_eq : buildDhcpDiscover mac xid body frame =
    (((42 + (clientBody mac xid dhcpDiscover none none).length : ℕ) : ℤ),
      clientFrame mac xid dhcpDiscover none none
        (frame.drop (42 + (clientBody mac xid dhcpDiscover none none).length))) := by
  rw [buildDhcpDiscover, udpIpEth_dhcpBody]

/-- The server that a request names. -/
def Lease.server (lease : Lease) : Option (ByteArrayN 4) :=
  if lease.hasServerID then some lease.serverID else none

lemma buildDhcpRequest_eq (lease : Lease) : buildDhcpRequest mac xid lease body frame =
    (((42 + (clientBody mac xid dhcpRequest (some lease.clientIP) lease.server).length : ℕ) : ℤ),
      clientFrame mac xid dhcpRequest (some lease.clientIP) lease.server
        (frame.drop
          (42 + (clientBody mac xid dhcpRequest (some lease.clientIP) lease.server).length))) := by
  rw [buildDhcpRequest, ← Lease.server, udpIpEth_dhcpBody]

end Frames

/-! ## What a server reads -/

/-- A message of a client. -/
structure ClientMessage where
  type : UInt8
  xid : Bytes
  chaddr : Bytes
  requestedIP : Option Bytes
  serverID : Option Bytes
deriving DecidableEq

/-- The requested address: the last option 50 of four bytes. -/
def requestedOption (os : List (UInt8 × Bytes)) : Option Bytes :=
  (Tlv.last (fun o => o.1 = 50 ∧ o.2.length = 4) os).map fun o => o.2

/-- The message of a client in a frame, as a server reads it: IPv4 with a header of five words, UDP
from port 68 to port 67, a BOOTREQUEST with the magic cookie, and options with a message type. -/
def readClientMessage (f : Bytes) : Option ClientMessage :=
  if f.slice 12 14 = [0x08, 0x00] ∧ f.slice 14 15 = [0x45] ∧ f.slice 23 24 = [17] ∧
      f.slice 34 38 = [0, 68, 0, 67] ∧ f.slice 42 43 = [1] ∧
      f.slice 278 282 = [0x63, 0x82, 0x53, 0x63] then
    (messageType (options f 42)).map fun type =>
      { type := type
        xid := f.slice 46 50
        chaddr := f.slice 70 76
        requestedIP := requestedOption (options f 42)
        serverID := serverOption (options f 42) }
  else none

/-- The options of a message are read as they were written, whatever follows. -/
lemma triples_clientOptions (msgtype : UInt8) (reqIP serverID : Option (ByteArrayN 4))
    (rest : Bytes) :
    Tlv.triples 0 255 UInt8.toNat (clientOptions msgtype reqIP serverID ++ rest) =
      (53, [msgtype]) :: (reqIP.toList.map fun ip => ((50 : UInt8), ip.1)) ++
        (serverID.toList.map fun ip => ((54 : UInt8), ip.1)) ++ [(55, [1, 3, 6])] := by
  have haddr : ∀ code : UInt8, code ≠ 255 → code ≠ 0 →
      ∀ (ip : Option (ByteArrayN 4)) (more : Bytes),
      Tlv.triples 0 255 UInt8.toNat (addrOption code ip ++ more) =
        (ip.toList.map fun ip => (code, ip.1)) ++ Tlv.triples 0 255 UInt8.toNat more := by
    intro code hstop hpad ip more
    cases ip with
    | none => rfl
    | some ip => exact Tlv.triples_append hstop hpad (by simp) more
  have htype : Tlv.triples 0 255 UInt8.toNat (clientOptions msgtype reqIP serverID ++ rest) =
      (53, [msgtype]) :: Tlv.triples 0 255 UInt8.toNat (addrOption 50 reqIP ++
        (addrOption 54 serverID ++ (55 :: 3 :: ([1, 3, 6] ++ (255 :: rest))))) := by
    have hbytes : clientOptions msgtype reqIP serverID ++ rest = 53 :: 1 :: ([msgtype] ++
        (addrOption 50 reqIP ++ (addrOption 54 serverID ++
          (55 :: 3 :: ([1, 3, 6] ++ (255 :: rest)))))) := by
      simp [clientOptions]
    rw [hbytes]
    exact Tlv.triples_append (by decide) (by decide) (by rfl) _
  rw [htype, haddr 50 (by decide) (by decide), haddr 54 (by decide) (by decide),
    Tlv.triples_append (by decide) (by decide) (by rfl), Tlv.triples_stop_append]
  simp

/-- The parts of a frame from byte 42 on. -/
lemma clientFrame_eq (mac : ByteArrayN 6) (xid : UInt32) (msgtype : UInt8)
    (reqIP serverID : Option (ByteArrayN 4)) (rest : Bytes) :
    ∃ head : Bytes, head.length = 42 ∧ head.slice 12 14 = [0x08, 0x00] ∧
      head.slice 14 15 = [0x45] ∧
      head.slice 23 24 = [17] ∧ head.slice 34 38 = [0, 68, 0, 67] ∧
      clientFrame mac xid msgtype reqIP serverID rest =
        head ++ (clientFixed mac xid ++ (clientOptions msgtype reqIP serverID ++ rest)) := by
  generalize hbody : clientBody mac xid msgtype reqIP serverID = body
  refine ⟨ethHeader bcastMac mac ++ (ipHeader (20 + (8 + body.length)) (ipCsumOf anyIP bcastIP body)
    anyIP bcastIP ++ (udpFront 68 67 (8 + body.length) ++
      be16 (udpCsumOf anyIP bcastIP 68 67 body))), by simp, ?_, ?_, ?_, ?_, ?_⟩
  · rw [ethHeader, List.append_assoc, List.append_assoc, ← List.append_assoc bcastMac.1]
    exact List.slice_mid (by simp) rfl
  · rw [ipHeader, ipFront]
    exact List.slice_mid (m := [0x45]) (by simp) rfl
  · have hfront : ∀ (len : ℤ) (back : Bytes), ethHeader bcastMac mac ++ (ipFront len ++ back) =
        (ethHeader bcastMac mac ++ ([0x45, 0] ++ (be16 (uint16OfInt len) ++ [0, 0, 0, 0, 64]))) ++
          ([17] ++ back) := by
      intro len back
      simp [ipFront]
    rw [ipHeader, List.append_assoc, hfront]
    exact List.slice_mid (by simp) rfl
  · rw [← List.append_assoc, udpFront]
    exact List.slice_mid (m := be16 68 ++ be16 67) (by simp) rfl
  · simp only [clientFrame, hbody, frameOf]
    rw [← hbody, clientBody]
    simp

/-- The fields of the fixed part. -/
lemma slices_clientFixed (mac : ByteArrayN 6) (xid : UInt32) :
    (clientFixed mac xid).slice 0 1 = [1] ∧ (clientFixed mac xid).slice 4 8 = le32 xid ∧
      (clientFixed mac xid).slice 28 34 = mac.1 ∧
      (clientFixed mac xid).slice 236 240 = [0x63, 0x82, 0x53, 0x63] := by
  refine ⟨rfl, ?_, ?_, ?_⟩
  · exact List.slice_mid rfl (by simp)
  · have hparts : clientFixed mac xid = ([1, 1, 6, 0] ++ (le32 xid ++ ([0, 0] ++ (be16 0x8000 ++
        zeros 16)))) ++ (mac.1 ++ (zeros 202 ++ le32 0x63538263)) := by
      simp [clientFixed]
    rw [hparts]
    exact List.slice_mid (by simp [length_zeros]) (by simp)
  · have hparts : clientFixed mac xid = ([1, 1, 6, 0] ++ (le32 xid ++ ([0, 0] ++ (be16 0x8000 ++
        (zeros 16 ++ (mac.1 ++ zeros 202)))))) ++ (le32 0x63538263 ++ []) := by
      simp [clientFixed]
    rw [hparts, List.slice_mid (by simp [length_zeros]) (by simp)]
    rfl

/-- **A server reads what the client means.** -/
lemma readClientMessage_clientFrame (mac : ByteArrayN 6) (xid : UInt32) (msgtype : UInt8)
    (reqIP serverID : Option (ByteArrayN 4)) (rest : Bytes) :
    readClientMessage (clientFrame mac xid msgtype reqIP serverID rest) =
      some ⟨msgtype, le32 xid, mac.1, reqIP.map fun ip => ip.1, serverID.map fun ip => ip.1⟩ := by
  obtain ⟨head, hlen, htype, hversion, hproto, hports, hframe⟩ :=
    clientFrame_eq mac xid msgtype reqIP serverID rest
  obtain ⟨hop, hxid, hmac, hcookie⟩ := slices_clientFixed mac xid
  -- what is cut out of the head, and of the fixed part behind it
  have hhead : ∀ i j, j ≤ 42 → (clientFrame mac xid msgtype reqIP serverID rest).slice i j =
      head.slice i j := by
    intro i j hj
    rw [hframe, List.slice_append_left (by omega)]
  have hfixed : ∀ i j, j ≤ 240 →
      (clientFrame mac xid msgtype reqIP serverID rest).slice (42 + i) (42 + j) =
        (clientFixed mac xid).slice i j := by
    intro i j hj
    rw [hframe, List.slice_append_right (by omega), hlen, Nat.add_sub_cancel_left,
      Nat.add_sub_cancel_left, List.slice_append_left (by simpa using hj)]
  have hoptions : options (clientFrame mac xid msgtype reqIP serverID rest) 42 =
      (53, [msgtype]) :: (reqIP.toList.map fun ip => ((50 : UInt8), ip.1)) ++
        (serverID.toList.map fun ip => ((54 : UInt8), ip.1)) ++ [(55, [1, 3, 6])] := by
    have hdrop : (clientFrame mac xid msgtype reqIP serverID rest).drop (42 + 240) =
        clientOptions msgtype reqIP serverID ++ rest := by
      rw [hframe, ← List.append_assoc, List.drop_left' (by simp [hlen])]
    rw [options, hdrop, triples_clientOptions]
  rw [readClientMessage, hhead 12 14 (by omega), hhead 14 15 (by omega), hhead 23 24 (by omega),
    hhead 34 38 (by omega), hfixed 0 1 (by omega), hfixed 236 240 (by omega), hfixed 4 8 (by omega),
    hfixed 28 34 (by omega), hoptions, if_pos ⟨htype, hversion, hproto, hports, hop, hcookie⟩, hxid,
    hmac]
  have hlen4 : ∀ ip : ByteArrayN 4, ip.1.length = 4 := fun ip => ip.2
  rcases reqIP with _ | ip <;> rcases serverID with _ | sid <;>
    simp [messageType, requestedOption, serverOption, Tlv.last, hlen4]

/-! ## ARP -/

/-- An ARP packet for IPv4 over Ethernet. -/
structure Arp where
  oper : Bytes
  sha : Bytes
  spa : Bytes
  tha : Bytes
  tpa : Bytes
deriving DecidableEq

/-- The ARP packet in a frame. -/
def readArp (f : Bytes) : Option Arp :=
  if 42 ≤ f.length ∧ f.slice 12 14 = [0x08, 0x06] ∧
      f.slice 14 20 = [0x00, 0x01, 0x08, 0x00, 6, 4] then
    some ⟨f.slice 20 22, f.slice 22 28, f.slice 28 32, f.slice 32 38, f.slice 38 42⟩
  else none

/-- The frame of a request. -/
def arpRequestFrame (srcMac : ByteArrayN 6) (srcIP targetIP : ByteArrayN 4) : Bytes :=
  bcastMac.1 ++ (srcMac.1 ++ ([0x08, 0x06] ++ ([0x00, 0x01, 0x08, 0x00, 6, 4] ++ ([0x00, 0x01] ++
    (srcMac.1 ++ (srcIP.1 ++ (zeros 6 ++ targetIP.1)))))))

@[simp] lemma length_arpRequestFrame (srcMac : ByteArrayN 6) (srcIP targetIP : ByteArrayN 4) :
    (arpRequestFrame srcMac srcIP targetIP).length = 42 := by
  simp [arpRequestFrame, length_zeros]

/-- **What `rl_build_arp_request` writes.** -/
lemma buildArpRequest_eq (srcMac : ByteArrayN 6) (srcIP targetIP : ByteArrayN 4) (frame : Bytes) :
    buildArpRequest srcMac srcIP targetIP frame =
      (42, arpRequestFrame srcMac srcIP targetIP ++ frame.drop 42) := by
  have hzero : write frame 0 (List.replicate 42 (0 : UInt8)) =
      zeros 6 ++ (zeros 6 ++ (zeros 2 ++ (zeros 2 ++ (zeros 2 ++ (zeros 1 ++ (zeros 1 ++ (zeros 2 ++
        (zeros 6 ++ (zeros 4 ++ (zeros 6 ++ (zeros 4 ++ frame.drop 42))))))))))) := by
    simp only [write, List.take_zero, List.nil_append, List.length_replicate, Nat.zero_add, zeros,
      ← List.append_assoc, List.replicate_append_replicate]
  have hbytes : be16 0x0806 = [0x08, 0x06] ∧ be16 0x0001 = [0x00, 0x01] ∧
      be16 0x0800 = [0x08, 0x00] ∧ List.replicate 6 0xff = bcastMac.1 := by decide
  obtain ⟨htype, hone, hip, hbcast⟩ := hbytes
  simp only [buildArpRequest, hzero, wbe16, hbcast, Nat.reduceAdd]
  simp only [Buffer.write_skip, Buffer.write_here, length_zeros, ByteArrayN.length_val, length_be16,
    List.length_singleton, Nat.reduceLeDiff, Nat.reduceSub, le_refl, Nat.sub_self]
  simp [arpRequestFrame, htype, hone, hip]

/-- The request is read as one. -/
lemma readArp_arpRequestFrame (srcMac : ByteArrayN 6) (srcIP targetIP : ByteArrayN 4) :
    readArp (arpRequestFrame srcMac srcIP targetIP) =
      some ⟨[0x00, 0x01], srcMac.1, srcIP.1, zeros 6, targetIP.1⟩ := by
  rw [readArp, if_pos]
  · simp [arpRequestFrame, List.slice, List.drop_append, List.take_append, List.drop_of_length_le,
      List.take_of_length_le, length_zeros]
  · refine ⟨by simp, ?_, ?_⟩
    · simp [arpRequestFrame, List.slice, List.drop_append, List.drop_of_length_le]
    · simp [arpRequestFrame, List.slice, List.drop_append, List.drop_of_length_le]

/-- What the parser looks at: the frame is an ARP reply from the given address, but for the types of
the addresses and their lengths. -/
structure IsArpReply (f : Bytes) (targetIP : ByteArrayN 4) : Prop where
  length_le : 42 ≤ f.length
  arp : f.slice 12 14 = [0x08, 0x06]
  reply : f.slice 20 22 = [0x00, 0x02]
  sender : f.slice 28 32 = targetIP.1

/-- The frame with the types and lengths of IPv4 addresses over Ethernet. -/
def withTypes (f : Bytes) : Bytes := write f 14 [0x00, 0x01, 0x08, 0x00, 6, 4]

/-- Only the six bytes are changed. -/
lemma slices_withTypes {f : Bytes} (h : 20 ≤ f.length) :
    (withTypes f).length = f.length ∧
      (withTypes f).slice 14 20 = [0x00, 0x01, 0x08, 0x00, 6, 4] ∧
      (withTypes f).slice 12 14 = f.slice 12 14 ∧
      ∀ i j, 20 ≤ i → (withTypes f).slice i j = f.slice i j := by
  have hfront : (f.take 14).length = 14 := by
    rw [List.length_take]
    omega
  have hparts : withTypes f = f.take 14 ++ ([0x00, 0x01, 0x08, 0x00, 6, 4] ++ f.drop 20) := by
    simp [withTypes, write]
  have hsplit : f = f.take 14 ++ (f.slice 14 20 ++ f.drop 20) := by
    rw [List.slice, ← List.drop_drop (i := 6) (j := 14), List.take_append_drop,
      List.take_append_drop]
  have hmid : (f.slice 14 20).length = 6 := by
    rw [List.slice, List.length_take, List.length_drop]
    omega
  refine ⟨?_, ?_, ?_, fun i j hi => ?_⟩
  · rw [hparts, List.length_append, List.length_append, hfront, List.length_drop]
    simp only [List.length_cons, List.length_nil]
    omega
  · rw [hparts]
    exact List.slice_mid hfront rfl
  · rw [hparts, List.slice_append_left (by omega)]
    conv_rhs => rw [hsplit, List.slice_append_left (by omega)]
  · rw [hparts, List.slice_append_right (by omega), List.slice_append_right (by simp; omega)]
    conv_rhs => rw [hsplit, List.slice_append_right (by omega), List.slice_append_right (by omega)]
    simp [hfront, hmid]

/-- **What the parser takes for a reply** would be one with the right types and lengths. -/
lemma isArpReply_iff {f : Bytes} {targetIP : ByteArrayN 4} :
    IsArpReply f targetIP ↔
      ∃ a, readArp (withTypes f) = some a ∧ a.oper = [0x00, 0x02] ∧ a.spa = targetIP.1 := by
  by_cases hlen : 42 ≤ f.length
  swap
  · refine ⟨fun h => absurd h.length_le hlen, ?_⟩
    rintro ⟨a, hread, -⟩
    rw [readArp, if_neg] at hread
    · cases hread
    · rintro ⟨hle, -⟩
      rw [withTypes, Buffer.write, List.length_append, List.length_append, List.length_take,
        List.length_drop] at hle
      simp only [List.length_cons, List.length_nil] at hle
      omega
  obtain ⟨hsame, htypes, hether, hrest⟩ := @slices_withTypes f (by omega)
  have hread : readArp (withTypes f) = if f.slice 12 14 = [0x08, 0x06] then
      some ⟨f.slice 20 22, f.slice 22 28, f.slice 28 32, f.slice 32 38, f.slice 38 42⟩
      else none := by
    rw [readArp, hsame, htypes, hether, hrest 20 22 le_rfl, hrest 22 28 (by omega),
      hrest 28 32 (by omega), hrest 32 38 (by omega), hrest 38 42 (by omega)]
    simp [hlen]
  constructor
  · intro h
    exact ⟨_, by rw [hread, if_pos h.arp], h.reply, h.sender⟩
  · rintro ⟨a, ha, hoper, hspa⟩
    rw [hread] at ha
    split at ha
    · rename_i harp
      obtain rfl := Option.some_inj.mp ha
      exact ⟨hlen, harp, hoper, hspa⟩
    · cases ha

/-- In a frame with an ARP packet the parser sees whether it is a reply. -/
lemma isArpReply_of_readArp {f : Bytes} {a : Arp} (h : readArp f = some a)
    (targetIP : ByteArrayN 4) :
    (IsArpReply f targetIP ↔ a.oper = [0x00, 0x02] ∧ a.spa = targetIP.1) ∧
      a.sha = f.slice 22 28 := by
  rw [readArp] at h
  split at h
  · rename_i harp
    obtain rfl := Option.some_inj.mp h
    exact ⟨⟨fun h => ⟨h.reply, h.sender⟩, fun h => ⟨harp.1, harp.2.1, h.1, h.2⟩⟩, rfl⟩
  · cases h

/-- Two bytes of a frame. -/
lemma slice_pair {f : Bytes} {i : ℕ} {a b : UInt8} (ha : f[i]? = some a)
    (hb : f[i + 1]? = some b) : f.slice i (i + 2) = [a, b] := by
  obtain ⟨hi, rfl⟩ := List.getElem?_eq_some_iff.mp ha
  obtain ⟨hi', rfl⟩ := List.getElem?_eq_some_iff.mp hb
  rw [List.slice, List.drop_eq_getElem_cons hi, List.drop_eq_getElem_cons hi',
    Nat.add_sub_cancel_left]
  rfl

/-- **ARP replies are parsed safely and exactly.** -/
lemma parseArpReply_cases (f : Bytes) (targetIP : ByteArrayN 4) (outMac : ByteArrayN 6) :
    (IsArpReply f targetIP ∧ ∃ mac, mac.1 = f.slice 22 28 ∧
      parseArpReply f f.length targetIP outMac = some (1, mac)) ∨
    (¬ IsArpReply f targetIP ∧ parseArpReply f f.length targetIP outMac = some (0, outMac)) := by
  by_cases hlen : (f.length : ℤ) < 42
  · refine Or.inr ⟨fun h => ?_, by rw [parseArpReply, if_pos hlen]⟩
    have := h.length_le
    omega
  have hget : ∀ i < 42, ∃ p, f[i]? = some p :=
    fun i hi => ⟨_, List.getElem?_eq_getElem (by omega)⟩
  obtain ⟨t0, ht0⟩ := hget 12 (by omega)
  obtain ⟨t1, ht1⟩ := hget 13 (by omega)
  obtain ⟨o0, ho0⟩ := hget (14 + 6) (by omega)
  obtain ⟨o1, ho1⟩ := hget (14 + 7) (by omega)
  obtain ⟨spa, hspa, hspaVal⟩ := readArray_of_le (show (14 + 14) + 4 ≤ f.length by omega)
  obtain ⟨sha, hsha, hshaVal⟩ := readArray_of_le (show (14 + 8) + 6 ≤ f.length by omega)
  have hspa' : spa.1 = f.slice 28 32 := hspaVal
  have hsha' : sha.1 = f.slice 22 28 := hshaVal
  have hiff : IsArpReply f targetIP ↔
      (t0 = 0x08 ∧ t1 = 0x06) ∧ (o0 = 0x00 ∧ o1 = 0x02) ∧ spa = targetIP := by
    constructor
    · intro h
      have harp := (slice_pair ht0 ht1).symm.trans h.arp
      have hreply := (slice_pair ho0 ho1).symm.trans h.reply
      simp only [List.cons.injEq, and_true] at harp hreply
      exact ⟨harp, hreply, Subtype.ext (hspa'.trans h.sender)⟩
    · rintro ⟨⟨rfl, rfl⟩, ⟨rfl, rfl⟩, rfl⟩
      exact ⟨by omega, slice_pair ht0 ht1, slice_pair ho0 ho1, hspa'.symm⟩
  rw [parseArpReply, if_neg hlen]
  simp only [ht0, ht1, ho0, ho1, hspa, hsha, Option.bind_eq_bind, Option.bind_some,
    Option.pure_def]
  by_cases htype : t0 = 0x08 ∧ t1 = 0x06
  · rw [if_neg (by simp [htype])]
    by_cases hreply : o0 = 0x00 ∧ o1 = 0x02
    · rw [if_neg (not_not.mpr hreply)]
      by_cases hsender : spa = targetIP
      · rw [if_neg (not_not.mpr hsender)]
        exact Or.inl ⟨hiff.mpr ⟨htype, hreply, hsender⟩, sha, hsha', rfl⟩
      · rw [if_pos hsender]
        exact Or.inr ⟨fun h => hsender (hiff.mp h).2.2, rfl⟩
    · rw [if_pos hreply]
      exact Or.inr ⟨fun h => hreply (hiff.mp h).2.1, rfl⟩
  · rw [if_pos (not_and_or.mp htype)]
    exact Or.inr ⟨fun h => htype (hiff.mp h).1, rfl⟩

/-! ## The results -/

/-- What a built frame should be: it fits into its buffer, a receiver accepts it as a broadcast from
the client's hardware address, from port 68 to port 67, with both checksums, a server reads the
message, and the client itself does not take it for a reply. -/
structure Says (r : ℤ × Bytes) (frame : Bytes) (m : ClientMessage) : Prop where
  in_bounds : r.2.length = frame.length
  wellFormed : ∃ payload, WellFormed r ⟨bcastMac.1, m.chaddr, anyIP.1, bcastIP.1, 68, 67, payload⟩
  message : ∃ n : ℕ, r.1 = n ∧ n ≤ frame.length ∧ readClientMessage (r.2.take n) = some m ∧
    ∀ dhcp, ¬ IsReply (r.2.take n) dhcp

section Says

variable {mac : ByteArrayN 6} {xid : UInt32} {msgtype : UInt8}
  {reqIP serverID : Option (ByteArrayN 4)} {frame : Bytes}

lemma clientFrame_append (rest : Bytes) : clientFrame mac xid msgtype reqIP serverID rest =
    clientFrame mac xid msgtype reqIP serverID [] ++ rest := by
  simp [clientFrame, frameOf]

lemma length_clientFrame : (clientFrame mac xid msgtype reqIP serverID []).length =
    42 + (clientBody mac xid msgtype reqIP serverID).length := by
  simp [clientFrame, frameOf]
  omega

/-- The frame goes to the port of the server. -/
lemma not_isReply_clientFrame (rest : Bytes) (dhcp : ℕ) :
    ¬ IsReply (clientFrame mac xid msgtype reqIP serverID rest) dhcp := by
  intro h
  obtain ⟨head, hlen, -, hversion, -, hports, hframe⟩ :=
    clientFrame_eq mac xid msgtype reqIP serverID rest
  have hget : ∀ i < 42, (clientFrame mac xid msgtype reqIP serverID rest)[i]? = head[i]? := by
    intro i hi
    rw [hframe, List.getElem?_append_left (by omega)]
  have hslice : ∀ i j k, i + k < j → head[i + k]? = (head.slice i j)[k]? := by
    intro i j k hk
    rw [List.slice, List.getElem?_take_of_lt (by omega), List.getElem?_drop]
  obtain ⟨vhl, hvhl, -, hdhcp⟩ := h.ihl
  rw [hget 14 (by omega), hslice 14 15 0 (by omega), hversion] at hvhl
  obtain rfl : (0x45 : UInt8) = vhl := Option.some_inj.mp hvhl
  obtain rfl : dhcp = 42 := hdhcp
  have hport := h.sport.2
  rw [hget 35 (by omega), hslice 34 38 1 (by omega), hports] at hport
  exact absurd hport (by decide)

lemma says_clientFrame (hframe : 303 ≤ frame.length) :
    Says (((42 + (clientBody mac xid msgtype reqIP serverID).length : ℕ) : ℤ),
      clientFrame mac xid msgtype reqIP serverID
        (frame.drop (42 + (clientBody mac xid msgtype reqIP serverID).length))) frame
      ⟨msgtype, le32 xid, mac.1, reqIP.map fun ip => ip.1, serverID.map fun ip => ip.1⟩ := by
  have hle := @length_clientBody_le mac xid msgtype reqIP serverID
  refine ⟨?_, ⟨_, wellFormed_frameOf (by omega) _⟩, _, rfl, by omega, ?_⟩
  · rw [clientFrame_append, List.length_append, length_clientFrame, List.length_drop]
    omega
  · rw [clientFrame_append, List.take_left' length_clientFrame]
    exact ⟨readClientMessage_clientFrame .., not_isReply_clientFrame []⟩

end Says

/-- **The DHCP messages say what they should.**  For every address, transaction and lease, and
whatever the buffers held before: the frame that `rl_build_dhcp_discover` or `rl_build_dhcp_request`
builds is a well-formed UDP frame with both checksums, in which a server reads a message of the
right type with the transaction, the hardware address and, in a request, the address and the server
of the lease; the parser of replies does not take it for one.  Nothing is written outside the
scratch buffer of 300 bytes and the frame of `FRAME_CAP` bytes. -/
theorem dhcp_messages_read_back (mac : ByteArrayN 6) (xid : UInt32) (lease : Lease)
    (body frame : Bytes) (hbody : body.length = 300) (hframe : frame.length = frameCap.toNat) :
    Says (buildDhcpDiscover mac xid body frame) frame
      ⟨dhcpDiscover, le32 xid, mac.1, none, none⟩ ∧
    Says (buildDhcpRequest mac xid lease body frame) frame
      ⟨dhcpRequest, le32 xid, mac.1, some lease.clientIP.1,
        if lease.hasServerID then some lease.serverID.1 else none⟩ ∧
    ∀ msgtype reqIP serverID,
      (dhcpBody body mac xid msgtype reqIP serverID).2.length = body.length := by
  have hcap : 303 ≤ frame.length := by
    rw [hframe]
    decide
  refine ⟨?_, ?_, fun msgtype reqIP serverID => ?_⟩
  · rw [buildDhcpDiscover_eq]
    exact says_clientFrame hcap
  · rw [buildDhcpRequest_eq]
    have hsays := @says_clientFrame mac xid dhcpRequest (some lease.clientIP) lease.server frame
      hcap
    have hserver : (lease.server.map fun ip => ip.1) =
        if lease.hasServerID then some lease.serverID.1 else none := by
      rw [Lease.server]
      split <;> rfl
    rw [hserver] at hsays
    exact hsays
  · have hle := @length_clientOptions_le msgtype reqIP serverID
    rw [dhcpBody_eq, List.length_append, List.length_append, length_clientFixed, List.length_drop]
    omega

/-- A request of a lease without a server. -/
theorem dhcp_messages_read_back_request :
    Says (buildDhcpRequest sampleMac 7 { Lease.zero with clientIP := sampleIP }
      (List.replicate 300 0) (List.replicate 600 0)) (List.replicate 600 0)
      ⟨dhcpRequest, le32 7, sampleMac.1, some sampleIP.1, none⟩ :=
  (dhcp_messages_read_back sampleMac 7 { Lease.zero with clientIP := sampleIP }
    (List.replicate 300 0) (List.replicate 600 0) List.length_replicate
    List.length_replicate).2.1

/-- **ARP requests and replies.**  For all addresses, and whatever the buffer held before: the frame
that `rl_build_arp_request` builds goes from the given hardware address to everyone, is read as a
request for the target from the given addresses, is no reply in the eyes of the parser, and nothing
is written behind its 42 bytes.  For every frame, `rl_parse_arp_reply` reads inside the frame only.
In a frame with an ARP packet for IPv4 over Ethernet it returns 1 exactly if this is a reply whose
sender has the target's address, and then the hardware address is the sender's.  It does not look at
the types and lengths of the addresses: it returns 1 exactly if the frame would be such a reply with
those of IPv4 over Ethernet.  Otherwise it returns 0 and leaves the hardware address alone. -/
theorem arp_requests_and_replies (srcMac : ByteArrayN 6) (srcIP targetIP : ByteArrayN 4)
    (frame : Bytes) :
    (∃ request, buildArpRequest srcMac srcIP targetIP frame = (42, request ++ frame.drop 42) ∧
      request.length = 42 ∧ request.slice 0 6 = bcastMac.1 ∧ request.slice 6 12 = srcMac.1 ∧
      readArp request = some ⟨[0x00, 0x01], srcMac.1, srcIP.1, zeros 6, targetIP.1⟩ ∧
      ∀ ip outMac, parseArpReply request request.length ip outMac = some (0, outMac)) ∧
    ∀ (f : Bytes) (outMac : ByteArrayN 6), ∃ ret mac,
      parseArpReply f f.length targetIP outMac = some (ret, mac) ∧
      (ret = 1 ∨ ret = 0) ∧
      (∀ a, readArp f = some a → (ret = 1 ↔ a.oper = [0x00, 0x02] ∧ a.spa = targetIP.1) ∧
        (ret = 1 → mac.1 = a.sha)) ∧
      (ret = 1 ↔ ∃ a, readArp (withTypes f) = some a ∧ a.oper = [0x00, 0x02] ∧
        a.spa = targetIP.1) ∧
      (ret = 1 → mac.1 = f.slice 22 28) ∧ (ret = 0 → mac = outMac) := by
  refine ⟨⟨_, buildArpRequest_eq .., length_arpRequestFrame .., ?_, ?_,
    readArp_arpRequestFrame .., fun ip outMac => ?_⟩, fun f outMac => ?_⟩
  · exact List.slice_mid (p := []) (m := bcastMac.1) rfl (by simp)
  · exact List.slice_mid (p := bcastMac.1) (m := srcMac.1) (by simp) (by simp)
  · rcases parseArpReply_cases (arpRequestFrame srcMac srcIP targetIP) ip outMac with
      ⟨hreply, -⟩ | ⟨-, hparse⟩
    · have hoper := (isArpReply_of_readArp (readArp_arpRequestFrame srcMac srcIP targetIP) ip).1.mp
        hreply
      exact absurd hoper.1 (by simp)
    · exact hparse
  rcases parseArpReply_cases f targetIP outMac with ⟨hreply, mac, hmac, hparse⟩ | ⟨hno, hparse⟩
  · refine ⟨1, mac, hparse, Or.inl rfl, fun a ha => ?_, by simp [← isArpReply_iff, hreply],
      fun _ => hmac, by simp⟩
    obtain ⟨hiff, hsha⟩ := isArpReply_of_readArp ha targetIP
    exact ⟨by simp [← hiff, hreply], fun _ => hmac.trans hsha.symm⟩
  · refine ⟨0, outMac, hparse, Or.inr rfl, fun a ha => ?_, by simp [← isArpReply_iff, hno], by simp,
      fun _ => rfl⟩
    obtain ⟨hiff, -⟩ := isArpReply_of_readArp ha targetIP
    exact ⟨by simp [← hiff, hno], by simp⟩

/-- The router `192.168.42.1` tells a host its hardware address. -/
def sampleArpReply : Bytes :=
  [2, 0, 0, 0, 0, 9] ++ sampleMac.1 ++ [0x08, 0x06] ++ [0x00, 0x01, 0x08, 0x00, 6, 4] ++
    [0x00, 0x02] ++ sampleMac.1 ++ sampleIP.1 ++ [2, 0, 0, 0, 0, 9] ++ [192, 168, 42, 7]

/-- The host takes the answer. -/
theorem arp_requests_and_replies_router :
    parseArpReply sampleArpReply 42 sampleIP (ByteArrayN.zero 6) = some (1, sampleMac) := by
  obtain ⟨ret, mac, hparse, -, hpacket, -⟩ :=
    (arp_requests_and_replies sampleMac sampleIP sampleIP []).2 sampleArpReply (ByteArrayN.zero 6)
  obtain ⟨hiff, hmac⟩ := hpacket ⟨[0x00, 0x02], sampleMac.1, sampleIP.1, [2, 0, 0, 0, 0, 9],
    [192, 168, 42, 7]⟩ (by decide)
  have hret : ret = 1 := hiff.mpr ⟨rfl, rfl⟩
  rw [← hret, ← show mac = sampleMac from Subtype.ext (hmac hret)]
  exact hparse

end Rndis
end Gemina
