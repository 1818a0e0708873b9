/-
# DHCP replies

The replies of the DHCP server on the phone (`dhcp_reply_body` and `rl_parse_dhcp_reply` of
`rndis_lib.c`).  The frame comes from the other end of the cable: the length of the IP header, the
lengths of the options and the place where the frame ends are arbitrary.

As for packets, a read outside the frame is `none`.  The loop over the options is compared with
`Tlv.triples`, which reads the option area as a list, by an invariant that says what the lease holds
after the options read so far.
-/
import Gemina.Protocol
import Gemina.Lib.Slice
import Gemina.Lib.Tlv

namespace Gemina
namespace Rndis

/-- `rl_lease_t`. -/
structure Lease where
  clientIP : ByteArrayN 4
  serverID : ByteArrayN 4
  router : ByteArrayN 4
  hasServerID : Bool
  hasRouter : Bool

/-- The lease after `memset`. -/
def Lease.zero : Lease where
  clientIP := ByteArrayN.zero 4
  serverID := ByteArrayN.zero 4
  router := ByteArrayN.zero 4
  hasServerID := false
  hasRouter := false

/-- What `memcpy` reads: `n` bytes from `off` on. -/
def readArray (f : Bytes) (off n : ℕ) : Option (ByteArrayN n) :=
  if h : off + n ≤ f.length then
    some ⟨f.slice off (off + n), by rw [List.length_slice h, Nat.add_sub_cancel_left]⟩
  else none

/-- `dhcp_reply_body`: the position of the DHCP body and its length, unless it is `NULL`. -/
def dhcpReplyBody (f : Bytes) (len : ℤ) : Option (Option (ℕ × ℤ)) :=
  if len < 14 + 20 + 8 + 240 then some none
  else do
    let t0 ← f[12]?
    let t1 ← f[13]?
    if t0 ≠ 0x08 ∨ t1 ≠ 0x00 then return none -- not IPv4
    let ip : ℕ := 14
    let proto ← f[ip + 9]?
    if proto ≠ 17 then return none -- not UDP
    let vhl ← f[ip]?
    let ihl := (vhl &&& 0x0f).toNat * 4
    if ihl < 20 then return none
    let udp : ℕ := ip + ihl
    if (udp : ℤ) + 8 > len then return none
    let p0 ← f[udp]?
    let p1 ← f[udp + 1]?
    let p2 ← f[udp + 2]?
    let p3 ← f[udp + 3]?
    if ¬ (p0 = 0 ∧ p1 = 67 ∧ p2 = 0 ∧ p3 = 68) then return none -- not server->client
    let dhcp : ℕ := udp + 8
    if (dhcp : ℤ) + 240 > len then return none
    let op ← f[dhcp]?
    if op ≠ 2 then return none -- not BOOTREPLY
    return some (dhcp, len - dhcp)

/-- What the loop of `rl_parse_dhcp_reply` does with the option `code`, whose value is the `l` bytes
from `val` on. -/
def readOption (f : Bytes) (wantType code l : UInt8) (val : ℕ) (st : ℤ × Lease) :
    Option (ℤ × Lease) :=
  if code = 53 ∧ 1 ≤ l.toNat then do
    let type ← f[val]?
    return (if type = wantType then 1 else 0, st.2)
  else if code = 54 ∧ l.toNat = 4 then do
    let serverID ← readArray f val 4
    return (st.1, { st.2 with serverID := serverID, hasServerID := true })
  else if code = 3 ∧ 4 ≤ l.toNat then do
    let router ← readArray f val 4
    return (st.1, { st.2 with router := router, hasRouter := true })
  else some st

/-- The loop of `rl_parse_dhcp_reply`, of the bytes from `opt` up to `stop`.  The state is
`matched_type` and the lease. -/
def parseOptions (f : Bytes) (wantType : UInt8) (stop : ℤ) (opt : ℕ) (st : ℤ × Lease) :
    Option (ℤ × Lease) :=
  if (opt : ℤ) + 2 ≤ stop then do
    let code ← f[opt]?
    if code = 255 then return st
    if code = 0 then parseOptions f wantType stop (opt + 1) st
    else do
      let l ← f[opt + 1]?
      if (opt : ℤ) + 2 + l.toNat > stop then return st
      let st ← readOption f wantType code l (opt + 2) st
      parseOptions f wantType stop (opt + 2 + l.toNat) st
  else some st
termination_by (stop - opt).toNat

/-- `rl_parse_dhcp_reply`: the result, and the lease. -/
def parseDhcpReply (f : Bytes) (len : ℤ) (wantType : UInt8) (lease : Lease) :
    Option (ℤ × Lease) := do
  match ← dhcpReplyBody f len with
  | none => return (0, lease)
  | some (dhcp, dhcpLen) =>
    let clientIP ← readArray f (dhcp + 16) 4 -- yiaddr
    parseOptions f wantType (dhcp + dhcpLen) (dhcp + 240)
      (0, { Lease.zero with clientIP := clientIP })

/-! ## The meaning of a reply -/

/-- The frame is an IPv4/UDP frame from port 67 to port 68 with a BOOTREPLY in it, and the DHCP body
starts at the position `dhcp`. -/
structure IsReply (f : Bytes) (dhcp : ℕ) : Prop where
  ipv4 : f[12]? = some 0x08 ∧ f[13]? = some 0x00
  udp : f[23]? = some 17
  /-- The low half of the first byte is the length of the IP header, in words. -/
  ihl : ∃ vhl, f[14]? = some vhl ∧ 5 ≤ vhl.toNat % 16 ∧ dhcp = 14 + 4 * (vhl.toNat % 16) + 8
  sport : f[dhcp - 8]? = some 0 ∧ f[dhcp - 7]? = some 67
  dport : f[dhcp - 6]? = some 0 ∧ f[dhcp - 5]? = some 68
  fits : dhcp + 240 ≤ f.length
  bootReply : f[dhcp]? = some 2

/-- The body starts behind the headers. -/
lemma IsReply.unique {f : Bytes} {dhcp dhcp' : ℕ} (h : IsReply f dhcp) (h' : IsReply f dhcp') :
    dhcp = dhcp' := by
  obtain ⟨vhl, hvhl, -, rfl⟩ := h.ihl
  obtain ⟨vhl', hvhl', -, rfl⟩ := h'.ihl
  obtain rfl : vhl = vhl' := Option.some_inj.mp (hvhl.symm.trans hvhl')
  rfl

/-- The options of the DHCP body: behind the 236 bytes of its fixed part and the magic number. -/
def options (f : Bytes) (dhcp : ℕ) : List (UInt8 × Bytes) :=
  Tlv.triples 0 255 UInt8.toNat (f.drop (dhcp + 240))

/-- The message type: the first byte of the last option 53 that is not empty. -/
def messageType (os : List (UInt8 × Bytes)) : Option UInt8 :=
  (Tlv.last (fun o => o.1 = 53 ∧ 1 ≤ o.2.length) os).bind fun o => o.2.head?

/-- The server: the last option 54 of four bytes. -/
def serverOption (os : List (UInt8 × Bytes)) : Option Bytes :=
  (Tlv.last (fun o => o.1 = 54 ∧ o.2.length = 4) os).map fun o => o.2

/-- The router: the first four bytes of the last option 3 that has as many. -/
def routerOption (os : List (UInt8 × Bytes)) : Option Bytes :=
  (Tlv.last (fun o => o.1 = 3 ∧ 4 ≤ o.2.length) os).map fun o => o.2.take 4

/-- What the state of the loop is after the options `os`. -/
structure Holds (wantType : UInt8) (clientIP : ByteArrayN 4) (os : List (UInt8 × Bytes))
    (st : ℤ × Lease) : Prop where
  matched : st.1 = if messageType os = some wantType then 1 else 0
  clientIP : st.2.clientIP = clientIP
  server : serverOption os = if st.2.hasServerID then some st.2.serverID.1 else none
  router : routerOption os = if st.2.hasRouter then some st.2.router.1 else none

/-! ## The body -/

lemma toNat_ihl (vhl : UInt8) : (vhl &&& 0x0f).toNat * 4 = 4 * (vhl.toNat % 16) := by
  rw [UInt8.toNat_and, show UInt8.toNat 0x0f = 2 ^ 4 - 1 from rfl, Nat.and_two_pow_sub_one_eq_mod]
  ring

lemma dhcpReplyBody_of_isReply {f : Bytes} {dhcp : ℕ} (h : IsReply f dhcp) :
    dhcpReplyBody f f.length = some (some (dhcp, (f.length : ℤ) - dhcp)) := by
  obtain ⟨⟨ht0, ht1⟩, hproto, ⟨vhl, hvhl, hihl, rfl⟩, ⟨hp0, hp1⟩, ⟨hp2, hp3⟩, hfits, hop⟩ := h
  generalize hwords : vhl.toNat % 16 = words at *
  rw [show 14 + 4 * words + 8 - 8 = 14 + 4 * words by omega] at hp0
  rw [show 14 + 4 * words + 8 - 7 = 14 + 4 * words + 1 by omega] at hp1
  rw [show 14 + 4 * words + 8 - 6 = 14 + 4 * words + 2 by omega] at hp2
  rw [show 14 + 4 * words + 8 - 5 = 14 + 4 * words + 3 by omega] at hp3
  have hheader : ¬ 4 * words < 20 := by omega
  have hudp : ¬ ((14 + 4 * words : ℕ) : ℤ) + 8 > f.length := by omega
  have hbody : ¬ ((14 + 4 * words + 8 : ℕ) : ℤ) + 240 > f.length := by omega
  rw [dhcpReplyBody, if_neg (by omega)]
  simp only [ht0, ht1, hproto, hvhl, toNat_ihl, hwords, hheader, hudp, hp0, hp1, hp2, hp3, hbody,
    hop, Option.bind_eq_bind, Option.bind_some, Option.pure_def, ne_eq, not_true_eq_false, or_self,
    and_self, if_false]

/-- **The body is found inside the frame**, and only in a reply. -/
lemma dhcpReplyBody_total (f : Bytes) :
    ∃ body, dhcpReplyBody f f.length = some body ∧
      ∀ dhcp dhcpLen, body = some (dhcp, dhcpLen) → IsReply f dhcp := by
  by_cases hlen : (f.length : ℤ) < 14 + 20 + 8 + 240
  · exact ⟨none, by rw [dhcpReplyBody, if_pos hlen], by simp⟩
  -- the frame is longer than the longest headers, so all that is looked at is there
  have hget : ∀ i < 282, ∃ p, f[i]? = some p :=
    fun i hi => ⟨_, List.getElem?_eq_getElem (by omega)⟩
  obtain ⟨t0, ht0⟩ := hget 12 (by omega)
  obtain ⟨t1, ht1⟩ := hget 13 (by omega)
  obtain ⟨proto, hproto⟩ := hget (14 + 9) (by omega)
  obtain ⟨vhl, hvhl⟩ := hget 14 (by omega)
  have hwords : vhl.toNat % 16 < 16 := Nat.mod_lt _ (by omega)
  obtain ⟨p0, hp0⟩ := hget (14 + 4 * (vhl.toNat % 16)) (by omega)
  obtain ⟨p1, hp1⟩ := hget (14 + 4 * (vhl.toNat % 16) + 1) (by omega)
  obtain ⟨p2, hp2⟩ := hget (14 + 4 * (vhl.toNat % 16) + 2) (by omega)
  obtain ⟨p3, hp3⟩ := hget (14 + 4 * (vhl.toNat % 16) + 3) (by omega)
  obtain ⟨op, hop⟩ := hget (14 + 4 * (vhl.toNat % 16) + 8) (by omega)
  rw [dhcpReplyBody, if_neg hlen]
  simp only [ht0, ht1, hproto, hvhl, toNat_ihl, hp0, hp1, hp2, hp3, hop, Option.bind_eq_bind,
    Option.bind_some, Option.pure_def]
  split_ifs with hipv4 hudp hheader hfits hports hbody hreply
  · exact ⟨none, rfl, by simp⟩
  · exact ⟨none, rfl, by simp⟩
  · exact ⟨none, rfl, by simp⟩
  · exact ⟨none, rfl, by simp⟩
  · exact ⟨none, rfl, by simp⟩
  · exact ⟨none, rfl, by simp⟩
  · refine ⟨_, rfl, ?_⟩
    intro dhcp dhcpLen hsome
    obtain ⟨rfl, -⟩ := Prod.mk.inj (Option.some_inj.mp hsome)
    obtain ⟨rfl, rfl⟩ : t0 = 0x08 ∧ t1 = 0x00 := by simpa using hipv4
    obtain ⟨rfl, rfl, rfl, rfl⟩ := hports
    obtain rfl := not_not.mp hudp
    obtain rfl := not_not.mp hreply
    exact
      { ipv4 := ⟨ht0, ht1⟩
        udp := hproto
        ihl := ⟨vhl, hvhl, by omega, rfl⟩
        sport := ⟨hp0, hp1⟩
        dport := ⟨hp2, hp3⟩
        fits := by omega
        bootReply := hop }
  · exact ⟨none, rfl, by simp⟩

/-! ## The options -/

lemma messageType_concat (os : List (UInt8 × Bytes)) (o : UInt8 × Bytes) :
    messageType (os ++ [o])
      = if o.1 = 53 ∧ 1 ≤ o.2.length then o.2.head? else messageType os := by
  split_ifs with h
  · rw [messageType, Tlv.last_append_of_pos (by simpa using h), Option.bind_some]
  · rw [messageType, Tlv.last_append_of_neg (by simpa using h), messageType]

lemma serverOption_concat (os : List (UInt8 × Bytes)) (o : UInt8 × Bytes) :
    serverOption (os ++ [o])
      = if o.1 = 54 ∧ o.2.length = 4 then some o.2 else serverOption os := by
  split_ifs with h
  · rw [serverOption, Tlv.last_append_of_pos (by simpa using h), Option.map_some]
  · rw [serverOption, Tlv.last_append_of_neg (by simpa using h), serverOption]

lemma routerOption_concat (os : List (UInt8 × Bytes)) (o : UInt8 × Bytes) :
    routerOption (os ++ [o])
      = if o.1 = 3 ∧ 4 ≤ o.2.length then some (o.2.take 4) else routerOption os := by
  split_ifs with h
  · rw [routerOption, Tlv.last_append_of_pos (by simpa using h), Option.map_some]
  · rw [routerOption, Tlv.last_append_of_neg (by simpa using h), routerOption]

lemma readArray_of_le {f : Bytes} {off n : ℕ} (h : off + n ≤ f.length) :
    ∃ a, readArray f off n = some a ∧ a.1 = (f.drop off).take n := by
  rw [readArray, dif_pos h]
  refine ⟨_, rfl, ?_⟩
  change f.slice off (off + n) = _
  rw [List.slice, Nat.add_sub_cancel_left]

section Loop

variable {f : Bytes} {wantType code l : UInt8} {clientIP : ByteArrayN 4}
  {os : List (UInt8 × Bytes)} {st : ℤ × Lease} {val opt : ℕ}

/-- One option is read inside the frame, and the state then holds what it says. -/
lemma readOption_holds (h : Holds wantType clientIP os st) (hval : val + l.toNat ≤ f.length) :
    ∃ st', readOption f wantType code l val st = some st' ∧
      Holds wantType clientIP (os ++ [(code, (f.drop val).take l.toNat)]) st' := by
  have hlen : ((f.drop val).take l.toNat).length = l.toNat := by
    rw [List.length_take, List.length_drop]
    omega
  rw [readOption]
  split_ifs with htype hserver hrouter
  · obtain ⟨hcode, hpos⟩ := htype
    have hget : f[val]? = some f[val] := List.getElem?_eq_getElem (by omega)
    have hhead : ((f.drop val).take l.toNat).head? = some f[val] := by
      rw [List.head?_take, if_neg (by omega), List.head?_drop, hget]
    rw [hget]
    refine ⟨_, rfl, ?_, h.clientIP, ?_, ?_⟩
    · simp only [messageType_concat, hcode, hlen, hpos, and_self, if_true, hhead, Option.some_inj]
    · rw [serverOption_concat, if_neg (by simp [hcode])]
      exact h.server
    · rw [routerOption_concat, if_neg (by simp [hcode])]
      exact h.router
  · obtain ⟨hcode, hfour⟩ := hserver
    obtain ⟨serverID, hread, hvalue⟩ := readArray_of_le (show val + 4 ≤ f.length by omega)
    rw [hread]
    refine ⟨_, rfl, ?_, h.clientIP, ?_, ?_⟩
    · rw [messageType_concat, if_neg (show ¬ (code = 53 ∧ _) by simp [hcode])]
      exact h.matched
    · rw [serverOption_concat, if_pos ⟨hcode, hlen.trans hfour⟩, hfour, ← hvalue]
      rfl
    · rw [routerOption_concat, if_neg (by simp [hcode])]
      exact h.router
  · obtain ⟨hcode, hfour⟩ := hrouter
    obtain ⟨router, hread, hvalue⟩ := readArray_of_le (show val + 4 ≤ f.length by omega)
    rw [hread]
    refine ⟨_, rfl, ?_, h.clientIP, ?_, ?_⟩
    · rw [messageType_concat, if_neg (show ¬ (code = 53 ∧ _) by simp [hcode])]
      exact h.matched
    · rw [serverOption_concat, if_neg (by simp [hcode])]
      exact h.server
    · rw [routerOption_concat, if_pos ⟨hcode, hfour.trans_eq hlen.symm⟩, List.take_take,
        min_eq_left hfour, ← hvalue]
      rfl
  · refine ⟨st, rfl, ?_, h.clientIP, ?_, ?_⟩
    · rw [messageType_concat, hlen, if_neg htype]
      exact h.matched
    · rw [serverOption_concat, hlen, if_neg hserver]
      exact h.server
    · rw [routerOption_concat, hlen, if_neg hrouter]
      exact h.router

/-- **The loop reads inside the frame**, and in the end the state holds what the options say. -/
lemma parseOptions_holds (h : Holds wantType clientIP os st) :
    ∃ st', parseOptions f wantType f.length opt st = some st' ∧
      Holds wantType clientIP (os ++ Tlv.triples 0 255 UInt8.toNat (f.drop opt)) st' := by
  -- induction on the rest of the frame, with the options read so far
  induction hrest : f.length - opt using Nat.strong_induction_on generalizing opt os st with
  | _ rest ih =>
    subst hrest
    rw [parseOptions]
    by_cases hend : (opt : ℤ) + 2 ≤ f.length
    · rw [if_pos hend]
      obtain ⟨code, hcode⟩ : ∃ code, f[opt]? = some code :=
        ⟨_, List.getElem?_eq_getElem (by omega)⟩
      obtain ⟨l, hl⟩ : ∃ l, f[opt + 1]? = some l := ⟨_, List.getElem?_eq_getElem (by omega)⟩
      rw [hcode, hl]
      simp only [Option.bind_eq_bind, Option.bind_some, Option.pure_def]
      by_cases hstop : code = 255
      · subst hstop
        rw [if_pos rfl, Tlv.triples_stop hcode, List.append_nil]
        exact ⟨st, rfl, h⟩
      rw [if_neg hstop]
      by_cases hpad : code = 0
      · subst hpad
        rw [if_pos rfl, Tlv.triples_pad (by decide) hcode]
        exact ih _ (by omega) h rfl
      rw [if_neg hpad]
      by_cases hover : (opt : ℤ) + 2 + l.toNat > f.length
      · rw [if_pos hover, Tlv.triples_overrun hstop hpad hcode hl (by omega), List.append_nil]
        exact ⟨st, rfl, h⟩
      rw [if_neg hover, Tlv.triples_option hstop hpad hcode hl (by omega)]
      obtain ⟨st', hread, hst'⟩ := @readOption_holds f wantType code l clientIP os st (opt + 2) h
        (by omega)
      rw [hread, Option.bind_some, List.append_cons]
      exact ih _ (by omega) hst' rfl
    · rw [if_neg hend, Tlv.triples_short (by omega), List.append_nil]
      exact ⟨st, rfl, h⟩

end Loop

/-! ## The result -/

lemma holds_zero (wantType : UInt8) (clientIP : ByteArrayN 4) :
    Holds wantType clientIP [] (0, { Lease.zero with clientIP := clientIP }) where
  matched := rfl
  clientIP := rfl
  server := rfl
  router := rfl

/-- A flag that says whether there is a value. -/
lemma flag_of_eq {o : Option Bytes} {flag : Bool} {value : Bytes}
    (h : o = if flag then some value else none) :
    (flag = true ↔ ∃ x, o = some x) ∧ ∀ x, o = some x → value = x := by
  subst h
  cases flag with
  | true => exact ⟨by simp, fun x hx => Option.some_inj.mp hx⟩
  | false => exact ⟨by simp, fun x hx => by simp at hx⟩

/-- A frame that is no reply leaves the lease alone. -/
lemma parseDhcpReply_of_not {f : Bytes} (h : ∀ dhcp, ¬ IsReply f dhcp) (wantType : UInt8)
    (lease : Lease) : parseDhcpReply f f.length wantType lease = some (0, lease) := by
  obtain ⟨body, hbody, hreply⟩ := dhcpReplyBody_total f
  rw [parseDhcpReply, hbody]
  match body with
  | none => rfl
  | some (dhcp, dhcpLen) => exact absurd (hreply dhcp dhcpLen rfl) (h dhcp)

lemma parseDhcpReply_of_isReply {f : Bytes} {dhcp : ℕ} (h : IsReply f dhcp) (wantType : UInt8)
    (lease : Lease) :
    ∃ clientIP st, parseDhcpReply f f.length wantType lease = some st ∧
      clientIP.1 = f.slice (dhcp + 16) (dhcp + 20) ∧
      Holds wantType clientIP (options f dhcp) st := by
  have hfits := h.fits
  obtain ⟨clientIP, hread, hvalue⟩ := readArray_of_le (show dhcp + 16 + 4 ≤ f.length by omega)
  obtain ⟨st, hparse, hst⟩ := @parseOptions_holds f wantType clientIP [] _ (dhcp + 240)
    (holds_zero wantType clientIP)
  refine ⟨clientIP, st, ?_, ?_, hst⟩
  · rw [parseDhcpReply, dhcpReplyBody_of_isReply h]
    simp only [Option.bind_eq_bind, Option.bind_some, hread, add_sub_cancel]
    exact hparse
  · rw [hvalue, List.slice]
    congr 1
    omega

/-- **DHCP replies are parsed safely and exactly.**  For every frame and every wanted type,
`rl_parse_dhcp_reply` returns and has read inside the frame only.  It returns 1 exactly if the frame
is a reply from the server whose message type is the wanted one, and 0 otherwise.  If it returns 1,
then the lease holds the address of the client from the body, and the server and the router from
the options, with flags that say whether there were such options. -/
theorem dhcp_replies_parsed (f : Bytes) (wantType : UInt8) (lease : Lease) :
    ∃ ret lease', parseDhcpReply f f.length wantType lease = some (ret, lease') ∧
      (ret = 0 ∨ ret = 1) ∧
      (ret = 1 ↔ ∃ dhcp, IsReply f dhcp ∧ messageType (options f dhcp) = some wantType) ∧
      (ret = 1 → ∃ dhcp, IsReply f dhcp ∧
        lease'.clientIP.1 = f.slice (dhcp + 16) (dhcp + 20) ∧
        (lease'.hasServerID = true ↔ ∃ id, serverOption (options f dhcp) = some id) ∧
        (∀ id, serverOption (options f dhcp) = some id → lease'.serverID.1 = id) ∧
        (lease'.hasRouter = true ↔ ∃ ip, routerOption (options f dhcp) = some ip) ∧
        (∀ ip, routerOption (options f dhcp) = some ip → lease'.router.1 = ip)) := by
  by_cases hreply : ∃ dhcp, IsReply f dhcp
  · obtain ⟨dhcp, hdhcp⟩ := hreply
    obtain ⟨clientIP, ⟨ret, lease'⟩, hparse, hclientIP, hst⟩ :=
      parseDhcpReply_of_isReply hdhcp wantType lease
    have hmatched : ret = if messageType (options f dhcp) = some wantType then 1 else 0 :=
      hst.matched
    refine ⟨ret, lease', hparse, ?_, ?_, ?_⟩
    · rw [hmatched]
      split_ifs
      · exact Or.inr rfl
      · exact Or.inl rfl
    · have hone : ret = 1 ↔ messageType (options f dhcp) = some wantType := by
        rw [hmatched]
        split_ifs with h <;> simp [h]
      rw [hone]
      refine ⟨fun htype => ⟨dhcp, hdhcp, htype⟩, ?_⟩
      rintro ⟨dhcp', hdhcp', htype⟩
      rwa [hdhcp.unique hdhcp']
    · intro _
      have hclient : lease'.clientIP = clientIP := hst.clientIP
      obtain ⟨hhasServer, hserver⟩ := flag_of_eq hst.server
      obtain ⟨hhasRouter, hrouter⟩ := flag_of_eq hst.router
      exact ⟨dhcp, hdhcp, by rw [hclient, hclientIP], hhasServer, hserver, hhasRouter, hrouter⟩
  · push Not at hreply
    refine ⟨0, lease, parseDhcpReply_of_not hreply wantType lease, Or.inl rfl, ?_, by simp⟩
    simp [hreply]

end Rndis
end Gemina
