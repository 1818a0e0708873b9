/-
# Two paths at once

The driver `rndis_dualpath.c` sends numbered probes of one session over Wi-Fi and over the phone:
the first five over both, then three over Wi-Fi only and three over the phone only.  In the end it
prints what the gateway should find.  Here the driver meets an honest phone, a Wi-Fi that may lose
anything, and the probe gateway.

`gateway_from_env` is represented by what it returns: the gateway's address and port, if there is
one.
-/
import Gemina.ProbeGateway.Client
import Gemina.Rndis.Phone

namespace Gemina
namespace Rndis

/-! ## The driver -/

/-- What a run of the driver depends on besides the phone: the environment, the Wi-Fi socket with
the result of each `send`, the random bytes, and uninitialised memory. -/
structure DriverEnv where
  gateway : Option (ByteArrayN 4 × UInt16)
  wifiIface : Option String
  wifiOpens : Bool
  wifiSend : ℕ → Bool
  rand : SessionID
  msg : Bytes
  frame : Bytes
  probe : Bytes

/-- The first byte is made odd. -/
lemma length_oddHead (session : SessionID) :
    (session.1.modifyHead (· ||| 1)).length = sessionIDSize := by
  rw [List.length_modifyHead]
  exact session.2

/-- `random_session`. -/
def DriverEnv.session (env : DriverEnv) : SessionID :=
  ⟨env.rand.1.modifyHead (· ||| 1), length_oddHead env.rand⟩

/-- The name of the Wi-Fi interface. -/
def DriverEnv.iface (env : DriverEnv) : String := env.wifiIface.getD "en0"

/-- The probe of the given number, in an array of `CVP_PROBE_SIZE` bytes. -/
def DriverEnv.buildProbe (env : DriverEnv) (num : ℕ) (path : PathTag) : Bytes :=
  (Rndis.buildProbe env.session (UInt64.ofNat num) path env.probe).take probeSize

variable {δ : Type}

/-- The state of the driver while it sends: its counters, the phone, and what has gone out over
Wi-Fi so far, in how many attempts. -/
structure Driver (δ : Type) where
  num : ℕ
  both : ℕ
  wifiOnly : ℕ
  cellOnly : ℕ
  link : Link δ
  tried : ℕ
  wifi : List Bytes

/-- `wifi_socket_send`. -/
def Driver.sendWifi (env : DriverEnv) (s : Driver δ) (b : Bytes) : Bool × Driver δ :=
  if env.wifiSend s.tried then (true, { s with tried := s.tried + 1, wifi := s.wifi ++ [b] })
  else (false, { s with tried := s.tried + 1 })

/-- A call of `rndis_uplink_send_udp`, and whether it returns zero. -/
def Driver.sendCell (B : Bus δ) (env : DriverEnv) (up : Uplink) (gw : ByteArrayN 4 × UInt16)
    (s : Driver δ) (b : Bytes) : Bool × Driver δ :=
  let r := sendUdp B up s.link env.msg env.frame gw.1 gw.2 b b.length
  (r.1 = 0, { s with link := r.2 })

/-- The body of the loop of the first phase. -/
def Driver.phase1 (B : Bus δ) (env : DriverEnv) (up : Uplink) (gw : ByteArrayN 4 × UInt16)
    (s : Driver δ) : Driver δ :=
  let num := s.num + 1
  let pa := env.buildProbe num pathWiFi
  let pb := env.buildProbe num pathAndroidUSBTether
  let a := s.sendWifi env pa
  let b := a.2.sendCell B env up gw pb
  { b.2 with num := num, both := if a.1 && b.1 then s.both + 1 else s.both }

/-- The body of the loop of the second phase. -/
def Driver.phase2 (env : DriverEnv) (s : Driver δ) : Driver δ :=
  let num := s.num + 1
  let a := s.sendWifi env (env.buildProbe num pathWiFi)
  { a.2 with num := num, wifiOnly := if a.1 then s.wifiOnly + 1 else s.wifiOnly }

/-- The body of the loop of the third phase. -/
def Driver.phase3 (B : Bus δ) (env : DriverEnv) (up : Uplink) (gw : ByteArrayN 4 × UInt16)
    (s : Driver δ) : Driver δ :=
  let num := s.num + 1
  let b := s.sendCell B env up gw (env.buildProbe num pathAndroidUSBTether)
  { b.2 with num := num, cellOnly := if b.1 then s.cellOnly + 1 else s.cellOnly }

/-- The three loops. -/
def Driver.phases (B : Bus δ) (env : DriverEnv) (up : Uplink) (gw : ByteArrayN 4 × UInt16)
    (l : Link δ) : Driver δ :=
  let s : Driver δ := ⟨0, 0, 0, 0, l, 0, []⟩
  let s := (Driver.phase1 B env up gw)^[5] s
  let s := (Driver.phase2 env)^[3] s
  (Driver.phase3 B env up gw)^[3] s

/-- What is printed before the phases. -/
def passB : String := "PASS path-B: RNDIS cellular uplink up (lease + gateway resolved)\n"
def passA (iface : String) : String := "PASS path-A: Wi-Fi socket bound to " ++ iface ++ "\n"

/-- What is printed after the phases. -/
def report (num both wifiOnly cellOnly : ℕ) : List String :=
  ["PASS phase-1: " ++ toString both ++ " identities sent over BOTH paths simultaneously\n",
    "PASS phase-2: " ++ toString wifiOnly ++ " identities sent over Wi-Fi only (cellular 'down')\n",
    "PASS phase-3: " ++ toString cellOnly ++ " identities sent over cellular only (Wi-Fi 'down')\n",
    "RESULT: dual-path send COMPLETE — " ++ toString num ++
      " distinct identities, one session. Expect at the gateway: " ++ toString num ++
      " first-copy total, " ++ toString both ++
      " duplicates (phase 1), and the surviving path delivering every identity in phases 2-3. " ++
      "Verify in the gateway logs (ssh oracle).\n"]

/-- What a run of the driver leaves: the exit code, what was printed, the uplink, the phone, and
what went out over Wi-Fi. -/
structure DriverRun (δ : Type) where
  ret : ℤ
  printed : List String
  up : Uplink
  link : Link δ
  wifi : List Bytes

/-- `main` of `rndis_dualpath.c`. -/
def dualpath (B : Bus δ) (rnd : Random) (mem : Memory) (env : DriverEnv) (d : δ) :
    Option (DriverRun δ) :=
  match env.gateway with
  | none => some ⟨2, ["FAIL config: set GEMINA_GATEWAY_IP\n"], Uplink.zero, ⟨d, []⟩, []⟩
  | some gw => do
    let o ← bringUp B rnd mem d
    if o.ret ≠ 0 then return ⟨1, [o.printed], o.up, o.link, []⟩
    if !env.wifiOpens then
      return ⟨1, [passB, "FAIL path-A: could not bind a UDP socket to " ++ env.iface ++ "\n"],
        closeUplink o.up, o.link, []⟩
    let s := Driver.phases B env o.up gw o.link
    return ⟨0, passB :: passA env.iface :: report s.num s.both s.wifiOnly s.cellOnly,
      closeUplink o.up, s.link, s.wifi⟩

/-! ## What is sent -/

namespace DriverEnv

variable (env : DriverEnv)

/-- The session is not zero. -/
lemma session_isZero : env.session.isZero = false := by
  rcases hrand : env.rand with ⟨_ | ⟨b, bs⟩, hlen⟩
  · simp [sessionIDSize] at hlen
  · have hne : b ||| 1 ≠ 0 := by
      intro hzero
      have hbit := congrArg (fun v => v.toNat.testBit 0) hzero
      simp at hbit
    simp [session, hrand, SessionID.isZero, hne]

/-- The probe of the given number. -/
def packet (path : PathTag) (num : ℕ) : ProbePacket := ProbeGateway.probePacket env.session path num

lemma buildProbe_eq (num : ℕ) (path : PathTag) :
    env.buildProbe num path = wireBytes (env.packet path num) := by
  rw [buildProbe, Rndis.buildProbe_eq ⟨env.session, UInt64.ofNat num⟩,
    List.take_left' (length_wireBytes _)]
  rfl

lemma packet_valid {num : ℕ} (hpos : 1 ≤ num) (hlt : num < 2 ^ 64) (path : PathTag) :
    (env.packet path num).id.valid = true := by
  rw [PacketID.valid_iff]
  refine ⟨env.session_isZero, fun hzero => ?_⟩
  have hnat := congrArg UInt64.toNat hzero
  simp only [packet, ProbeGateway.probePacket, UInt64.toNat_ofNat', UInt64.toNat_zero] at hnat
  omega

end DriverEnv

section Phases

variable {ph : Phone} (env : DriverEnv) {up : Uplink} (gw : ByteArrayN 4 × UInt16)

/-- The numbers of the probes that go out over Wi-Fi in the first two phases. -/
def wifiNumbers (ok : ℕ → Bool) (i j : ℕ) : List ℕ := ((List.range (i + j)).filter ok).map (· + 1)

/-- The numbers of the probes that go out over the phone in the first and the third phase. -/
def cellNumbers (i j k : ℕ) : List ℕ :=
  (List.range i).map (· + 1) ++ (List.range k).map fun n => i + j + n + 1

/-- The frame with the probe of the given number. -/
def cellFrame (env : DriverEnv) (up : Uplink) (gw : ByteArrayN 4 × UInt16) (num : ℕ) : Bytes :=
  udpFrame up.gwMac up.mac up.clientIP gw.1 up.sport gw.2
    (wireBytes (env.packet pathAndroidUSBTether num))

/-- The driver after so many rounds of each phase. -/
structure Driver.At (env : DriverEnv) (up : Uplink) (gw : ByteArrayN 4 × UInt16)
    (forwarded : List Bytes) (i j k : ℕ) (s : Driver PhoneState) : Prop where
  num_eq : s.num = i + j + k
  tried_eq : s.tried = i + j
  both_eq : s.both = (List.range i).countP env.wifiSend
  wifiOnly_eq : s.wifiOnly = (List.range j).countP fun n => env.wifiSend (i + n)
  cellOnly_eq : s.cellOnly = k
  wifi_eq : s.wifi = (wifiNumbers env.wifiSend i j).map fun num =>
    wireBytes (env.packet pathWiFi num)
  forwarded_eq : s.link.dev.forwarded = forwarded ++ (cellNumbers i j k).map (cellFrame env up gw)

variable {env gw} {forwarded : List Bytes} {i j k : ℕ} {s : Driver PhoneState}

lemma Driver.sendCell_phone (hready : up.ready = true) (hport : up.sport ≠ 68)
    (s : Driver PhoneState) (num : ℕ) :
    ∃ l : Link PhoneState, s.sendCell ph.bus env up gw (env.buildProbe num pathAndroidUSBTether) =
        (true, { s with link := l }) ∧
      l.dev.forwarded = s.link.dev.forwarded ++ [cellFrame env up gw num] := by
  rw [DriverEnv.buildProbe_eq]
  obtain ⟨evs, hsend⟩ := @sendUdp_phone ph up hready hport s.link.dev s.link.events
    ⟨env.msg, env.frame, gw.1, gw.2, wireBytes (env.packet pathAndroidUSBTether num)⟩
    (by rw [length_wireBytes]; decide)
  refine ⟨⟨⟨s.link.dev.asked, s.link.dev.response, s.link.dev.pending,
    s.link.dev.forwarded ++ [cellFrame env up gw num]⟩, evs⟩, ?_, rfl⟩
  simp only [Driver.sendCell, hsend, decide_true]
  rfl

lemma wifiNumbers_succ_left (ok : ℕ → Bool) (i : ℕ) :
    wifiNumbers ok (i + 1) 0 = wifiNumbers ok i 0 ++ if ok i then [i + 1] else [] := by
  simp only [wifiNumbers, Nat.add_zero, List.range_succ, List.filter_append, List.map_append]
  by_cases h : ok i = true
  · simp [h]
  · simp [h]

lemma wifiNumbers_succ_right (ok : ℕ → Bool) (i j : ℕ) :
    wifiNumbers ok i (j + 1) = wifiNumbers ok i j ++ if ok (i + j) then [i + j + 1] else [] := by
  simp only [wifiNumbers, ← Nat.add_assoc, List.range_succ, List.filter_append, List.map_append]
  by_cases h : ok (i + j) = true
  · simp [h]
  · simp [h]

/-- One round of the first phase. -/
lemma Driver.At.phase1 (hready : up.ready = true) (hport : up.sport ≠ 68)
    (h : s.At env up gw forwarded i 0 0) :
    (s.phase1 ph.bus env up gw).At env up gw forwarded (i + 1) 0 0 := by
  have hnum : s.num + 1 = i + 1 := by rw [h.num_eq]
  have htried : s.tried = i := by rw [h.tried_eq, Nat.add_zero]
  have hcell : cellNumbers (i + 1) 0 0 = cellNumbers i 0 0 ++ [i + 1] := by
    simp [cellNumbers, List.range_succ]
  obtain ⟨l, hsend, hl⟩ := @Driver.sendCell_phone ph env up gw hready hport
    (s.sendWifi env (env.buildProbe (s.num + 1) pathWiFi)).2 (s.num + 1)
  by_cases hok : env.wifiSend i = true
  · simp only [Driver.sendWifi, htried, hok, if_true] at hsend hl
    simp only [Driver.phase1, Driver.sendWifi, htried, hok, if_true, hsend, Bool.and_self]
    refine ⟨hnum, rfl, ?_, h.wifiOnly_eq.trans (by simp), h.cellOnly_eq, ?_, ?_⟩
    · simp [h.both_eq, List.range_succ, hok]
    · simp [h.wifi_eq, wifiNumbers_succ_left, hok, hnum, DriverEnv.buildProbe_eq]
    · simp [hl, h.forwarded_eq, hcell, hnum]
  · simp only [Driver.sendWifi, htried, hok, Bool.false_eq_true, if_false] at hsend hl
    simp only [Driver.phase1, Driver.sendWifi, htried, hok, Bool.false_eq_true, if_false, hsend,
      Bool.false_and]
    refine ⟨hnum, rfl, ?_, h.wifiOnly_eq.trans (by simp), h.cellOnly_eq, ?_, ?_⟩
    · simp [h.both_eq, List.range_succ, hok]
    · simp [h.wifi_eq, wifiNumbers_succ_left, hok]
    · simp [hl, h.forwarded_eq, hcell, hnum]

/-- One round of the second phase. -/
lemma Driver.At.phase2 (h : s.At env up gw forwarded i j 0) :
    (s.phase2 env).At env up gw forwarded i (j + 1) 0 := by
  have hnum : s.num + 1 = i + j + 1 := by rw [h.num_eq, Nat.add_zero]
  have hcell : cellNumbers i (j + 1) 0 = cellNumbers i j 0 := by simp [cellNumbers]
  by_cases hok : env.wifiSend (i + j) = true
  · simp only [Driver.phase2, Driver.sendWifi, h.tried_eq, hok, if_true]
    refine ⟨hnum, rfl, h.both_eq, ?_, h.cellOnly_eq, ?_, by rw [hcell]; exact h.forwarded_eq⟩
    · simp [h.wifiOnly_eq, List.range_succ, hok]
    · simp [h.wifi_eq, wifiNumbers_succ_right, hok, hnum, DriverEnv.buildProbe_eq]
  · simp only [Driver.phase2, Driver.sendWifi, h.tried_eq, hok, Bool.false_eq_true, if_false]
    refine ⟨hnum, rfl, h.both_eq, ?_, h.cellOnly_eq, ?_, by rw [hcell]; exact h.forwarded_eq⟩
    · simp [h.wifiOnly_eq, List.range_succ, hok]
    · simp [h.wifi_eq, wifiNumbers_succ_right, hok]

/-- One round of the third phase. -/
lemma Driver.At.phase3 (hready : up.ready = true) (hport : up.sport ≠ 68)
    (h : s.At env up gw forwarded i j k) :
    (s.phase3 ph.bus env up gw).At env up gw forwarded i j (k + 1) := by
  have hnum : s.num + 1 = i + j + k + 1 := by rw [h.num_eq]
  have hcell : cellNumbers i j (k + 1) = cellNumbers i j k ++ [i + j + k + 1] := by
    simp [cellNumbers, List.range_succ]
  obtain ⟨l, hsend, hl⟩ := @Driver.sendCell_phone ph env up gw hready hport s (s.num + 1)
  simp only [Driver.phase3, hsend, if_true]
  exact ⟨hnum, h.tried_eq, h.both_eq, h.wifiOnly_eq, by rw [h.cellOnly_eq], h.wifi_eq,
    by simp [hl, h.forwarded_eq, hcell, hnum]⟩

/-- **All three phases.** -/
lemma Driver.phases_at (hready : up.ready = true) (hport : up.sport ≠ 68) (l : Link PhoneState) :
    (Driver.phases ph.bus env up gw l).At env up gw l.dev.forwarded 5 3 3 := by
  have hstart : Driver.At env up gw l.dev.forwarded 0 0 0 ⟨0, 0, 0, 0, l, 0, []⟩ :=
    ⟨rfl, rfl, rfl, rfl, rfl, rfl, by simp [cellNumbers]⟩
  have h₁ : ∀ n, ((Driver.phase1 ph.bus env up gw)^[n] ⟨0, 0, 0, 0, l, 0, []⟩).At env up gw
      l.dev.forwarded n 0 0 := by
    intro n
    induction n with
    | zero => exact hstart
    | succ n ih =>
      rw [Function.iterate_succ_apply']
      exact ih.phase1 hready hport
  have h₂ : ∀ n s, Driver.At env up gw l.dev.forwarded 5 0 0 s →
      ((Driver.phase2 env)^[n] s).At env up gw l.dev.forwarded 5 n 0 := by
    intro n s hs
    induction n with
    | zero => exact hs
    | succ n ih =>
      rw [Function.iterate_succ_apply']
      exact ih.phase2
  have h₃ : ∀ n s, Driver.At env up gw l.dev.forwarded 5 3 0 s →
      ((Driver.phase3 ph.bus env up gw)^[n] s).At env up gw l.dev.forwarded 5 3 n := by
    intro n s hs
    induction n with
    | zero => exact hs
    | succ n ih =>
      rw [Function.iterate_succ_apply']
      exact ih.phase3 hready hport
  exact h₃ 3 _ (h₂ 3 _ (h₁ 5))

end Phases

/-! ## What the gateway finds -/

/-- The numbers that go out over Wi-Fi in the second phase. -/
def wifiOnlyNumbers (ok : ℕ → Bool) (i j : ℕ) : List ℕ :=
  ((List.range j).filter fun n => ok (i + n)).map fun n => i + n + 1

lemma wifiNumbers_eq (ok : ℕ → Bool) (i j : ℕ) :
    wifiNumbers ok i j = ((List.range i).filter ok).map (· + 1) ++ wifiOnlyNumbers ok i j := by
  rw [wifiNumbers, List.range_add, List.filter_append, List.map_append, List.filter_map,
    List.map_map]
  rfl

/-- The numbers of the phone and those of the second phase are all different. -/
lemma nodup_numbers (ok : ℕ → Bool) (i j k : ℕ) :
    (cellNumbers i j k ++ wifiOnlyNumbers ok i j).Nodup := by
  have hinj : ∀ m, Function.Injective fun n : ℕ => m + n + 1 := by
    intro m a b hab
    simp only at hab
    omega
  refine List.nodup_append'.mpr ⟨List.nodup_append'.mpr ⟨?_, ?_, ?_⟩, ?_, ?_⟩
  · exact List.nodup_range.map (add_left_injective 1)
  · exact List.nodup_range.map (hinj _)
  · intro n hn hn'
    simp only [List.mem_map, List.mem_range] at hn hn'
    omega
  · exact (List.nodup_range.filter _).map (hinj i)
  · intro n hn hn'
    simp only [cellNumbers, wifiOnlyNumbers, List.mem_append, List.mem_map, List.mem_filter,
      List.mem_range] at hn hn'
    omega

/-- **How many different numbers there are**: those of the phone, and those of the second phase. -/
lemma card_numbers (ok : ℕ → Bool) (i j k : ℕ) :
    (wifiNumbers ok i j ++ cellNumbers i j k).toFinset.card =
      i + k + (List.range j).countP fun n => ok (i + n) := by
  have hset : (wifiNumbers ok i j ++ cellNumbers i j k).toFinset =
      (cellNumbers i j k ++ wifiOnlyNumbers ok i j).toFinset := by
    ext n
    simp only [wifiNumbers_eq, List.mem_toFinset, List.mem_append]
    constructor
    · rintro ((hn | hn) | hn)
      · -- a number of the first phase goes out over the phone as well
        left
        obtain ⟨m, hm, rfl⟩ := List.mem_map.mp hn
        exact List.mem_append_left _ (List.mem_map.mpr ⟨m, (List.mem_filter.mp hm).1, rfl⟩)
      · exact Or.inr hn
      · exact Or.inl hn
    · rintro (hn | hn)
      · exact Or.inr hn
      · exact Or.inl (Or.inr hn)
  rw [hset, List.toFinset_card_of_nodup (nodup_numbers ok i j k), List.length_append, cellNumbers,
    wifiOnlyNumbers, List.length_append, List.length_map, List.length_map, List.length_map,
    List.length_range, List.length_range, ← List.countP_eq_length_filter]

/-- What a receiver reads in the frames with the probes. -/
lemma readUdp_cellFrame (env : DriverEnv) (up : Uplink) (gw : ByteArrayN 4 × UInt16) (num : ℕ) :
    readUdp (cellFrame env up gw num) = some ⟨up.gwMac.1, up.mac.1, up.clientIP.1, gw.1.1,
      up.sport.toNat, gw.2.toNat, wireBytes (env.packet pathAndroidUSBTether num)⟩ :=
  readUdp_udpFrame (by rw [length_wireBytes]; decide)

/-- The gateway decodes the probes. -/
lemma probes_wireBytes {ps : List ProbePacket} (h : ∀ p ∈ ps, p.id.valid = true) :
    ProbeGateway.probes (ps.map wireBytes) = ps := by
  induction ps with
  | nil => rfl
  | cons p ps ih =>
    have hdec := ProbeGateway.unmarshalProbe_of_valid (h p List.mem_cons_self)
    have hrest := ih fun q hq => h q (List.mem_cons_of_mem _ hq)
    rw [ProbeGateway.probes] at hrest ⊢
    rw [List.map_cons, List.filterMap_cons, hdec, hrest]
    rfl

/-- The identities that some probes of the driver have. -/
lemma card_ids (env : DriverEnv) {nums : List ℕ} (h : ∀ n ∈ nums, n < 2 ^ 64) :
    (nums.map fun n => (⟨env.session, UInt64.ofNat n⟩ : PacketID)).toFinset.card =
      nums.toFinset.card := by
  have himage : (nums.map fun n => (⟨env.session, UInt64.ofNat n⟩ : PacketID)).toFinset =
      nums.toFinset.image fun n => ⟨env.session, UInt64.ofNat n⟩ := by
    ext id
    simp
  rw [himage, Finset.card_image_of_injOn]
  intro n hn m hm heq
  rw [Finset.mem_coe, List.mem_toFinset] at hn hm
  have hnat := congrArg UInt64.toNat (PacketID.mk.inj heq).2
  simp only [UInt64.toNat_ofNat'] at hnat
  have := h n hn
  have := h m hm
  omega

/-- How many sends over Wi-Fi succeed in the first phase. -/
def DriverEnv.both (env : DriverEnv) : ℕ := (List.range 5).countP env.wifiSend

/-- How many sends over Wi-Fi succeed in the second phase. -/
def DriverEnv.wifiOnly (env : DriverEnv) : ℕ := (List.range 3).countP fun n => env.wifiSend (5 + n)

/-- The probes that go out. -/
def DriverEnv.packets (env : DriverEnv) : List ProbePacket :=
  (wifiNumbers env.wifiSend 5 3).map (env.packet pathWiFi) ++
    (cellNumbers 5 3 3).map (env.packet pathAndroidUSBTether)

lemma DriverEnv.packets_valid (env : DriverEnv) : ∀ p ∈ env.packets, p.id.valid = true := by
  intro p hp
  rcases List.mem_append.mp hp with hp | hp
  · obtain ⟨num, hnum, rfl⟩ := List.mem_map.mp hp
    obtain ⟨n, hn, rfl⟩ := List.mem_map.mp hnum
    have := List.mem_range.mp (List.mem_filter.mp hn).1
    exact env.packet_valid (by omega) (by omega) _
  · obtain ⟨num, hnum, rfl⟩ := List.mem_map.mp hp
    have hlt : 1 ≤ num ∧ num < 2 ^ 64 := by
      rcases List.mem_append.mp hnum with hnum | hnum
      · obtain ⟨n, hn, rfl⟩ := List.mem_map.mp hnum
        have := List.mem_range.mp hn
        omega
      · obtain ⟨n, hn, rfl⟩ := List.mem_map.mp hnum
        have := List.mem_range.mp hn
        omega
    exact env.packet_valid hlt.1 hlt.2 _

/-- The bytes that go out. -/
lemma DriverEnv.sent_eq (env : DriverEnv) :
    ((wifiNumbers env.wifiSend 5 3).map fun num => wireBytes (env.packet pathWiFi num)) ++
        ((cellNumbers 5 3 3).map fun num => wireBytes (env.packet pathAndroidUSBTether num)) =
      env.packets.map wireBytes := by
  rw [DriverEnv.packets, List.map_append, List.map_map, List.map_map]
  rfl

/-- How many identities and how many probes there are. -/
lemma DriverEnv.card_packets (env : DriverEnv) :
    (env.packets.map ProbePacket.id).toFinset.card = 8 + env.wifiOnly ∧
      env.packets.length = 8 + env.wifiOnly + env.both := by
  have hids : env.packets.map ProbePacket.id =
      (wifiNumbers env.wifiSend 5 3 ++ cellNumbers 5 3 3).map fun n =>
        ⟨env.session, UInt64.ofNat n⟩ := by
    rw [DriverEnv.packets, List.map_append, List.map_append, List.map_map, List.map_map]
    rfl
  have hlt : ∀ n ∈ wifiNumbers env.wifiSend 5 3 ++ cellNumbers 5 3 3, n < 2 ^ 64 := by
    intro n hn
    simp only [wifiNumbers, cellNumbers, List.mem_append, List.mem_map, List.mem_filter,
      List.mem_range] at hn
    rcases hn with ⟨m, ⟨hm, -⟩, rfl⟩ | ⟨m, hm, rfl⟩ | ⟨m, hm, rfl⟩ <;> omega
  refine ⟨?_, ?_⟩
  · rw [hids, card_ids env hlt, card_numbers]
    rfl
  · rw [DriverEnv.packets, List.length_append, List.length_map, List.length_map, wifiNumbers_eq,
      wifiOnlyNumbers, List.length_append, List.length_map, List.length_map,
      ← List.countP_eq_length_filter, ← List.countP_eq_length_filter, DriverEnv.both,
      DriverEnv.wifiOnly]
    simp only [cellNumbers, List.length_append, List.length_map, List.length_range]
    omega

/-- What the gateway makes of the probes of a run that all arrive. -/
lemma DriverEnv.counted_of_perm (env : DriverEnv) {ds : List Bytes}
    (hperm : (ds.filter ProbeGateway.isProbe).Perm (env.packets.map wireBytes)) :
    (ProbeGateway.identities ds).toFinset.card = 8 + env.wifiOnly ∧
      (ProbeGateway.probes ds).length = 8 + env.wifiOnly + env.both := by
  have hprobes : (ProbeGateway.probes ds).Perm env.packets := by
    rw [← ProbeGateway.probes_filter]
    exact (hperm.filterMap _).trans (List.Perm.of_eq (probes_wireBytes env.packets_valid))
  obtain ⟨hcard, hlen⟩ := env.card_packets
  refine ⟨?_, hprobes.length_eq.trans hlen⟩
  rw [ProbeGateway.identities, List.toFinset_eq_of_perm _ _ (hprobes.map ProbePacket.id), hcard]

/-- **The gateway finds what the driver sent.**  Let the driver run with an honest phone, and with a
Wi-Fi socket on which any `send` may fail.  It exits with 0, closes the uplink and prints how many
of its probes went where.  Nothing but probes goes out: over Wi-Fi, and in every frame that the
phone forwards, which a receiver reads as a datagram to the gateway.  If everything that went out
arrives at a gateway with room for eleven identities, in any order and among datagrams that are no
probes, then the gateway counts as first copies the eight identities that went over the phone and
those that went over Wi-Fi alone, and as duplicates the identities of the first phase that went over
both.  So the printed number of duplicates is right, and the printed number of first copies, 11, is
right exactly if no `send` failed in the second phase. -/
theorem dual_path_counted {ph : Phone} (hph : ph.Honest) {s : PhoneState} (hs : ph.Ready s)
    (rnd : Random) (mem : Memory) (env : DriverEnv) {gw : ByteArrayN 4 × UInt16}
    (hgw : env.gateway = some gw) (hopens : env.wifiOpens = true) (capacity : ℤ)
    (hcap : 11 ≤ capacity) (logger : Option ProbeGateway.Logger) :
    ∃ run server frames cell, dualpath ph.bus rnd mem env s = some run ∧ run.ret = 0 ∧
      run.up.usb.Closed ∧ run.up.ready = false ∧
      run.printed = passB :: passA env.iface :: report 11 env.both env.wifiOnly 3 ∧
      run.link.dev.forwarded = s.forwarded ++ frames ∧
      (frames.map readUdp = cell.map fun b => some ⟨ph.routerMac.1, rnd.localMac.1,
        ph.clientIP.1, gw.1.1, rnd.sport.toNat, gw.2.toNat, b⟩) ∧
      (∀ b ∈ run.wifi ++ cell, ProbeGateway.isProbe b = true) ∧
      ProbeGateway.newServer capacity logger = .ok server ∧
      ∀ reads : List ProbeGateway.Read,
        ((ProbeGateway.handled reads).filter ProbeGateway.isProbe).Perm (run.wifi ++ cell) →
        ∃ l, server.start.serve reads = some (l, ProbeGateway.returned reads) ∧
          l.server.stats.firstCopies = UInt64.ofNat (8 + env.wifiOnly) ∧
          l.server.stats.duplicates = UInt64.ofNat env.both ∧
          (l.server.stats.firstCopies = 11 ↔ ∀ n < 3, env.wifiSend (5 + n) = true) := by
  obtain ⟨o, hup, hret, hmac, hip, hrouter, hsport, hready, hdev⟩ := bringUp_phone hph hs rnd mem
  have hport : o.up.sport ≠ 68 := by
    intro heq
    have hbounds := rnd.sport_bounds
    rw [← hsport, heq] at hbounds
    exact absurd hbounds.1 (by decide)
  have hat := @Driver.phases_at ph env o.up gw hready hport o.link
  generalize hdrv : Driver.phases ph.bus env o.up gw o.link = drv at hat
  obtain ⟨server, hnew, hplain⟩ := ProbeGateway.serve_plain (show 1 ≤ capacity by omega) logger
  refine ⟨⟨0, passB :: passA env.iface :: report 11 env.both env.wifiOnly 3, closeUplink o.up,
    drv.link, drv.wifi⟩, server, (cellNumbers 5 3 3).map (cellFrame env o.up gw),
    (cellNumbers 5 3 3).map fun num => wireBytes (env.packet pathAndroidUSBTether num), ?_, rfl,
    ⟨rfl, rfl⟩, rfl, rfl, ?_, ?_, ?_, hnew, fun reads hperm => ?_⟩
  · simp only [dualpath, hgw, hup, hret, hopens, hdrv, Option.bind_eq_bind, Option.bind_some,
      ne_eq, not_true_eq_false, if_false, Bool.not_true, Bool.false_eq_true, Option.pure_def,
      hat.num_eq, hat.both_eq, hat.wifiOnly_eq, hat.cellOnly_eq]
    rfl
  · rw [hat.forwarded_eq, hdev]
  · rw [List.map_map, List.map_map]
    refine List.map_congr_left fun num _ => ?_
    rw [Function.comp_apply, Function.comp_apply, readUdp_cellFrame, hrouter, hmac, hip, hsport]
  · rw [hat.wifi_eq, env.sent_eq]
    intro b hb
    obtain ⟨p, hp, rfl⟩ := List.mem_map.mp hb
    rw [ProbeGateway.isProbe, ProbeGateway.unmarshalProbe_of_valid (env.packets_valid p hp)]
    rfl
  rw [hat.wifi_eq, env.sent_eq] at hperm
  obtain ⟨hcard, hlen⟩ := env.counted_of_perm hperm
  have hle : env.wifiOnly ≤ 3 := List.countP_le_length.trans (by simp)
  have hall : env.wifiOnly = 3 ↔ ∀ n < 3, env.wifiSend (5 + n) = true := by
    have := List.countP_eq_length (p := fun n => env.wifiSend (5 + n)) (l := List.range 3)
    rw [List.length_range] at this
    rw [DriverEnv.wifiOnly, this]
    simp only [List.mem_range]
  obtain ⟨l, hserve, -, hstats⟩ := hplain reads (by omega)
  refine ⟨l, hserve, by rw [hstats, hcard], ?_, ?_⟩
  · rw [hstats, hcard, hlen, Nat.add_sub_cancel_left]
  · rw [hstats, hcard, ← hall]
    constructor
    · intro heq
      have hnat : (UInt64.ofNat (8 + env.wifiOnly)).toNat = 11 := congrArg UInt64.toNat heq
      rw [UInt64.toNat_ofNat'] at hnat
      omega
    · intro heq
      rw [heq]
      rfl

section Sample

/-- One send over Wi-Fi fails, in the first phase. -/
def sampleDriverEnv : DriverEnv where
  gateway := some (sampleIP, 51820)
  wifiIface := none
  wifiOpens := true
  wifiSend n := n ≠ 2
  rand := ByteArrayN.zero 16
  msg := []
  frame := []
  probe := []

/-- Eleven first copies and four duplicates. -/
theorem dual_path_counted_one_lost :
    ∃ run server cell l, dualpath samplePhone.bus sampleRandom sampleMemory sampleDriverEnv
        ⟨0, [], [], []⟩ = some run ∧
      run.printed = passB :: passA "en0" :: report 11 4 3 3 ∧
      (run.link.dev.forwarded.map readUdp = cell.map fun b =>
        some ⟨sampleMac.1, sampleMac.1, sampleIP.1, sampleIP.1, 40123, 51820, b⟩) ∧
      ProbeGateway.newServer 16 none = .ok server ∧
      server.start.serve ((run.wifi ++ cell).map .datagram) = some (l, .running) ∧
      l.server.stats.firstCopies = 11 ∧ l.server.stats.duplicates = 4 := by
  have hready : samplePhone.Ready ⟨0, [], [], []⟩ := ⟨by decide, by simp, by decide⟩
  obtain ⟨run, server, frames, cell, hrun, -, -, -, hprinted, hforwarded, hread, hall, hnew,
    hserve⟩ :=
    dual_path_counted honest_samplePhone hready sampleRandom sampleMemory sampleDriverEnv rfl rfl
      16 (by norm_num) none
  have hhandled : ∀ ds : List Bytes, ProbeGateway.handled (ds.map .datagram) = ds ∧
      ProbeGateway.returned (ds.map .datagram) = .running := by
    intro ds
    induction ds with
    | nil => exact ⟨rfl, rfl⟩
    | cons b ds ih => exact ⟨congrArg (b :: ·) ih.1, ih.2⟩
  obtain ⟨hds, hret⟩ := hhandled (run.wifi ++ cell)
  obtain ⟨l, hl, hfirst, hdup, -⟩ := hserve ((run.wifi ++ cell).map .datagram)
    (by rw [hds, List.filter_eq_self.mpr hall])
  rw [hret] at hl
  rw [List.nil_append] at hforwarded
  exact ⟨run, server, cell, l, hrun, hprinted, by rw [hforwarded, hread]; rfl, hnew, hl, hfirst,
    hdup⟩

end Sample

end Rndis
end Gemina
