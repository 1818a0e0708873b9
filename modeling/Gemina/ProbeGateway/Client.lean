/-
# The probe client

The `probe` command of `geminactl` (`probe.go`): it sends numbered probes of a random session over
one interface or over two, each of them once or twice.  The environment decides whether dialling
and every single write succeed.

The end of the file puts the client and the gateway together, over a network that loses,
duplicates and reorders what is sent and that carries other datagrams which are no probes.
-/
import Gemina.Gateway.PrivDrop
import Gemina.ProbeGateway.Exact

namespace Gemina.ProbeGateway

open PrivDrop (asciiText)

def errUnknownPath : GoError := ⟨"unknown path tag"⟩

/-- `probeConfig`; `gateway` is its field `to`. -/
structure ProbeConfig where
  iface : Bytes
  gateway : Bytes
  path : PathTag
  count : Int64
  duplicate : Bool
  iface2 : Bytes
  path2 : PathTag

/-- `probeConfig.dualPath`. -/
def ProbeConfig.dualPath (c : ProbeConfig) : Bool := c.iface2 ≠ []

/-- The values of the flags, and their defaults. -/
structure ProbeFlags where
  iface : Bytes := []
  gateway : Bytes := []
  path : Bytes := ascii "wifi"
  count : Int64 := 1
  duplicate : Bool := false
  iface2 : Bytes := []
  path2 : Bytes := ascii "usb"

/-- What the run of the command depends on: `%q`, dialling, the random bytes, and the error of
each write, counted from zero. -/
structure ProbeEnv where
  quote : Bytes → String
  dial : Bytes → Bytes → Option GoError
  rand : Except GoError SessionID
  write : ℕ → Option GoError

/-- `parsePathTag`. -/
def parsePathTag (env : ProbeEnv) (name : Bytes) : Except GoError PathTag :=
  if name = ascii "wifi" ∨ name = ascii "wi-fi" then .ok pathWiFi
  else if name = ascii "usb" ∨ name = ascii "android-usb-tether" ∨
      name = ascii "android-usb-tethering" then
    .ok pathAndroidUSBTether
  else .error ⟨errUnknownPath.text ++ ": " ++ env.quote name⟩

/-- `parseProbeConfig`, after the flags have been parsed. -/
def parseProbeConfig (env : ProbeEnv) (fs : ProbeFlags) : Except GoError ProbeConfig :=
  if fs.iface = [] then .error ⟨"probe: -interface is required"⟩
  else if fs.gateway = [] then .error ⟨"probe: -to is required"⟩
  else if fs.count < 1 then .error ⟨"probe: -count must be at least 1"⟩
  else do
    let tag ← parsePathTag env fs.path
    if fs.iface2 ≠ [] then
      let tag2 ← parsePathTag env fs.path2
      return ⟨fs.iface, fs.gateway, tag, fs.count, fs.duplicate, fs.iface2, tag2⟩
    else return ⟨fs.iface, fs.gateway, tag, fs.count, fs.duplicate, [], 0⟩

/-- `randomSession`. -/
def randomSession (env : ProbeEnv) : Except GoError SessionID :=
  match env.rand with
  | .error err => .error ⟨"generate session id: " ++ err.text⟩
  | .ok s => .ok (if s.isZero then ByteArrayN.copy sessionIDSize (1 :: s.1.tail) else s)

/-- What was sent so far: the interface and the bytes of every datagram. -/
structure Sender where
  sent : ℕ
  written : List (Bytes × Bytes)

/-- What a part of the sending loop returns. -/
abbrev Sending : Type := Except GoError Unit × Sender

/-- One `Write`, of the `n`th probe. -/
def Sender.write (env : ProbeEnv) (s : Sender) (n : ℕ) (iface wire : Bytes) : Sending :=
  match env.write s.written.length with
  | some err =>
    (.error ⟨"send probe " ++ toString n ++ " over " ++ asciiText iface ++ ": " ++ err.text⟩, s)
  | none => (.ok (), ⟨s.sent + 1, s.written ++ [(iface, wire)]⟩)

/-- The loop over the copies of a probe. -/
def Sender.writeCopies (env : ProbeEnv) (n : ℕ) (iface wire : Bytes) : ℕ → Sender → Sending
  | 0, s => (.ok (), s)
  | copies + 1, s =>
    match s.write env n iface wire with
    | (.error err, s) => (.error err, s)
    | (.ok (), s) => writeCopies env n iface wire copies s

/-- The body of the loop over the probes. -/
def Sender.sendProbe (env : ProbeEnv) (cfg : ProbeConfig) (session : SessionID) (s : Sender)
    (n : ℕ) : Sending :=
  let id : PacketID := ⟨session, UInt64.ofNat n⟩
  match ProbePacket.marshalBinary ⟨id, cfg.path⟩ with
  | .error err => (.error err, s)
  | .ok wire =>
    let copies := if cfg.duplicate then 2 else 1
    match writeCopies env n cfg.iface wire copies s with
    | (.error err, s) => (.error err, s)
    | (.ok (), s) =>
      if cfg.dualPath then
        -- the same identity over the second path
        match ProbePacket.marshalBinary ⟨id, cfg.path2⟩ with
        | .error err => (.error err, s)
        | .ok wire2 => s.write env n cfg.iface2 wire2
      else (.ok (), s)

/-- The loop over the probes, from the `n`th on. -/
def Sender.sendProbes (env : ProbeEnv) (cfg : ProbeConfig) (session : SessionID) :
    List ℕ → Sender → Sending
  | [], s => (.ok (), s)
  | n :: ns, s =>
    match s.sendProbe env cfg session n with
    | (.error err, s) => (.error err, s)
    | (.ok (), s) => sendProbes env cfg session ns s

/-- The numbers of the probes. -/
def ProbeConfig.numbers (cfg : ProbeConfig) : List ℕ :=
  (List.range cfg.count.toInt.toNat).map (· + 1)

/-- `duplicateNote`. -/
def duplicateNote (dup : Bool) : String := if dup then " (each duplicated)" else ""

/-- What is printed in the end. -/
def ProbeConfig.summary (env : ProbeEnv) (cfg : ProbeConfig) (sent : ℕ) : String :=
  let start := "sent " ++ toString sent ++ " datagram(s): " ++ toString cfg.count.toInt ++
    " distinct probe(s) over " ++ asciiText cfg.iface
  if cfg.dualPath then
    start ++ " (" ++ env.quote cfg.path.string ++ ") and " ++ asciiText cfg.iface2 ++ " (" ++
      env.quote cfg.path2.string ++ ")\n"
  else
    start ++ " as path " ++ env.quote cfg.path.string ++ duplicateNote cfg.duplicate ++ "\n"

/-- What a run of the command did: its error or what it printed, and what it sent. -/
structure ProbeRun where
  result : Except GoError String
  written : List (Bytes × Bytes)

/-- A run that ended before anything was sent. -/
def ProbeRun.failed (err : GoError) : ProbeRun := ⟨.error err, []⟩

/-- `runProbe`. -/
def runProbe (env : ProbeEnv) (fs : ProbeFlags) : ProbeRun :=
  match parseProbeConfig env fs with
  | .error err => .failed err
  | .ok cfg =>
    match env.dial cfg.iface cfg.gateway with
    | some err => .failed err
    | none =>
      match if cfg.dualPath then env.dial cfg.iface2 cfg.gateway else none with
      | some err => .failed ⟨"second path: " ++ err.text⟩
      | none =>
        match randomSession env with
        | .error err => .failed err
        | .ok session =>
          match Sender.sendProbes env cfg session cfg.numbers ⟨0, []⟩ with
          | (.error err, s) => ⟨.error err, s.written⟩
          | (.ok (), s) => ⟨.ok (cfg.summary env s.sent), s.written⟩

/-! ## What is sent -/

/-- Some writes were made as planned, all of them if there was no error. -/
structure Sends (s : Sender) (planned : List (Bytes × Bytes)) (out : Sending) : Prop where
  written : ∃ w, w <+: planned ∧ out.2 = ⟨s.sent + w.length, s.written ++ w⟩
  complete : out.1 = .ok () →
    out.2 = ⟨s.sent + planned.length, s.written ++ planned⟩

namespace Sends

variable {s s' : Sender} {planned planned' : List (Bytes × Bytes)} {out : Sending}

lemma nil (s : Sender) : Sends s [] (.ok (), s) :=
  ⟨⟨[], List.nil_prefix, by simp⟩, by simp⟩

/-- Nothing more is sent after an error. -/
lemma error {err : GoError} (h : Sends s planned (.error err, s'))
    (planned' : List (Bytes × Bytes)) : Sends s (planned ++ planned') (.error err, s') := by
  obtain ⟨w, hw, hs'⟩ := h.written
  exact ⟨⟨w, hw.trans (List.prefix_append _ _), hs'⟩, by simp⟩

/-- Sending goes on after a success. -/
lemma append (h : Sends s planned (.ok (), s')) (h' : Sends s' planned' out) :
    Sends s (planned ++ planned') out := by
  have hs' : s' = ⟨s.sent + planned.length, s.written ++ planned⟩ := h.complete rfl
  subst hs'
  refine ⟨?_, ?_⟩
  · obtain ⟨w, hw, hout⟩ := h'.written
    refine ⟨planned ++ w, (List.prefix_append_right_inj _).mpr hw, ?_⟩
    rw [hout]
    simp [Nat.add_assoc]
  · intro hok
    rw [h'.complete hok]
    simp [Nat.add_assoc]

end Sends

namespace Sender

variable (env : ProbeEnv) (cfg : ProbeConfig) (session : SessionID)

lemma sends_write (s : Sender) (n : ℕ) (iface wire : Bytes) :
    Sends s [(iface, wire)] (s.write env n iface wire) := by
  rw [write]
  rcases env.write s.written.length with _ | err
  · exact ⟨⟨_, List.prefix_rfl, rfl⟩, fun _ => rfl⟩
  · exact ⟨⟨[], List.nil_prefix, by simp⟩, by simp⟩

lemma sends_writeCopies (n : ℕ) (iface wire : Bytes) (copies : ℕ) (s : Sender) :
    Sends s (List.replicate copies (iface, wire)) (writeCopies env n iface wire copies s) := by
  induction copies generalizing s with
  | zero => exact Sends.nil s
  | succ copies ih =>
    have hwrite := sends_write env s n iface wire
    rw [writeCopies]
    rcases hout : s.write env n iface wire with ⟨err | ⟨⟩, s'⟩
    · rw [hout] at hwrite
      exact hwrite.error _
    · rw [hout] at hwrite
      exact hwrite.append (ih s')

end Sender

/-- The probe of the given number over the given path. -/
def probePacket (session : SessionID) (path : PathTag) (n : ℕ) : ProbePacket :=
  ⟨⟨session, UInt64.ofNat n⟩, path⟩

/-- What is sent for one number. -/
def ProbeConfig.datagrams (cfg : ProbeConfig) (session : SessionID) (n : ℕ) :
    List (Bytes × Bytes) :=
  List.replicate (if cfg.duplicate then 2 else 1)
      (cfg.iface, Rndis.wireBytes (probePacket session cfg.path n)) ++
    if cfg.dualPath then [(cfg.iface2, Rndis.wireBytes (probePacket session cfg.path2 n))] else []

namespace Sender

variable (env : ProbeEnv) {cfg : ProbeConfig} {session : SessionID}

lemma sends_sendProbe {n : ℕ} (hvalid : PacketID.valid ⟨session, UInt64.ofNat n⟩ = true)
    (s : Sender) : Sends s (cfg.datagrams session n) (s.sendProbe env cfg session n) := by
  have hmarshal : ∀ path, ProbePacket.marshalBinary ⟨⟨session, UInt64.ofNat n⟩, path⟩ =
      .ok (Rndis.wireBytes (probePacket session path n)) :=
    fun path => Rndis.marshalBinary_ok_iff.mpr ⟨hvalid, rfl⟩
  simp only [sendProbe, hmarshal]
  have hcopies := sends_writeCopies env n cfg.iface
    (Rndis.wireBytes (probePacket session cfg.path n)) (if cfg.duplicate then 2 else 1) s
  rcases hout : writeCopies env n cfg.iface (Rndis.wireBytes (probePacket session cfg.path n))
    (if cfg.duplicate then 2 else 1) s with ⟨err | ⟨⟩, s'⟩
  · rw [hout] at hcopies
    exact hcopies.error _
  · rw [hout] at hcopies
    refine hcopies.append ?_
    by_cases hdual : cfg.dualPath = true
    · simp only [hdual, if_true]
      exact sends_write env s' n _ _
    · simp only [hdual]
      exact Sends.nil s'

lemma sends_sendProbes {ns : List ℕ}
    (hvalid : ∀ n ∈ ns, PacketID.valid ⟨session, UInt64.ofNat n⟩ = true) (s : Sender) :
    Sends s (ns.flatMap (cfg.datagrams session)) (sendProbes env cfg session ns s) := by
  induction ns generalizing s with
  | nil => exact Sends.nil s
  | cons n ns ih =>
    have hsend := @sends_sendProbe env cfg session n (hvalid n List.mem_cons_self) s
    rw [sendProbes, List.flatMap_cons]
    rcases hout : s.sendProbe env cfg session n with ⟨err | ⟨⟩, s'⟩
    · rw [hout] at hsend
      exact hsend.error _
    · rw [hout] at hsend
      exact hsend.append (ih (fun m hm => hvalid m (List.mem_cons_of_mem _ hm)) s')

end Sender

/-- The session of a run is not zero. -/
lemma randomSession_isZero {env : ProbeEnv} {session : SessionID}
    (h : randomSession env = .ok session) : session.isZero = false := by
  rw [randomSession] at h
  rcases hrand : env.rand with err | s
  · simp [hrand] at h
  · simp only [hrand, Except.ok.injEq] at h
    by_cases hzero : s.isZero = true
    · have hval : (ByteArrayN.copy sessionIDSize (1 :: s.1.tail)).1 = 1 :: s.1.tail := by
        refine ByteArrayN.copy_val ?_
        rw [List.length_cons, List.length_tail, s.2]
        rfl
      rw [if_pos hzero] at h
      rw [← h, SessionID.isZero, hval]
      simp
    · rw [if_neg hzero] at h
      rw [← h]
      simpa using hzero

/-- The numbers fit into 64 bits and are not zero. -/
lemma ProbeConfig.mem_numbers {cfg : ProbeConfig} {n : ℕ} (h : n ∈ cfg.numbers) :
    1 ≤ n ∧ n < 2 ^ 63 := by
  obtain ⟨i, hi, rfl⟩ := List.mem_map.mp h
  have hlt := cfg.count.toInt_lt
  rw [List.mem_range] at hi
  omega

lemma valid_of_mem_numbers {cfg : ProbeConfig} {session : SessionID}
    (hsession : session.isZero = false) {n : ℕ} (h : n ∈ cfg.numbers) :
    PacketID.valid ⟨session, UInt64.ofNat n⟩ = true := by
  obtain ⟨hpos, hlt⟩ := ProbeConfig.mem_numbers h
  rw [PacketID.valid_iff]
  refine ⟨hsession, fun hzero => ?_⟩
  have hnat := congrArg UInt64.toNat hzero
  simp only [UInt64.toNat_ofNat', UInt64.toNat_zero] at hnat
  omega

/-- What a run of the command sends: as much as it can of the probes of all numbers, and all of
them if there is no error. -/
lemma runProbe_sends (env : ProbeEnv) (fs : ProbeFlags) :
    ((runProbe env fs).written = [] ∧ ∃ err, (runProbe env fs).result = .error err) ∨
    ∃ cfg session, parseProbeConfig env fs = .ok cfg ∧ session.isZero = false ∧
      (runProbe env fs).written <+: cfg.numbers.flatMap (cfg.datagrams session) ∧
      ∀ printed, (runProbe env fs).result = .ok printed →
        (runProbe env fs).written = cfg.numbers.flatMap (cfg.datagrams session) ∧
        printed = cfg.summary env (runProbe env fs).written.length := by
  rcases hcfg : parseProbeConfig env fs with err | cfg
  · exact Or.inl (by simp [runProbe, hcfg, ProbeRun.failed])
  rcases hdial : env.dial cfg.iface cfg.gateway with _ | err
  swap
  · exact Or.inl (by simp [runProbe, hcfg, hdial, ProbeRun.failed])
  rcases hdial2 : (if cfg.dualPath then env.dial cfg.iface2 cfg.gateway else none) with _ | err
  swap
  · exact Or.inl (by simp [runProbe, hcfg, hdial, hdial2, ProbeRun.failed])
  rcases hsession : randomSession env with err | session
  · exact Or.inl (by simp [runProbe, hcfg, hdial, hdial2, hsession, ProbeRun.failed])
  right
  have hzero := randomSession_isZero hsession
  have hsends := @Sender.sends_sendProbes env cfg session _
    (fun n (hn : n ∈ cfg.numbers) => valid_of_mem_numbers hzero hn) ⟨0, []⟩
  refine ⟨cfg, session, rfl, hzero, ?_⟩
  rcases hout : Sender.sendProbes env cfg session cfg.numbers ⟨0, []⟩ with ⟨err | ⟨⟩, s⟩
  · rw [hout] at hsends
    obtain ⟨w, hw, hs⟩ := hsends.written
    simp only [List.nil_append] at hs
    have hrun : runProbe env fs = ⟨.error err, w⟩ := by
      simp [runProbe, hcfg, hdial, hdial2, hsession, hout, hs]
    rw [hrun]
    exact ⟨hw, by simp⟩
  · rw [hout] at hsends
    have hs : s = ⟨0 + _, [] ++ _⟩ := hsends.complete rfl
    have hrun : runProbe env fs = ⟨.ok (cfg.summary env s.sent), s.written⟩ := by
      simp [runProbe, hcfg, hdial, hdial2, hsession, hout]
    rw [hrun, hs]
    rw [List.nil_append, Nat.zero_add]
    exact ⟨List.prefix_rfl, fun printed hprinted => ⟨rfl, (Except.ok.inj hprinted).symm⟩⟩

/-! ## The client, a network and the gateway -/

/-- Every datagram of a number is its probe over one of the paths. -/
lemma mem_datagrams {cfg : ProbeConfig} {session : SessionID} {n : ℕ} {d : Bytes × Bytes}
    (h : d ∈ cfg.datagrams session n) :
    ∃ path, d.2 = Rndis.wireBytes (probePacket session path n) := by
  rw [ProbeConfig.datagrams, List.mem_append] at h
  rcases h with h | h
  · exact ⟨cfg.path, by rw [List.eq_of_mem_replicate h]⟩
  · split at h
    · exact ⟨cfg.path2, by rw [List.mem_singleton.mp h]⟩
    · cases h

/-- Whether a datagram is a probe. -/
def isProbe (b : Bytes) : Bool := (unmarshalProbe b).isOk

lemma probes_filter (ds : List Bytes) : probes (ds.filter isProbe) = probes ds := by
  rw [probes, probes, List.filterMap_filter]
  refine List.filterMap_congr ?_
  intro b _
  rw [isProbe]
  rcases unmarshalProbe b with err | p <;> rfl

/-- The identities that a run can use. -/
def ProbeConfig.identities (cfg : ProbeConfig) (session : SessionID) : List PacketID :=
  cfg.numbers.map fun n => ⟨session, UInt64.ofNat n⟩

lemma ProbeConfig.nodup_identities (cfg : ProbeConfig) (session : SessionID) :
    (cfg.identities session).Nodup := by
  refine List.Nodup.map_on ?_ (List.nodup_range.map (add_left_injective 1))
  intro n hn m hm heq
  obtain ⟨-, hlt⟩ := ProbeConfig.mem_numbers hn
  obtain ⟨-, hlt'⟩ := ProbeConfig.mem_numbers hm
  have hnat := congrArg UInt64.toNat (PacketID.mk.inj heq).2
  simp only [UInt64.toNat_ofNat'] at hnat
  omega

/-- The number of probes that was asked for. -/
lemma parseProbeConfig_count {env : ProbeEnv} {fs : ProbeFlags} {cfg : ProbeConfig}
    (h : parseProbeConfig env fs = .ok cfg) : cfg.count = fs.count := by
  rw [parseProbeConfig] at h
  rcases htag : parsePathTag env fs.path with err | tag
  · simp only [htag, bind, Except.bind] at h
    split_ifs at h
  rcases htag2 : parsePathTag env fs.path2 with err | tag2
  · simp only [htag, htag2, bind, Except.bind, pure, Except.pure] at h
    split_ifs at h
    rw [← Except.ok.inj h]
  · simp only [htag, htag2, bind, Except.bind, pure, Except.pure] at h
    split_ifs at h
    · rw [← Except.ok.inj h]
    · rw [← Except.ok.inj h]

/-- A datagram of the run decodes to a probe with one of its identities. -/
lemma decode_of_mem_datagrams {cfg : ProbeConfig} {session : SessionID}
    (hsession : session.isZero = false) {d : Bytes × Bytes}
    (hd : d ∈ cfg.numbers.flatMap (cfg.datagrams session)) :
    ∃ p, unmarshalProbe d.2 = .ok p ∧ p.id ∈ cfg.identities session := by
  obtain ⟨n, hn, hd⟩ := List.mem_flatMap.mp hd
  obtain ⟨path, hpath⟩ := mem_datagrams hd
  refine ⟨probePacket session path n, ?_, List.mem_map.mpr ⟨n, hn, rfl⟩⟩
  rw [hpath]
  exact unmarshalProbe_of_valid (valid_of_mem_numbers hsession hn)

/-- What is delivered has no other identities. -/
lemma identities_subset {cfg : ProbeConfig} {session : SessionID}
    (hsession : session.isZero = false) {written : List (Bytes × Bytes)}
    (hwritten : written <+: cfg.numbers.flatMap (cfg.datagrams session)) {ds : List Bytes}
    (hds : ∀ b ∈ ds, b ∈ written.map Prod.snd ∨ isProbe b = false) :
    (identities ds).toFinset ⊆ (cfg.identities session).toFinset := by
  intro id hid
  rw [List.mem_toFinset] at hid ⊢
  obtain ⟨p, hp, rfl⟩ := List.mem_map.mp hid
  obtain ⟨b, hb, hdec⟩ := List.mem_filterMap.mp hp
  rcases hds b hb with hmem | hno
  · obtain ⟨d, hd, rfl⟩ := List.mem_map.mp hmem
    obtain ⟨q, hq, hin⟩ := decode_of_mem_datagrams hsession (hwritten.subset hd)
    obtain rfl : q = p := by simpa [hq, Except.toOption] using hdec
    exact hin
  · rw [isProbe] at hno
    rcases hb' : unmarshalProbe b with err | q
    · simp [hb', Except.toOption] at hdec
    · simp [hb', Except.isOk, Except.toBool] at hno

/-- All of the datagrams of a run have all of its identities. -/
lemma identities_all {cfg : ProbeConfig} {session : SessionID} (hsession : session.isZero = false) :
    (identities ((cfg.numbers.flatMap (cfg.datagrams session)).map Prod.snd)).toFinset =
      (cfg.identities session).toFinset := by
  refine Finset.Subset.antisymm
    (identities_subset hsession List.prefix_rfl fun b hb => Or.inl hb) ?_
  intro id hid
  rw [List.mem_toFinset] at hid ⊢
  obtain ⟨n, hn, rfl⟩ := List.mem_map.mp hid
  -- at least one datagram is sent for each number
  have hd : (cfg.iface, Rndis.wireBytes (probePacket session cfg.path n)) ∈
      cfg.datagrams session n := by
    rw [ProbeConfig.datagrams, List.mem_append, List.mem_replicate]
    exact Or.inl ⟨by split <;> omega, rfl⟩
  have hdec : unmarshalProbe (Rndis.wireBytes (probePacket session cfg.path n)) =
      .ok (probePacket session cfg.path n) :=
    unmarshalProbe_of_valid (valid_of_mem_numbers hsession hn)
  refine List.mem_map.mpr ⟨probePacket session cfg.path n, List.mem_filterMap.mpr ⟨_,
    List.mem_map.mpr ⟨_, List.mem_flatMap.mpr ⟨n, hn, hd⟩, rfl⟩, ?_⟩, rfl⟩
  rw [hdec]
  rfl

lemma length_probes {cfg : ProbeConfig} {session : SessionID} (hsession : session.isZero = false) :
    (probes ((cfg.numbers.flatMap (cfg.datagrams session)).map Prod.snd)).length =
      (cfg.numbers.flatMap (cfg.datagrams session)).length := by
  have hall : ∀ d ∈ cfg.numbers.flatMap (cfg.datagrams session),
      ((unmarshalProbe d.2).toOption).isSome = true := by
    intro d hd
    obtain ⟨p, hp, -⟩ := decode_of_mem_datagrams hsession hd
    rw [hp]
    rfl
  generalize cfg.numbers.flatMap (cfg.datagrams session) = written at hall
  induction written with
  | nil => rfl
  | cons d written ih =>
    obtain ⟨p, hp⟩ := Option.isSome_iff_exists.mp (hall d List.mem_cons_self)
    have hcons : probes ((d :: written).map Prod.snd) = p :: probes (written.map Prod.snd) := by
      simp [probes, hp]
    rw [hcons, List.length_cons, List.length_cons,
      ih fun d hd => hall d (List.mem_cons_of_mem _ hd)]

lemma card_identities (cfg : ProbeConfig) (session : SessionID) :
    (cfg.identities session).toFinset.card = cfg.count.toInt.toNat := by
  rw [List.toFinset_card_of_nodup (cfg.nodup_identities session)]
  simp [ProbeConfig.identities, ProbeConfig.numbers]

/-- **The gateway counts the probes of a client.**  Let a client run with at most as many probes as
the gateway has room for; dialling and any of its writes may fail.  Let the network deliver any of
what was sent, in any order and any number of times, among any datagrams that are no probes.  Then
the first arrival of each probe is a first copy, every further one a duplicate of it, and the
counters are the numbers of different probes, of further copies, and of the other datagrams.  If
the client succeeds and the network delivers every datagram once, then the first copies are the
distinct probes that the client prints, and the first copies and duplicates together are the
datagrams that it says it sent. -/
theorem probe_run_counted (capacity : ℤ) (hpos : 1 ≤ capacity) (logger : Option Logger)
    (env : ProbeEnv) (fs : ProbeFlags) (hcount : fs.count.toInt ≤ capacity) :
    ∃ s, newServer capacity logger = .ok s ∧ ∀ reads : List Read,
      (∀ b ∈ handled reads,
        b ∈ (runProbe env fs).written.map Prod.snd ∨ isProbe b = false) →
      ∃ l : Loop, s.start.serve reads = some (l, returned reads) ∧
        l.records = plainRecords (handled reads) ∧
        l.server.stats = ⟨UInt64.ofNat (identities (handled reads)).toFinset.card,
          UInt64.ofNat ((probes (handled reads)).length -
            (identities (handled reads)).toFinset.card),
          UInt64.ofNat ((handled reads).length - (probes (handled reads)).length)⟩ ∧
        ∀ printed, (runProbe env fs).result = .ok printed →
          ((handled reads).filter isProbe).Perm ((runProbe env fs).written.map Prod.snd) →
          ∃ cfg sent, parseProbeConfig env fs = .ok cfg ∧ printed = cfg.summary env sent ∧
            l.server.stats.firstCopies = UInt64.ofNat cfg.count.toInt.toNat ∧
            l.server.stats.firstCopies + l.server.stats.duplicates = UInt64.ofNat sent := by
  obtain ⟨s, hnew, hplain⟩ := serve_plain hpos logger
  refine ⟨s, hnew, fun reads hreads => ?_⟩
  have hruns := runProbe_sends env fs
  -- the identities fit into the window
  have hfits : (identities (handled reads)).toFinset.card ≤ capacity.toNat := by
    rcases hruns with ⟨hnil, -⟩ | ⟨cfg, session, hcfg, hzero, hwritten, -⟩
    · have hnone : probes (handled reads) = [] := by
        rw [← probes_filter, List.filter_eq_nil_iff.mpr]
        · rfl
        · intro b hb
          simpa [hnil] using hreads b hb
      rw [identities, hnone]
      simp
    · refine (Finset.card_le_card (identities_subset hzero hwritten hreads)).trans ?_
      rw [card_identities, parseProbeConfig_count hcfg]
      omega
  obtain ⟨l, hserve, hrecords, hstats⟩ := hplain reads hfits
  obtain ⟨-, hdup, -⟩ := countP_plainRecords (handled reads)
  refine ⟨l, hserve, hrecords, hstats, fun printed hprinted hperm => ?_⟩
  rcases hruns with ⟨-, err, herr⟩ | ⟨cfg, session, hcfg, hzero, -, hdone⟩
  · rw [herr] at hprinted
    cases hprinted
  · obtain ⟨hwritten, hsummary⟩ := hdone printed hprinted
    rw [hwritten] at hperm
    have hprobes : (probes (handled reads)).Perm
        (probes ((cfg.numbers.flatMap (cfg.datagrams session)).map Prod.snd)) := by
      rw [← probes_filter]
      exact hperm.filterMap _
    have hcard : (identities (handled reads)).toFinset.card = cfg.count.toInt.toNat := by
      rw [← card_identities cfg session, ← identities_all hzero]
      congr 1
      exact List.toFinset_eq_of_perm _ _ (hprobes.map _)
    refine ⟨cfg, _, hcfg, hsummary, ?_, ?_⟩
    · rw [hstats, hcard]
    · rw [hstats, ← UInt64.ofNat_add, hwritten, ← length_probes hzero, ← hprobes.length_eq]
      congr 1
      omega

/-- An environment in which nothing fails.  Between the quotes stands the text as it is, which is
what `%q` prints of printable ASCII without quotes and backslashes. -/
def sampleEnv : ProbeEnv where
  quote s := "\"" ++ asciiText s ++ "\""
  dial _ _ := none
  rand := .ok (ByteArrayN.copy sessionIDSize (List.replicate 16 7))
  write _ := none

/-- Two probes over two interfaces. -/
def sampleFlags : ProbeFlags :=
  { iface := ascii "en0", gateway := ascii "gw:1", count := 2, iface2 := ascii "en1" }

/-- The four datagrams of two probes, delivered in reverse order and with one that is no probe. -/
theorem probe_run_counted_two_paths :
    ∃ s, newServer 2 none = .ok s ∧ ∃ l : Loop,
      s.start.serve (((runProbe sampleEnv sampleFlags).written.reverse.map fun d =>
        .datagram d.2) ++ [.datagram [1]]) = some (l, .running) ∧
      l.server.stats = ⟨2, 2, 1⟩ ∧
      ∃ cfg sent, parseProbeConfig sampleEnv sampleFlags = .ok cfg ∧
        (runProbe sampleEnv sampleFlags).result = .ok (cfg.summary sampleEnv sent) ∧
        l.server.stats.firstCopies = UInt64.ofNat cfg.count.toInt.toNat ∧
        l.server.stats.firstCopies + l.server.stats.duplicates = UInt64.ofNat sent := by
  obtain ⟨s, hnew, hruns⟩ := probe_run_counted 2 (by norm_num) none sampleEnv sampleFlags
    (by decide)
  obtain ⟨l, hserve, -, hstats, hlast⟩ := hruns
    (((runProbe sampleEnv sampleFlags).written.reverse.map fun d => .datagram d.2) ++
      [.datagram [1]]) (by decide +kernel)
  obtain ⟨cfg, sent, hcfg, hprinted, hfirst, hall⟩ := hlast _ rfl (by decide +kernel)
  exact ⟨s, hnew, l, hserve, hstats.trans (by decide +kernel), cfg, sent, hcfg,
    congrArg Except.ok hprinted, hfirst, hall⟩

end Gemina.ProbeGateway
