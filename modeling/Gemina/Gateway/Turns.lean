/-
# One turn of the gateway, with and without its metrics

The gateway with its metrics and its log does what it does without them.  This file lists what can
happen in a turn, says which calls on the metrics belong to it, and shows that the two gateways go
through every run side by side, without a panic of the registry.

The order of the file is: the turns and what happens in them; the calls of a turn; the handlers, one
beside the other; whole runs.
-/
import Gemina.Gateway.Observed

namespace Gemina
namespace DataGateway

/-! ## Turns -/

/-- What the gateway reads next: a datagram, or a packet from the TUN device. -/
inductive Turn where
  | datagram (i : Input)
  | packet (now : ℤ) (sendTo : Bytes → AddrPort → Option GoError) (packet : Bytes)

/-- What the gateway does in a turn. -/
inductive Done where
  | served (result : Served)
  | returned (result : ReturnResult)

/-- What happened in a turn: what was done, with the decision about a data datagram and what the
exit path reported of a delivered packet. -/
inductive Happened where
  | served (result : Served) (decision : Option String) (egress : Option Metric)
  | returned (result : ReturnResult)

def Happened.done : Happened → Done
  | .served result _ _ => .served result
  | .returned result => .returned result

/-- The decision about a datagram, unless it is a hello or a ping. -/
def decision (E : Cipher) (g : DataGateway) (b : Bytes) : Option String :=
  match classifyDatagram b with
  | .clientHello => none
  | .ping => none
  | .data =>
    match (g.dataPlane.handleClassified E g.store.sessionKey b).1 with
    | .error _ => some "rejected"
    | .ok (_, .firstCopy) => some "first-copy"
    | .ok (_, .stale) => some "stale"
    | .ok _ => some "duplicate"
  | _ => some "rejected"

/-- What the exit path reports of a payload that is to be delivered, for the gateway after the
turn; a session that is served is not given another lease. -/
def egressMetric (g : DataGateway) (i : Input) (rec : DataRecord) : Option Metric :=
  match g.exit with
  | none => none
  | some r =>
    if rec.deliver then some (r.egress rec.sessionID rec.payload i.devErr).metric else none

/-- The error with which a hello is refused. -/
def refusal (C : Crypto) (T : TokenLib) (g : DataGateway) (amb : Ambient) (b : Bytes) :
    Option GoError :=
  if classifyDatagram b = .clientHello then
    match (g.admitHello C T amb b).1 with
    | .error err => some err
    | .ok _ => none
  else none

/-- The error that the exit path answers for a payload that is to be delivered, for the gateway
after the turn. -/
def egressError (g : DataGateway) (i : Input) (rec : DataRecord) : Option GoError :=
  match g.exit with
  | none => none
  | some r => if rec.deliver then (r.egress rec.sessionID rec.payload i.devErr).err else none

/-- The debug record of an error, if there is one. -/
def debugRecord (msg : String) (err : Option GoError) : List DebugRecord :=
  err.toList.map fun err => ⟨msg, err.text⟩

/-- The debug records of a turn: one for a refused hello, one for a delivered packet that the exit
path drops, each with the error. -/
def debugRecords (C : Crypto) (T : TokenLib) (E : Cipher) (g : DataGateway) :
    Turn → List DebugRecord
  | .datagram i =>
    let s := g.serve C T E i
    debugRecord "handshake rejected" (g.refusal C T i.toAmbient (i.datagram.take bufSize)) ++
      debugRecord "egress dropped" (s.2.egressError i s.1.record)
  | .packet _ _ _ => []

/-- One turn of the gateway without its metrics. -/
def turn (C : Crypto) (T : TokenLib) (E : Cipher) (g : DataGateway) : Turn → Happened × DataGateway
  | .datagram i =>
    let s := g.serve C T E i
    (.served s.1 (g.decision E (i.datagram.take bufSize)) (s.2.egressMetric i s.1.record), s.2)
  | .packet now sendTo packet =>
    let r := g.serveReturn E now sendTo packet
    (.returned r.1, r.2)

namespace Observed

/-- One turn of the gateway with its metrics. -/
def turn (C : Crypto) (T : TokenLib) (E : Cipher) (o : Observed) :
    Turn → Option (Done × List DebugRecord × Observed)
  | .datagram i => do
    let (result, log, o) ← o.serve C T E i
    return (.served result, log, o)
  | .packet now sendTo packet => do
    let (result, o) ← o.serveReturn E now sendTo packet
    return (.returned result, [], o)

/-- A run: what was done, the log, and the gateway in the end. -/
def run (C : Crypto) (T : TokenLib) (E : Cipher) (o : Observed) :
    List Turn → Option (List Done × List DebugRecord × Observed)
  | [] => some ([], [], o)
  | t :: ts => do
    let (done, log, o) ← o.turn C T E t
    let (dones, logs, o) ← o.run C T E ts
    return (done :: dones, log ++ logs, o)

end Observed

/-! ## The calls of a turn -/

/-- A hello was admitted. -/
def Happened.admitted : Happened → Bool
  | .served result _ _ => result.record.admitted
  | .returned _ => false

/-- How many hellos were admitted. -/
def admissions (hs : List Happened) : ℕ := hs.countP Happened.admitted

/-- The calls for a hello, if so many sessions were admitted before. -/
def helloCalls (n : ℕ) (rec : DataRecord) : List Metrics.Call :=
  if rec.admitted then [incHandshakes "admitted", setActiveSession (n + 1)]
  else if rec.kind = .clientHello then [incHandshakes "rejected"]
  else []

/-- What the exit path reports in a turn. -/
def Happened.exits : Happened → List Metric
  | .served _ _ egress => egress.toList
  | .returned result => result.metrics

/-- The calls of a turn. -/
def Happened.calls (n : ℕ) : Happened → List Metrics.Call
  | .served result decision egress =>
    helloCalls n result.record ++ (decision.toList.map incDataPackets ++
      egress.toList.flatMap exitCalls)
  | .returned result => result.metrics.flatMap exitCalls

/-- The calls of a run. -/
def allCalls (n : ℕ) : List Happened → List Metrics.Call
  | [] => []
  | h :: hs => h.calls n ++ allCalls (if h.admitted then n + 1 else n) hs

lemma admissions_concat (hs : List Happened) (h : Happened) :
    admissions (hs ++ [h]) = if h.admitted then admissions hs + 1 else admissions hs := by
  rw [admissions, List.countP_append, List.countP_singleton, ← admissions]
  split <;> rfl

lemma allCalls_concat (n : ℕ) (hs : List Happened) (h : Happened) :
    allCalls n (hs ++ [h]) = allCalls n hs ++ h.calls (n + admissions hs) := by
  induction hs generalizing n with
  | nil => simp [allCalls, admissions]
  | cons h' hs ih =>
    rw [List.cons_append, allCalls, ih, allCalls, List.append_assoc]
    congr 3
    rw [admissions, admissions, List.countP_cons]
    split <;> omega

/-! ## The registry never panics -/

/-- The registry after some calls. -/
abbrev Counted (cs : List Metrics.Call) (r : Metrics.Registry) : Prop :=
  Metrics.Registry.Follows (Metrics.registered registrations) cs r

/-- The metric of a call is registered and takes its label values. -/
def Fitting (c : Metrics.Call) : Prop :=
  ∃ m, (Metrics.registered registrations).metric c.target = some m ∧ m.Accepts c.labelValues

lemma Counted.call {cs : List Metrics.Call} {r : Metrics.Registry} (h : Counted cs r)
    {c : Metrics.Call} (hc : Fitting c) : ∃ r', r.call c = some r' ∧ Counted (cs ++ [c]) r' := by
  obtain ⟨m, hm, hv⟩ := hc
  exact Metrics.Registry.Follows.call h hm hv

lemma Counted.calls {cs cs' : List Metrics.Call} {r : Metrics.Registry} (h : Counted cs r)
    (hcs : ∀ c ∈ cs', Fitting c) : ∃ r', r.calls cs' = some r' ∧ Counted (cs ++ cs') r' := by
  induction cs' generalizing cs r with
  | nil => exact ⟨r, rfl, by simpa using h⟩
  | cons c cs' ih =>
    obtain ⟨r₁, hcall, h₁⟩ := h.call (hcs c List.mem_cons_self)
    obtain ⟨r₂, hcalls, h₂⟩ := ih h₁ fun c hc => hcs c (List.mem_cons_of_mem _ hc)
    refine ⟨r₂, ?_, by simpa using h₂⟩
    rw [Metrics.Registry.calls, List.foldlM_cons, hcall]
    exact hcalls

lemma fitting_handshakes {result : String} (h : 0 ∉ ascii result) :
    Fitting (incHandshakes result) :=
  ⟨_, rfl, rfl, by simpa [incHandshakes, Metrics.Call.labelValues] using h⟩

lemma fitting_dataPackets {decision : String} (h : 0 ∉ ascii decision) :
    Fitting (incDataPackets decision) :=
  ⟨_, rfl, rfl, by simpa [incDataPackets, Metrics.Call.labelValues] using h⟩

lemma fitting_activeSession (n : ℕ) : Fitting (setActiveSession n) :=
  ⟨_, rfl, rfl, by simp [setActiveSession, Metrics.Call.labelValues]⟩

/-- The reasons for which `Egress` drops a packet. -/
def egressReasons : List String :=
  ["no-lease", "bad-inner-packet", "reverse-path", "tun-write-error"]

/-- The reasons for which `ServeReturn` drops a packet. -/
def returnReasons : List String := ["bad-return-packet", "unknown-dst", "frame-error"]

/-- The reports that there are. -/
def Known : Metric → Prop
  | .dropped reason => reason ∈ egressReasons ++ returnReasons
  | _ => True

lemma fitting_exitCalls {m : Metric} (h : Known m) : ∀ c ∈ exitCalls m, Fitting c := by
  have hnul : ∀ reason ∈ egressReasons ++ returnReasons, 0 ∉ ascii reason := by decide +kernel
  intro c hc
  cases m with
  | forwarded bytes =>
    simp only [exitCalls, List.mem_cons, List.not_mem_nil, or_false] at hc
    rcases hc with rfl | rfl
    · exact ⟨_, rfl, rfl, by simp [Metrics.Call.labelValues]⟩
    · exact ⟨_, rfl, rfl, by simp [Metrics.Call.labelValues]⟩
  | returned bytes =>
    simp only [exitCalls, List.mem_cons, List.not_mem_nil, or_false] at hc
    rcases hc with rfl | rfl
    · exact ⟨_, rfl, rfl, by simp [Metrics.Call.labelValues]⟩
    · exact ⟨_, rfl, rfl, by simp [Metrics.Call.labelValues]⟩
  | dropped reason =>
    obtain rfl := List.mem_singleton.mp hc
    exact ⟨_, rfl, rfl, by simpa [Metrics.Call.labelValues] using hnul reason h⟩

/-- `Egress` reports a packet as forwarded, or drops it for one of its reasons. -/
lemma egress_metric_cases (r : Router) (id : SessionID) (packet : Bytes)
    (devErr : Option GoError) :
    ((r.egress id packet devErr).metric = .forwarded packet.length ∧
      (r.egress id packet devErr).err = none) ∨
    ∃ reason ∈ egressReasons, (r.egress id packet devErr).metric = .dropped reason ∧
      (r.egress id packet devErr).err.isSome = true := by
  simp only [Router.egress]
  rcases r.alloc.leaseOf id with _ | leased
  · exact Or.inr ⟨"no-lease", by simp [egressReasons], rfl, rfl⟩
  rcases parseIPv4 packet with _ | ⟨src, dst⟩
  · exact Or.inr ⟨"bad-inner-packet", by simp [egressReasons], rfl, rfl⟩
  by_cases hsrc : src = leased
  · rcases devErr with _ | err
    · exact Or.inl (by simp [hsrc])
    · exact Or.inr ⟨"tun-write-error", by simp [egressReasons], by simp [hsrc]⟩
  · exact Or.inr ⟨"reverse-path", by simp [egressReasons], by simp [hsrc]⟩

/-- What was sent is reported as returned, and nothing else is reported. -/
lemma sendAll_known (sendTo : Bytes → AddrPort → Option GoError) (framed : Bytes)
    (dsts : List AddrPort) :
    ∀ m ∈ (Router.sendAll sendTo framed dsts).metrics, m = .returned framed.length := by
  induction dsts with
  | nil => simp [Router.sendAll]
  | cons ep dsts ih =>
    intro m hm
    rw [Router.sendAll] at hm
    rcases hsend : sendTo framed ep with _ | err
    · simp only [hsend, List.mem_cons] at hm
      rcases hm with rfl | hm
      · rfl
      · exact ih m hm
    · simp only [hsend] at hm
      exact ih m hm

/-- `ServeReturn` reports what was returned, or drops a packet for one of its reasons. -/
lemma serveReturn_metric_cases (E : Cipher) (g : DataGateway) (now : ℤ)
    (sendTo : Bytes → AddrPort → Option GoError) (packet : Bytes) :
    ∀ m ∈ (g.serveReturn E now sendTo packet).1.metrics,
      (∃ bytes, m = .returned bytes) ∨ ∃ reason ∈ returnReasons, m = .dropped reason := by
  intro m hm
  rw [serveReturn] at hm
  rcases hr : g.exit with _ | r
  · simp [hr] at hm
  simp only [hr, Router.serveReturn] at hm
  rcases hparse : parseIPv4 packet with _ | ⟨src, dst⟩
  · simp only [hparse, List.mem_singleton] at hm
    exact Or.inr ⟨_, by simp [returnReasons], hm⟩
  simp only [hparse] at hm
  rcases hlookup : r.alloc.lookup dst with _ | id
  · simp only [hlookup, List.mem_singleton] at hm
    exact Or.inr ⟨_, by simp [returnReasons], hm⟩
  simp only [hlookup] at hm
  rcases hframe : g.dataPlane.frameReturn E g.store.sessionKey id packet with ⟨err | framed, d⟩
  · simp only [hframe, List.mem_singleton] at hm
    exact Or.inr ⟨_, by simp [returnReasons], hm⟩
  · simp only [hframe] at hm
    exact Or.inl ⟨_, sendAll_known _ _ _ m hm⟩

/-! ## One turn

`Tracks` relates the gateway to the calls that were made on its metrics and to the number of hellos
that it admitted. -/

/-- The metrics follow the calls, and the sessions are the ids with a key, so many as there were
admitted. -/
structure Tracks (cs : List Metrics.Call) (n : ℕ) (o : Observed) : Prop where
  counted : Counted cs o.metrics
  nodup : o.sessions.Nodup
  keys : ∀ id, id ∈ o.sessions ↔ (o.gateway.store.keys id).isSome = true
  length_eq : o.sessions.length = n

variable {C : Crypto} {T : TokenLib} {E : Cipher} {cs : List Metrics.Call} {n : ℕ} {o : Observed}

lemma Tracks.call (h : Tracks cs n o) {c : Metrics.Call} (hc : Fitting c) :
    ∃ r, o.metrics.call c = some r ∧ Tracks (cs ++ [c]) n { o with metrics := r } := by
  obtain ⟨r, hcall, hr⟩ := h.counted.call hc
  exact ⟨r, hcall, hr, h.nodup, h.keys, h.length_eq⟩

lemma Tracks.calls (h : Tracks cs n o) {cs' : List Metrics.Call} (hcs : ∀ c ∈ cs', Fitting c) :
    ∃ r, o.metrics.calls cs' = some r ∧ Tracks (cs ++ cs') n { o with metrics := r } := by
  obtain ⟨r, hcalls, hr⟩ := h.counted.calls hcs
  exact ⟨r, hcalls, hr, h.nodup, h.keys, h.length_eq⟩

/-- Only the keys of the gateway matter. -/
lemma Tracks.with_gateway (h : Tracks cs n o) {g : DataGateway}
    (hg : g.store.keys = o.gateway.store.keys) : Tracks cs n { o with gateway := g } := by
  refine ⟨h.counted, h.nodup, ?_, h.length_eq⟩
  intro id
  rw [hg]
  exact h.keys id

/-- A session that is new is one more. -/
lemma Tracks.with_session (h : Tracks cs n o) {k : Admitter.Keyed} (exit : Option Router)
    (hnew : o.gateway.store.keys k.id = none) :
    Tracks cs (n + 1)
      { o with gateway := o.gateway.admitted k exit, sessions := o.sessions ++ [k.id] } := by
  have hnot : k.id ∉ o.sessions := by
    rw [h.keys, hnew]
    simp
  refine ⟨h.counted, ?_, ?_, by simp [h.length_eq]⟩
  · exact List.nodup_append.mpr ⟨h.nodup, List.nodup_singleton _, by
      intro a ha b hb
      rw [List.mem_singleton.mp hb]
      rintro rfl
      exact hnot ha⟩
  · intro id
    by_cases hid : id = k.id
    · simp [hid, DataGateway.admitted]
    · simp [hid, DataGateway.admitted, h.keys]

/-- A hello that was refused. -/
def refusedHello (rec : DataRecord) : Bool := decide (rec.kind = .clientHello) && !rec.admitted

/-- What is known of a handler, beside the one of the plain gateway that gives `out`: the gateway
ends in the same state, a refused hello is logged with its error, and the calls are those for the
record and the decision. -/
structure Beside (cs : List Metrics.Call) (n : ℕ) (o : Observed)
    (out : Option Bytes × DataRecord × DataGateway) (refused : Option GoError)
    (dec : Option String) (log : List DebugRecord) (o' : Observed) : Prop where
  gateway_eq : o'.gateway = out.2.2
  debug_eq : o'.debug = o.debug
  log_eq : log = if o.debug then debugRecord "handshake rejected" refused else []
  logged : log.length = if o.debug && refusedHello out.2.1 then 1 else 0
  tracks : Tracks (cs ++ (helloCalls n out.2.1 ++ dec.toList.map incDataPackets))
    (if out.2.1.admitted then n + 1 else n) o'

lemma handleHandshake_beside (hC : C.Lawful) (T : TokenLib) (hg : o.gateway.Sound)
    (h : Tracks cs n o) (amb : Ambient) {datagram : Bytes}
    (hkind : classifyDatagram datagram = .clientHello) {out}
    (hout : o.gateway.handleHandshake C T amb datagram = out) :
    ∃ log o', o.handleHandshake C T amb datagram = some (out.1, out.2.1, log, o') ∧
      Beside cs n o out (o.gateway.refusal C T amb datagram) none log o' := by
  have hrejected : Fitting (incHandshakes "rejected") := fitting_handshakes (by decide)
  have hadmitted : Fitting (incHandshakes "admitted") := fitting_handshakes (by decide)
  subst hout
  rcases admitHello_cases hC T hg amb datagram with ⟨e, hadm⟩ | ⟨k, ip, exit, answer, hk, hadm⟩
  · obtain ⟨r, hcall, hr⟩ := h.call hrejected
    refine ⟨o.logDebug "handshake rejected" e, { o with metrics := r }, ?_, ?_⟩
    · simp [Observed.handleHandshake, handleHandshake, hadm, hcall]
    · rw [handleHandshake, hadm]
      refine ⟨rfl, rfl, ?_, ?_, ?_⟩
      · rw [Observed.logDebug, refusal, if_pos hkind, hadm]
        rfl
      · rw [Observed.logDebug]
        split <;> simp [refusedHello, *]
      · simpa [helloCalls] using hr
  · obtain ⟨r₁, hcall₁, h₁⟩ := (h.with_session exit hk.isNew).call hadmitted
    obtain ⟨r₂, hcall₂, h₂⟩ := h₁.call (fitting_activeSession (n + 1))
    have hlen : (o.sessions ++ [k.id]).length = n + 1 := by simp [h.length_eq]
    refine ⟨[], ⟨o.gateway.admitted k exit, o.sessions ++ [k.id], o.debug, r₂⟩, ?_, ?_⟩
    · simp only [Observed.handleHandshake, handleHandshake, hadm, hk.id_eq, hlen]
      simp only [hcall₁, hcall₂, Option.bind_eq_bind, Option.bind_some, Option.pure_def]
    · rw [handleHandshake, hadm]
      refine ⟨rfl, rfl, ?_, by simp [refusedHello], ?_⟩
      · rw [refusal, if_pos hkind, hadm]
        exact (ite_self _).symm
      · simpa [helloCalls] using h₂

/-- The labels for the decisions. -/
def decisionLabels : List String := ["rejected", "first-copy", "stale", "duplicate"]

lemma decision_mem {g : DataGateway} {b : Bytes} {label : String}
    (h : g.decision E b = some label) : label ∈ decisionLabels := by
  rw [decision] at h
  split at h
  · cases h
  · cases h
  · split at h <;> cases h <;> simp [decisionLabels]
  · cases h
    simp [decisionLabels]

/-- `handleData` makes the one call that belongs to the decision. -/
lemma handleData_call (E : Cipher) (o : Observed) {datagram : Bytes}
    (hkind : classifyDatagram datagram = .data) :
    ∃ label rec d, o.gateway.decision E datagram = some label ∧ rec.kind = .data ∧
      rec.admitted = false ∧
      o.gateway.handleData E datagram = (rec, { o.gateway with dataPlane := d }) ∧
      ∀ r, o.metrics.call (incDataPackets label) = some r → o.handleData E datagram =
        some (rec, { o with gateway := { o.gateway with dataPlane := d }, metrics := r }) := by
  have hres : o.gateway.store.sessionKey = o.gateway.store.keys := rfl
  rcases DataPlane.handleClassified_cases E o.gateway.store.keys o.gateway.dataPlane datagram with
    ⟨e, d, hc, -⟩ | ⟨id, s, payload, hacc, hc⟩
  · exact ⟨"rejected", { kind := .data }, d, by simp [decision, hkind, hres, hc], rfl, rfl,
      by simp [handleData, hres, hc], fun r hr => by simp [Observed.handleData, hres, hc, hr]⟩
  have hid : sessionIDFromDatagram datagram = .ok id.session := by
    simp [sessionIDFromDatagram, hacc.header]
  generalize o.gateway.dataPlane.put id.session (s.seen id.number) = d at hc
  generalize (s.window.observe id.number).1 = dec at hc
  cases dec with
  | firstCopy =>
    exact ⟨"first-copy", ⟨.data, false, true, payload, id.session, .invalid⟩, d,
      by simp [decision, hkind, hres, hc], rfl, rfl, by simp [handleData, hres, hc, hid],
      fun r hr => by simp [Observed.handleData, hres, hc, hid, hr]⟩
  | stale =>
    exact ⟨"stale", ⟨.data, false, false, [], id.session, .invalid⟩, d,
      by simp [decision, hkind, hres, hc], rfl, rfl, by simp [handleData, hres, hc, hid],
      fun r hr => by simp [Observed.handleData, hres, hc, hid, hr]⟩
  | duplicate =>
    exact ⟨"duplicate", ⟨.data, false, false, [], id.session, .invalid⟩, d,
      by simp [decision, hkind, hres, hc], rfl, rfl, by simp [handleData, hres, hc, hid],
      fun r hr => by simp [Observed.handleData, hres, hc, hid, hr]⟩
  | invalid =>
    -- the `default` branch of the source, as for a duplicate
    exact ⟨"duplicate", ⟨.data, false, false, [], id.session, .invalid⟩, d,
      by simp [decision, hkind, hres, hc], rfl, rfl, by simp [handleData, hres, hc, hid],
      fun r hr => by simp [Observed.handleData, hres, hc, hid, hr]⟩

lemma handleData_beside (C : Crypto) (T : TokenLib) (E : Cipher) (h : Tracks cs n o) (amb : Ambient)
    {datagram : Bytes} (hkind : classifyDatagram datagram = .data) {out}
    (hout : o.gateway.handleData E datagram = out) :
    ∃ o', o.handleData E datagram = some (out.1, o') ∧
      Beside cs n o (none, out) (o.gateway.refusal C T amb datagram)
        (o.gateway.decision E datagram) [] o' := by
  obtain ⟨label, rec, d, hdec, hrec, hadm, hplain, hobserved⟩ := handleData_call E o hkind
  have hnul : ∀ label ∈ decisionLabels, 0 ∉ ascii label := by decide
  obtain ⟨r, hcall, hr⟩ := h.call (fitting_dataPackets (hnul label (decision_mem hdec)))
  obtain rfl : _ = out := hplain.symm.trans hout
  refine ⟨_, hobserved r hcall, rfl, rfl, by simp [refusal, hkind, debugRecord],
    by simp [refusedHello, hrec], ?_⟩
  simpa [helloCalls, hrec, hadm, hdec] using
    Tracks.with_gateway (g := { o.gateway with dataPlane := d }) hr rfl

/-- A datagram of a kind that the gateway does not serve. -/
lemma handleDatagram_unserved (C : Crypto) (T : TokenLib) (E : Cipher) (h : Tracks cs n o)
    (amb : Ambient) {datagram : Bytes}
    (hkind : classifyDatagram datagram = .unknown ∨ classifyDatagram datagram = .serverHello) :
    ∃ o', o.handleDatagram C T E amb datagram = some (none, { kind := .unknown }, [], o') ∧
      o.gateway.handleDatagram C T E amb datagram = (none, { kind := .unknown }, o.gateway) ∧
      Beside cs n o (none, { kind := .unknown }, o.gateway) (o.gateway.refusal C T amb datagram)
        (o.gateway.decision E datagram) [] o' := by
  obtain ⟨r, hcall, hr⟩ := h.call (fitting_dataPackets (show 0 ∉ ascii "rejected" by decide))
  have htracks : Tracks (cs ++ (helloCalls n { kind := .unknown } ++
      (o.gateway.decision E datagram).toList.map incDataPackets)) n { o with metrics := r } := by
    rcases hkind with hkind | hkind <;> simpa [helloCalls, decision, hkind] using hr
  have hhello : classifyDatagram datagram ≠ .clientHello := by
    rcases hkind with hkind | hkind <;> simp [hkind]
  refine ⟨{ o with metrics := r }, ?_, ?_, rfl, rfl, by simp [refusal, hhello, debugRecord],
    by simp [refusedHello], htracks⟩
  · rcases hkind with hkind | hkind <;> simp [Observed.handleDatagram, hkind, hcall]
  · rcases hkind with hkind | hkind <;> simp [handleDatagram, hkind]

/-- **`HandleDatagram` with its metrics does what it does without them.** -/
lemma handleDatagram_beside (hC : C.Lawful) (T : TokenLib) (E : Cipher) (hg : o.gateway.Sound)
    (h : Tracks cs n o) (amb : Ambient) (datagram : Bytes) {out}
    (hout : o.gateway.handleDatagram C T E amb datagram = out) :
    ∃ log o', o.handleDatagram C T E amb datagram = some (out.1, out.2.1, log, o') ∧
      Beside cs n o out (o.gateway.refusal C T amb datagram) (o.gateway.decision E datagram) log
        o' := by
  -- the kinds are unknown, data, hello of a client, hello of a server, ping
  rcases hkind : classifyDatagram datagram with _ | _ | _ | _ | _
  · obtain ⟨o', ho', hplain, hb⟩ := handleDatagram_unserved C T E h amb (Or.inl hkind)
    obtain rfl := hplain.symm.trans hout
    exact ⟨[], o', ho', hb⟩
  · obtain ⟨o', ho', hb⟩ := handleData_beside C T E h amb hkind rfl
    obtain rfl : (none, o.gateway.handleData E datagram) = out := by
      simpa [handleDatagram, hkind] using hout
    exact ⟨[], o', by simp [Observed.handleDatagram, hkind, ho'], hb⟩
  · obtain rfl : o.gateway.handleHandshake C T amb datagram = out := by
      simpa [handleDatagram, hkind] using hout
    obtain ⟨log, o', ho', hb⟩ := handleHandshake_beside hC T hg h amb hkind rfl
    refine ⟨log, o', by simp [Observed.handleDatagram, hkind, ho'], ?_⟩
    simpa [decision, hkind] using hb
  · obtain ⟨o', ho', hplain, hb⟩ := handleDatagram_unserved C T E h amb (Or.inr hkind)
    obtain rfl := hplain.symm.trans hout
    exact ⟨[], o', ho', hb⟩
  · -- a ping makes no call
    have hping : ∀ reply, Beside cs n o (reply, { kind := .ping }, o.gateway)
        (o.gateway.refusal C T amb datagram) (o.gateway.decision E datagram) [] o := by
      intro reply
      refine ⟨rfl, rfl, by simp [refusal, hkind, debugRecord], by simp [refusedHello], ?_⟩
      simpa [helloCalls, decision, hkind] using h
    subst hout
    rcases hp : decodePing datagram with e | ⟨_ | _, nonce⟩
    · exact ⟨[], o, by simp [Observed.handleDatagram, handleDatagram, hkind, hp],
        by simpa [handleDatagram, hkind, hp] using hping none⟩
    · exact ⟨[], o, by simp [Observed.handleDatagram, handleDatagram, hkind, hp],
        by simpa [handleDatagram, hkind, hp] using hping (some (encodePong nonce))⟩
    · exact ⟨[], o, by simp [Observed.handleDatagram, handleDatagram, hkind, hp],
        by simpa [handleDatagram, hkind, hp] using hping none⟩

lemma egressError_of_not (g : DataGateway) (i : Input) {rec : DataRecord}
    (h : rec.deliver = false) : g.egressError i rec = none := by
  rw [egressError]
  split
  · rfl
  · simp [h]

lemma egressMetric_of_not (g : DataGateway) (i : Input) {rec : DataRecord}
    (h : rec.deliver = false) : g.egressMetric i rec = none := by
  rw [egressMetric]
  split
  · rfl
  · simp [h]

/-- What is to be delivered is an accepted data datagram. -/
lemma Outcome.of_deliver {g : DataGateway} {amb : Ambient} {datagram : Bytes} {out}
    (h : Outcome C T E g amb datagram out) (hd : out.2.1.deliver = true) :
    out.2.1.kind = .data ∧ out.2.1.sessionID.isZero = false := by
  cases h with
  | refused => cases hd
  | admitted => cases hd
  | rejected => cases hd
  | other => cases hd
  | @accepted hkind id s payload hacc =>
    simp only [acceptedRecord] at hd ⊢
    split at hd
    · rename_i hfirst
      rw [if_pos hfirst]
      exact ⟨rfl, hacc.valid.1⟩
    · cases hd

lemma forward_record (g : DataGateway) (i : Input) (reply : Option Bytes) (rec : DataRecord) :
    (g.forward i reply rec).1.record = rec := by
  rw [forward]
  split
  · rfl
  · split <;> rfl

/-- A report that a packet was dropped. -/
def isDropped : Metric → Bool
  | .dropped _ => true
  | _ => false

lemma logDropped_eq (o : Observed) (err : Option GoError) :
    o.logDropped err = if o.debug then debugRecord "egress dropped" err else [] := by
  cases err with
  | none => exact (ite_self _).symm
  | some err => rfl

/-- The debug record of a dropped packet. -/
lemma length_logDropped (o : Observed) (r : Router) (id : SessionID) (packet : Bytes)
    (devErr : Option GoError) :
    (o.logDropped (r.egress id packet devErr).err).length =
      if o.debug && isDropped (r.egress id packet devErr).metric then 1 else 0 := by
  rcases egress_metric_cases r id packet devErr with ⟨hm, he⟩ | ⟨reason, -, hm, he⟩
  · simp [hm, he, isDropped, Observed.logDropped]
  · obtain ⟨err, he⟩ := Option.isSome_iff_exists.mp he
    rw [hm, he]
    simp only [Observed.logDropped, Observed.logDebug, isDropped, Bool.and_true]
    split <;> rfl

lemma known_egress (r : Router) (id : SessionID) (packet : Bytes) (devErr : Option GoError) :
    Known (r.egress id packet devErr).metric := by
  rcases egress_metric_cases r id packet devErr with ⟨hm, -⟩ | ⟨reason, hreason, hm, -⟩
  · rw [hm]
    trivial
  · rw [hm]
    exact List.mem_append_left _ hreason

/-- What `Serve` does with a record. -/
lemma forward_beside (h : Tracks cs n o) (i : Input) (reply : Option Bytes) {rec : DataRecord}
    (hrec : rec.deliver = true → rec.kind = .data ∧ rec.sessionID.isZero = false)
    (log : List DebugRecord) {out} (hout : o.gateway.forward i reply rec = out) :
    ∃ log' o', o.forward i reply rec log = some (out.1, log ++ log', o') ∧
      o'.gateway = out.2 ∧ o'.debug = o.debug ∧
      log' = (if o.debug then debugRecord "egress dropped" (out.2.egressError i rec) else []) ∧
      log'.length =
        (if o.debug && (out.2.egressMetric i rec).any isDropped then 1 else 0) ∧
      Tracks (cs ++ (out.2.egressMetric i rec).toList.flatMap exitCalls) n o' := by
  rw [forward] at hout
  rcases hr : o.gateway.exit with _ | r
  · -- the exit path is off
    simp only [hr] at hout
    subst hout
    have hnone : o.gateway.egressMetric i rec = none := by simp [egressMetric, hr]
    refine ⟨[], o, by simp [Observed.forward, hr], rfl, rfl, ?_, by simp [hnone], ?_⟩
    · simp [egressError, hr, debugRecord]
    · simpa [hnone] using h
  simp only [hr] at hout
  by_cases hserved : rec.kind = .data ∧ rec.sessionID.isZero = false
  · rw [if_pos hserved] at hout
    have h₁ := h.with_gateway
      (g := { o.gateway with exit := some (recordSource r i.now rec.sessionID i.src) }) rfl
    by_cases hd : rec.deliver = true
    · -- the first copy goes to the exit path, which makes one report
      simp only [hd, if_true] at hout
      subst hout
      obtain ⟨m, hcalls, hm⟩ := h₁.calls (fitting_exitCalls (known_egress
        (recordSource r i.now rec.sessionID i.src) rec.sessionID rec.payload i.devErr))
      refine ⟨o.logDropped ((recordSource r i.now rec.sessionID i.src).egress rec.sessionID
          rec.payload i.devErr).err,
        ⟨{ o.gateway with exit := some (recordSource r i.now rec.sessionID i.src) },
        o.sessions, o.debug, m⟩, ?_, rfl, rfl, ?_, ?_, ?_⟩
      · simp only [Observed.forward, hr, if_pos hserved, hd, if_true, hcalls, Option.bind_eq_bind,
          Option.bind_some, Option.pure_def]
        rfl
      · simp only [egressError, hd, if_true]
        exact logDropped_eq _ _
      · simp only [egressMetric, hd, if_true, Option.any_some]
        exact length_logDropped _ _ _ _ _
      · simpa [egressMetric, hd] using hm
    · -- another copy: its source is recorded, and that is all
      simp only [hd] at hout
      subst hout
      refine ⟨[], ⟨{ o.gateway with exit := some (recordSource r i.now rec.sessionID i.src) },
        o.sessions, o.debug, o.metrics⟩, ?_, rfl, rfl, ?_, ?_, ?_⟩
      · simp [Observed.forward, hr, hserved, hd]
      · simp [egressError, hd, debugRecord]
      · simp [egressMetric, hd]
      · simpa [egressMetric, hd] using h₁
  · have hd : rec.deliver = false := by
      by_contra hd
      exact hserved (hrec (by simpa using hd))
    rw [if_neg hserved] at hout
    subst hout
    refine ⟨[], o, by simp [Observed.forward, hr, hserved], rfl, rfl, ?_, ?_, ?_⟩
    · simp [egressError_of_not _ i hd, debugRecord]
    · simp [egressMetric_of_not _ i hd]
    · simpa [egressMetric_of_not _ i hd] using h

/-- The number of debug records of a turn. -/
def Happened.logged : Happened → ℕ
  | .served result _ egress =>
    (if refusedHello result.record then 1 else 0) + (if egress.any isDropped then 1 else 0)
  | .returned _ => 0

/-- The gateway after a turn, beside the plain one: it did the same, it wrote the debug records if
they are wanted, and it made the calls. -/
structure TurnBeside (cs : List Metrics.Call) (n : ℕ) (o : Observed) (out : Happened × DataGateway)
    (records log : List DebugRecord) (o' : Observed) : Prop where
  gateway_eq : o'.gateway = out.2
  debug_eq : o'.debug = o.debug
  log_eq : log = if o.debug then records else []
  logged : log.length = if o.debug then out.1.logged else 0
  tracks : Tracks (cs ++ out.1.calls n) (if out.1.admitted then n + 1 else n) o'

/-- **One turn of `Serve` with its metrics does what it does without them.** -/
lemma serve_beside (hC : C.Lawful) (T : TokenLib) (E : Cipher) (hg : o.gateway.Sound)
    (h : Tracks cs n o) (i : Input) :
    ∃ log o', o.serve C T E i = some ((o.gateway.serve C T E i).1, log, o') ∧
      TurnBeside cs n o (o.gateway.turn C T E (.datagram i))
        (o.gateway.debugRecords C T E (.datagram i)) log o' := by
  have hout := handleDatagram_outcome hC T E hg i.toAmbient (i.datagram.take bufSize)
  rcases heq : o.gateway.handleDatagram C T E i.toAmbient (i.datagram.take bufSize) with
    ⟨reply, rec, g⟩
  rw [heq] at hout
  obtain ⟨log, o₁, ho₁, hb⟩ := handleDatagram_beside hC T E hg h i.toAmbient
    (i.datagram.take bufSize) heq
  obtain rfl : o₁.gateway = g := hb.gateway_eq
  have hserve : o.gateway.serve C T E i = o₁.gateway.forward i reply rec := by
    rw [serve, heq]
  obtain ⟨log', o', ho', hgateway, hdebug, hlog', hlogged, htracks⟩ :=
    forward_beside hb.tracks i reply hout.of_deliver log rfl
  have hturn : o.gateway.turn C T E (.datagram i) =
      (.served (o₁.gateway.forward i reply rec).1
        (o.gateway.decision E (i.datagram.take bufSize))
        ((o₁.gateway.forward i reply rec).2.egressMetric i rec),
        (o₁.gateway.forward i reply rec).2) := by
    rw [turn, hserve, forward_record]
  refine ⟨log ++ log', o', ?_, ?_⟩
  · simp only [Observed.serve, ho₁, Option.bind_eq_bind, Option.bind_some, hserve]
    exact ho'
  · rw [hturn]
    refine ⟨hgateway, hdebug.trans hb.debug_eq, ?_, ?_, ?_⟩
    · rw [hb.log_eq, hlog', hb.debug_eq, debugRecords, hserve, forward_record]
      cases o.debug <;> rfl
    · rw [List.length_append, hb.logged, hlogged, hb.debug_eq, Happened.logged, forward_record]
      cases o.debug <;> simp
    · simpa [Happened.calls, Happened.admitted, forward_record] using htracks

/-- **One turn of `ServeReturn` with its metrics does what it does without them.** -/
lemma serveReturn_beside (C : Crypto) (T : TokenLib) (E : Cipher) (h : Tracks cs n o) (now : ℤ)
    (sendTo : Bytes → AddrPort → Option GoError) (packet : Bytes) :
    ∃ o', o.serveReturn E now sendTo packet =
        some ((o.gateway.serveReturn E now sendTo packet).1, o') ∧
      TurnBeside cs n o (o.gateway.turn C T E (.packet now sendTo packet))
        (o.gateway.debugRecords C T E (.packet now sendTo packet)) [] o' := by
  have hfit : ∀ c ∈ (o.gateway.serveReturn E now sendTo packet).1.metrics.flatMap exitCalls,
      Fitting c := by
    intro c hc
    obtain ⟨m, hm, hc⟩ := List.mem_flatMap.mp hc
    refine fitting_exitCalls ?_ c hc
    rcases serveReturn_metric_cases E o.gateway now sendTo packet m hm with
      ⟨bytes, rfl⟩ | ⟨reason, hreason, rfl⟩
    · trivial
    · exact List.mem_append_right _ hreason
  have hkeys : (o.gateway.serveReturn E now sendTo packet).2.store = o.gateway.store := by
    rw [serveReturn]
    split <;> rfl
  obtain ⟨m, hcalls, hm⟩ := h.calls hfit
  refine ⟨{ o with gateway := (o.gateway.serveReturn E now sendTo packet).2, metrics := m }, ?_,
    rfl, rfl, (ite_self _).symm, ?_, ?_⟩
  · simp [Observed.serveReturn, hcalls]
  · simp [turn, Happened.logged]
  · exact hm.with_gateway (congrArg SessionStore.keys hkeys)

/-! ## Whole runs -/

/-- The gateway after what happened. -/
structure Observes (hs : List Happened) (o : Observed) : Prop where
  sound : o.gateway.Sound
  tracks : Tracks (allCalls 0 hs) (admissions hs) o

/-- **A turn keeps the gateway sound.** -/
lemma Sound.turn (hC : C.Lawful) (T : TokenLib) (E : Cipher) {g : DataGateway} (hg : g.Sound)
    (t : Turn) : (g.turn C T E t).2.Sound := by
  cases t with
  | datagram i => exact hg.serve hC T E i
  | packet now sendTo packet => exact hg.serveReturn E now sendTo packet

/-- **A turn keeps the accounts.** -/
lemma Observes.turn (hC : C.Lawful) (T : TokenLib) (E : Cipher) {hs : List Happened}
    (h : Observes hs o) (t : Turn) {out} (hout : o.gateway.turn C T E t = out) :
    ∃ log o', o.turn C T E t = some (out.1.done, log, o') ∧ o'.gateway = out.2 ∧
      o'.debug = o.debug ∧
      log = (if o.debug then o.gateway.debugRecords C T E t else []) ∧
      log.length = (if o.debug then out.1.logged else 0) ∧
      Observes (hs ++ [out.1]) o' := by
  subst hout
  have hlift : ∀ {log o'},
      TurnBeside (allCalls 0 hs) (admissions hs) o (o.gateway.turn C T E t)
        (o.gateway.debugRecords C T E t) log o' →
      Observes (hs ++ [(o.gateway.turn C T E t).1]) o' := by
    intro log o' hb
    refine ⟨?_, ?_⟩
    · rw [hb.gateway_eq]
      exact h.sound.turn hC T E t
    · rw [allCalls_concat, admissions_concat, zero_add]
      exact hb.tracks
  cases t with
  | datagram i =>
    obtain ⟨log, o', ho', hb⟩ := serve_beside hC T E h.sound h.tracks i
    refine ⟨log, o', ?_, hb.gateway_eq, hb.debug_eq, hb.log_eq, hb.logged, hlift hb⟩
    simp [Observed.turn, ho', DataGateway.turn, Happened.done]
  | packet now sendTo packet =>
    obtain ⟨o', ho', hb⟩ := serveReturn_beside C T E h.tracks now sendTo packet
    refine ⟨[], o', ?_, hb.gateway_eq, hb.debug_eq, hb.log_eq, hb.logged, hlift hb⟩
    simp [Observed.turn, ho', DataGateway.turn, Happened.done]

/-- What happens in a run of the gateway without its metrics. -/
def happened (C : Crypto) (T : TokenLib) (E : Cipher) (g : DataGateway) (ts : List Turn) :
    List Happened := (Mealy.trace (turn C T E) g ts).map Prod.snd

lemma happened_cons (C : Crypto) (T : TokenLib) (E : Cipher) (g : DataGateway) (t : Turn)
    (ts : List Turn) : happened C T E g (t :: ts) =
      (g.turn C T E t).1 :: happened C T E (g.turn C T E t).2 ts := rfl

/-- The debug records of a run: those of its turns, each from the gateway that it found. -/
def debugLog (C : Crypto) (T : TokenLib) (E : Cipher) (g : DataGateway) :
    List Turn → List DebugRecord
  | [] => []
  | t :: ts => g.debugRecords C T E t ++ debugLog C T E (g.turn C T E t).2 ts

/-- **The gateway with its metrics does what it does without them**, over every run. -/
lemma Observes.run (hC : C.Lawful) (T : TokenLib) (E : Cipher) {hs : List Happened}
    (h : Observes hs o) (ts : List Turn) :
    ∃ log o', o.run C T E ts = some ((happened C T E o.gateway ts).map Happened.done, log, o') ∧
      o'.gateway = Mealy.state (DataGateway.turn C T E) o.gateway ts ∧
      log = (if o.debug then debugLog C T E o.gateway ts else []) ∧
      log.length =
        (if o.debug then ((happened C T E o.gateway ts).map Happened.logged).sum else 0) ∧
      Observes (hs ++ happened C T E o.gateway ts) o' := by
  induction ts generalizing hs o with
  | nil =>
    exact ⟨[], o, rfl, rfl, (ite_self _).symm, by simp [happened], by simpa [happened] using h⟩
  | cons t ts ih =>
    obtain ⟨log₁, o₁, ho₁, hg₁, hdebug₁, hlog₁, hlen₁, h₁⟩ := h.turn hC T E t rfl
    obtain ⟨log₂, o₂, ho₂, hg₂, hlog₂, hlen₂, h₂⟩ := ih h₁
    rw [hg₁] at ho₂ hg₂ hlog₂ hlen₂ h₂
    rw [happened_cons]
    refine ⟨log₁ ++ log₂, o₂, ?_, hg₂, ?_, ?_, by simpa using h₂⟩
    · simp [Observed.run, ho₁, ho₂]
    · rw [hlog₁, hlog₂, hdebug₁, debugLog]
      cases o.debug <;> rfl
    · rw [List.length_append, hlen₁, hlen₂, hdebug₁]
      cases o.debug <;> simp

end DataGateway
end Gemina
