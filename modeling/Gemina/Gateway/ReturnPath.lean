/-
# The return path

A packet that comes back from the TUN device is framed for the session that leases its
destination, with a number that is new, and is sent to every endpoint from which an authentic
datagram of the session arrived less than the TTL ago.
-/
import Gemina.Gateway.Delivery
import Gemina.Gateway.Traffic

namespace Gemina

/-- A new session has framed nothing. -/
lemma DataPlane.hasFramed_new : DataPlane.HoldsOfNew Session.HasFramed [] := by
  intro id key capacity s hs
  obtain ⟨-, -, -, -, hnext, -⟩ := newSession_ok hs
  exact Session.hasFramed_new hnext

namespace Traffic

open DataGateway

variable {C : Crypto} {T : TokenLib} {E : Cipher} {w : World} {t : Trace}

/-! ## Reading a trace -/

/-- The clock reading of an event. -/
def timeOf : Event → Option ℤ
  | .datagram i => some i.now
  | .packet now _ _ => some now
  | .sealed _ => none

/-- The arrivals of authentic datagrams. -/
def arrivals (t : Trace) : List PathSet.Arrival :=
  t.filterMap fun
    | (.datagram i, .served _ (some id)) => i.src.map fun ep => ⟨id, ep, i.now⟩
    | _ => none

/-- The identities that packets were framed with. -/
def framed (t : Trace) : List PacketID :=
  t.filterMap fun
    | (_, .returned _ id) => id
    | _ => none

/-- The numbers that packets for one session were framed with. -/
def used (t : Trace) (id : SessionID) : List PacketNumber :=
  ((framed t).filter fun p => p.session = id).map PacketID.number

lemma arrivals_append (t u : Trace) : arrivals (t ++ u) = arrivals t ++ arrivals u :=
  List.filterMap_append

lemma used_append (t u : Trace) (id : SessionID) : used (t ++ u) id = used t id ++ used u id := by
  simp [used, framed, List.filterMap_append]

lemma used_returned_some (e : Event) (result : ReturnResult) (p : PacketID) (id : SessionID) :
    used [(e, .returned result (some p))] id = if p.session = id then [p.number] else [] := by
  by_cases h : p.session = id <;> simp [used, framed, h]

/-- The clock readings of a run. -/
def clock (t : Trace) : List ℤ := t.filterMap fun e => timeOf e.1

lemma clock_append (t u : Trace) : clock (t ++ u) = clock t ++ clock u := List.filterMap_append

/-! ## Who sent a datagram -/

/-- A datagram has a sender exactly when the gateway accepts it. -/
lemma sender_eq_some (hw : w.Sound) {b : Bytes} {id : SessionID} :
    sender E w b = some id ↔ ∃ pid s payload, pid.session = id ∧
      DataPlane.Accepted (E.ideal w.log) w.gateway.store.keys w.gateway.dataPlane b pid s
        payload := by
  have hpeer : ∀ {id s}, w.gateway.dataPlane.current w.gateway.store.keys id = .ok s →
      s.role.peerDir = dirInitiator := by
    intro id s hs
    rw [(hw.gateway.sessions.current hs).role]
    rfl
  constructor
  · intro h
    rw [sender] at h
    split at h
    · cases h
    rename_i pid dir off hparse
    obtain ⟨-, rfl, -, -⟩ := parseHeader_ok hparse
    split at h
    · cases h
    rename_i hdir
    rw [ne_eq, not_not] at hdir
    subst hdir
    split at h
    · cases h
    rename_i s hs
    split at h
    · cases h
    rename_i payload hopen
    cases h
    exact ⟨pid, s, payload, rfl, by rw [hpeer hs]; exact hparse, hs, by rw [hpeer hs]; exact hopen⟩
  · rintro ⟨pid, s, payload, rfl, hacc⟩
    have hdir := hpeer hacc.current
    have hheader := hacc.header
    have hopen := hacc.opened
    rw [hdir] at hheader hopen
    simp [sender, hheader, hacc.current, hopen]

/-! ## The invariant -/

/-- The path set of the router follows the arrivals. -/
def PathsFollow (ttl : ℤ) (h : List PathSet.Arrival) (readings : List ℤ) (exit : Option Router) :
    Prop :=
  ∀ r, exit = some r → r.paths.ttl = (newPathSet ttl).ttl ∧
    ∀ now, (∀ u ∈ readings, u ≤ now) → PathSet.Follows h now r.paths

variable {ttl now : ℤ} {h : List PathSet.Arrival} {readings : List ℤ} {exit : Option Router}

/-- The clock is read again. -/
lemma PathsFollow.later (hf : PathsFollow ttl h readings exit) (more : List ℤ) :
    PathsFollow ttl h (readings ++ more) exit := by
  intro r hr
  obtain ⟨httl, hfol⟩ := hf r hr
  exact ⟨httl, fun now hnow => hfol now fun u hu => hnow u (List.mem_append_left _ hu)⟩

/-- A lease does not touch the path set. -/
lemma PathsFollow.lease (hf : PathsFollow ttl h readings exit) {id : SessionID}
    {ip : ByteArrayN assignedIPv4Size × Addr} {exit' : Option Router}
    (hstep : Router.LeaseStep id ip exit exit') : PathsFollow ttl h readings exit' := by
  cases hstep with
  | off => exact hf
  | @on r =>
    rintro _ ⟨⟩
    exact hf r rfl

/-- The source of an authentic datagram is recorded. -/
lemma PathsFollow.record (hf : PathsFollow ttl h readings exit) (hnow : ∀ u ∈ readings, u ≤ now)
    (id : SessionID) (src : Option AddrPort) :
    PathsFollow ttl (h ++ (src.map fun ep => ⟨id, ep, now⟩).toList) (readings ++ [now])
      (exit.map fun r => recordSource r now id src) := by
  intro r' hr'
  obtain ⟨r, hr, rfl⟩ := Option.map_eq_some_iff.mp hr'
  obtain ⟨httl, hfol⟩ := hf r hr
  cases src with
  | none =>
    refine ⟨httl, fun now' hnow' => ?_⟩
    simpa [recordSource] using hfol now' fun u hu => hnow' u (List.mem_append_left _ hu)
  | some ep =>
    refine ⟨httl, fun now' hnow' => ?_⟩
    have hle : now ≤ now' := hnow' now (by simp)
    exact ((hfol now hnow).record id ep).later hle

/-- The endpoints that are no longer fresh are dropped. -/
lemma PathsFollow.fresh (hf : PathsFollow ttl h readings exit) (hnow : ∀ u ∈ readings, u ≤ now)
    {r : Router} (hr : exit = some r) (id : SessionID) :
    PathsFollow ttl h (readings ++ [now]) (some { r with paths := (r.paths.fresh now id).2 }) := by
  rintro _ ⟨⟩
  obtain ⟨httl, hfol⟩ := hf r hr
  refine ⟨by rw [PathSet.fresh_eq]; exact httl, fun now' hnow' => ?_⟩
  exact ((hfol now hnow).fresh id).2.2.later (hnow' now (by simp))

/-- The world reached with the trace `t`. -/
structure ReturnInv (ttl : ℤ) (t : Trace) (w : World) : Prop where
  sound : w.Sound
  paths : PathsFollow ttl (arrivals t) (clock t) w.gateway.exit
  counted : w.gateway.dataPlane.Known Session.HasFramed [] (used t)
  /-- Whoever sent an authentic datagram has a session. -/
  senders : ∀ a ∈ arrivals t, ∃ s,
    w.gateway.dataPlane.current w.gateway.store.keys a.session = .ok s

lemma returnInv_start {pool : Prefix} {a : Allocator} (ha : newAllocator pool = .ok a)
    (identityPriv : Bytes) (service : Service) (capacity ttl : ℤ) :
    ReturnInv ttl [] (start identityPriv service capacity a ttl) := by
  refine ⟨start_sound ha identityPriv service capacity ttl, ?_, DataPlane.known_new _ _ capacity,
    by simp [arrivals]⟩
  rintro _ ⟨⟩
  exact ⟨rfl, fun now _ => PathSet.follows_new ttl now⟩

/-- A session that exists is not lost. -/
lemma current_step (hC : C.Lawful) (hw : w.Sound) (e : Event) {id : SessionID} {s : Session}
    (h : w.gateway.dataPlane.current w.gateway.store.keys id = .ok s) :
    ∃ s', (step C T E w e).2.gateway.dataPlane.current (step C T E w e).2.gateway.store.keys id
      = .ok s' := by
  have hput : ∀ id' s', ∃ s'',
      (w.gateway.dataPlane.put id' s').current w.gateway.store.keys id = .ok s'' := by
    intro id' s'
    by_cases hid : id = id'
    · exact ⟨s', by rw [hid, DataPlane.current_put_self]⟩
    · exact ⟨s, by rw [DataPlane.current_put_of_ne _ _ hid, h]⟩
  cases e with
  | sealed r => exact ⟨s, h⟩
  | datagram i =>
    have hout := serve_outcome hC T (E.ideal w.log) hw.gateway i
    simp only [step]
    generalize w.gateway.serve C T (E.ideal w.log) i = out at hout
    cases hout with
    | refused => exact ⟨s, h⟩
    | other => exact ⟨s, h⟩
    | rejected _ hsame => exact ⟨s, by rw [hsame.current_eq, h]⟩
    | admitted _ hadm =>
      have hne := hw.gateway.sessions.ne_of_current hadm.isNew h
      exact ⟨s, by rw [← h]; exact DataPlane.current_update_of_ne _ _ hne⟩
    | accepted => exact hput _ _
  | packet now sendTo packet =>
    have hout := serveReturn_outcome (E.ideal w.log) w.gateway now sendTo packet
    simp only [step]
    generalize w.gateway.serveReturn (E.ideal w.log) now sendTo packet = out at hout
    cases hout with
    | dropped _ hsame => exact ⟨s, by rw [hsame.current_eq, h]⟩
    | framed => exact hput _ _

/-- An event with no authentic datagram and no framed packet. -/
lemma ReturnInv.quiet (hC : C.Lawful) (hinv : ReturnInv ttl t w) {e : Event}
    (harr : arrivals [(e, (step C T E w e).1)] = [])
    (hused : ∀ id, used [(e, (step C T E w e).1)] id = [])
    (hpaths : PathsFollow ttl (arrivals t) (clock t) (step C T E w e).2.gateway.exit)
    (hcount : (step C T E w e).2.gateway.dataPlane.Known Session.HasFramed [] (used t)) :
    ReturnInv ttl (t ++ [(e, (step C T E w e).1)]) (step C T E w e).2 := by
  have hused' : used (t ++ [(e, (step C T E w e).1)]) = used t := by
    funext id
    rw [used_append, hused, List.append_nil]
  refine ⟨hinv.sound.step hC e, ?_, ?_, ?_⟩
  · rw [arrivals_append, harr, List.append_nil, clock_append]
    exact hpaths.later _
  · rw [hused']
    exact hcount
  · rw [arrivals_append, harr, List.append_nil]
    intro a ha
    obtain ⟨s, hs⟩ := hinv.senders a ha
    exact current_step hC hinv.sound e hs

/-- An authentic datagram arrives. -/
lemma ReturnInv.accepted (hC : C.Lawful) (hinv : ReturnInv ttl t w) {i : DataGateway.Input}
    (hnow : ∀ u ∈ clock t, u ≤ i.now) {pid : PacketID} {s : Session} {payload : Bytes}
    (hacc : DataPlane.Accepted (E.ideal w.log) w.gateway.store.keys w.gateway.dataPlane
      (i.datagram.take bufSize) pid s payload) :
    ReturnInv ttl (t ++ [(.datagram i, (step C T E w (.datagram i)).1)])
      (step C T E w (.datagram i)).2 := by
  have hserve := serve_of_accepted C T hacc
  have hsender : sender E w (i.datagram.take bufSize) = some pid.session :=
    (sender_eq_some hinv.sound).mpr ⟨pid, s, payload, rfl, hacc⟩
  have harr : arrivals [(Event.datagram i, (step C T E w (.datagram i)).1)] =
      (i.src.map fun ep => ⟨pid.session, ep, i.now⟩).toList := by
    simp only [arrivals, step, hsender, List.filterMap_cons, List.filterMap_nil]
    cases i.src <;> rfl
  have hused : used (t ++ [(Event.datagram i, (step C T E w (.datagram i)).1)]) = used t := by
    funext id
    simp [used, framed, step]
  refine ⟨hinv.sound.step hC _, ?_, ?_, ?_⟩
  · rw [arrivals_append, harr, clock_append]
    simp only [step, hserve, afterAccepted]
    exact hinv.paths.record hnow pid.session i.src
  · rw [hused]
    simp only [step, hserve, afterAccepted]
    have hs := hinv.counted.current DataPlane.hasFramed_new hacc.current
    exact hinv.counted.put_same ⟨hs.1, hs.2⟩
  · intro a ha
    rw [arrivals_append, harr] at ha
    rcases List.mem_append.mp ha with ha | ha
    · obtain ⟨s, hs⟩ := hinv.senders a ha
      exact current_step hC hinv.sound _ hs
    · rw [Option.mem_toList, Option.map_eq_some_iff] at ha
      obtain ⟨ep, -, rfl⟩ := ha
      exact current_step hC hinv.sound _ hacc.current

/-- A packet is framed. -/
lemma ReturnInv.framed (hC : C.Lawful) (hinv : ReturnInv ttl t w)
    {sendTo : Bytes → AddrPort → Option GoError} {packet : Bytes}
    (hnow : ∀ u ∈ clock t, u ≤ now) {r : Router} {id : SessionID} {s : Session}
    (hframer : w.gateway.returnSession packet = some (id, s)) (hexit : w.gateway.exit = some r)
    (hcurrent : w.gateway.dataPlane.current w.gateway.store.keys id = .ok s)
    (hg : (w.gateway.serveReturn (E.ideal w.log) now sendTo packet).2
      = w.gateway.afterFramed r now id s) :
    ReturnInv ttl (t ++ [(.packet now sendTo packet, (step C T E w (.packet now sendTo packet)).1)])
      (step C T E w (.packet now sendTo packet)).2 := by
  have hid : s.id = id := (hinv.sound.gateway.sessions.current hcurrent).id_eq
  have hused : used (t ++ [(Event.packet now sendTo packet,
      (step C T E w (.packet now sendTo packet)).1)])
        = Function.update (used t) id (used t id ++ [s.next + 1]) := by
    funext id'
    rw [used_append]
    simp only [step, hframer, Option.map_some, used_returned_some, Session.nextID, hid]
    by_cases hne : id' = id
    · subst hne
      simp
    · simp [hne, Ne.symm hne]
  have harr : arrivals [(Event.packet now sendTo packet,
      (step C T E w (.packet now sendTo packet)).1)] = [] := rfl
  refine ⟨hinv.sound.step hC _, ?_, ?_, ?_⟩
  · rw [arrivals_append, harr, List.append_nil, clock_append]
    simp only [step, hg, afterFramed]
    exact hinv.paths.fresh hnow hexit id
  · rw [hused]
    simp only [step, hg, afterFramed]
    exact hinv.counted.put (hinv.counted.current DataPlane.hasFramed_new hcurrent).next
  · rw [arrivals_append, harr, List.append_nil]
    intro a ha
    obtain ⟨s, hs⟩ := hinv.senders a ha
    exact current_step hC hinv.sound _ hs

/-- **The invariant is kept by every event** that reads the clock no earlier than before. -/
lemma ReturnInv.step (hC : C.Lawful) (hinv : ReturnInv ttl t w) (e : Event)
    (hnow : ∀ now, timeOf e = some now → ∀ u ∈ clock t, u ≤ now) :
    ReturnInv ttl (t ++ [(e, (step C T E w e).1)]) (step C T E w e).2 := by
  cases e with
  | sealed r => exact hinv.quiet hC rfl (fun _ => rfl) hinv.paths hinv.counted
  | packet now sendTo packet =>
    have hout := serveReturn_outcome (E.ideal w.log) w.gateway now sendTo packet
    generalize hg : w.gateway.serveReturn (E.ideal w.log) now sendTo packet = out at hout
    cases hout with
    | dropped hnone hsame =>
      refine hinv.quiet hC rfl (fun id => ?_) ?_ ?_
      · simp [used, Traffic.framed, Traffic.step, hnone]
      · simp only [Traffic.step, hg]
        exact hinv.paths
      · simp only [Traffic.step, hg]
        exact hinv.counted.same DataPlane.hasFramed_new hsame
    | framed hframer hexit _ _ hcurrent _ =>
      exact hinv.framed hC (hnow now rfl) hframer hexit hcurrent (by rw [hg])
  | datagram i =>
    rcases hsender : sender E w (i.datagram.take bufSize) with _ | id
    · have harr : arrivals [(Event.datagram i, (Traffic.step C T E w (.datagram i)).1)] = [] := by
        simp [arrivals, Traffic.step, hsender]
      have hused : ∀ id, used [(Event.datagram i, (Traffic.step C T E w (.datagram i)).1)] id
          = [] := by
        simp [used, Traffic.framed, Traffic.step]
      have hout := serve_outcome hC T (E.ideal w.log) hinv.sound.gateway i
      generalize hserve : w.gateway.serve C T (E.ideal w.log) i = out at hout
      have hquiet : PathsFollow ttl (arrivals t) (clock t) out.2.exit →
          out.2.dataPlane.Known Session.HasFramed [] (used t) →
          ReturnInv ttl (t ++ [(.datagram i, (Traffic.step C T E w (.datagram i)).1)])
            (Traffic.step C T E w (.datagram i)).2 := by
        intro hp hc
        refine hinv.quiet hC harr hused ?_ ?_
        · simp only [Traffic.step, hserve]
          exact hp
        · simp only [Traffic.step, hserve]
          exact hc
      cases hout with
      | refused => exact hquiet hinv.paths hinv.counted
      | other => exact hquiet hinv.paths hinv.counted
      | admitted _ hadm => exact hquiet (hinv.paths.lease hadm.leased) hinv.counted
      | rejected _ hsame =>
        exact hquiet hinv.paths (hinv.counted.same DataPlane.hasFramed_new hsame)
      | @accepted _ pid s payload hacc =>
        -- an accepted datagram has a sender
        have := (sender_eq_some hinv.sound).mpr ⟨pid, s, payload, rfl, hacc⟩
        rw [hsender] at this
        cases this
    · obtain ⟨pid, s, payload, -, hacc⟩ := (sender_eq_some hinv.sound).mp hsender
      exact hinv.accepted hC (hnow i.now rfl) hacc

lemma clock_trace (w : World) (es : List Event) :
    clock (Mealy.trace (step C T E) w es) = es.filterMap timeOf := by
  conv_rhs => rw [← Mealy.trace_inputs (step C T E) w es]
  rw [clock, List.filterMap_map]
  rfl

/-- The invariant holds in every run in which the clock does not go back. -/
lemma returnInv_run (hC : C.Lawful) {pool : Prefix} {a : Allocator}
    (ha : newAllocator pool = .ok a) (identityPriv : Bytes) (service : Service)
    (capacity ttl : ℤ) {es : List Event} (hclock : (es.filterMap timeOf).Pairwise (· ≤ ·)) :
    ReturnInv ttl (Mealy.trace (step C T E) (start identityPriv service capacity a ttl) es)
      (Mealy.state (step C T E) (start identityPriv service capacity a ttl) es) := by
  induction es using List.reverseRecOn with
  | nil => exact returnInv_start ha identityPriv service capacity ttl
  | append_singleton es e ih =>
    rw [List.filterMap_append, List.pairwise_append] at hclock
    obtain ⟨hpast, -, hlast⟩ := hclock
    rw [Mealy.trace_concat, Mealy.state_concat]
    refine (ih hpast).step hC e fun now hnow u hu => ?_
    rw [clock_trace] at hu
    exact hlast u hu now (by simp [hnow])

/-! ## What is sent back -/

/-- The client end of a session, whoever holds the key in the initiator's role, opens the frame
to the packet, now and later. -/
def ClientOpens (E : Cipher) (log : List Seal) (key frame packet : Bytes) : Prop :=
  ∀ c : Session, c.role = .initiator → c.key.1 = key → ∀ log', (∀ r ∈ log, r ∈ log') →
    ∃ decision, (c.inboundClassified (E.ideal log') frame).1 = .ok (packet, decision)

lemma clientOpens_frame (hE : E.Correct) {s : Session} (hrole : s.role = .responder)
    (hvalid : s.nextID.valid = true) {packet : Bytes} {log : List Seal}
    (hlog : s.sealedNext packet ∈ log) :
    ClientOpens E log s.key.1 (s.frame E packet) packet := by
  intro c hc hkey log' hsub
  have hdir : c.role.peerDir = s.role.sendDir := by
    rw [hc, hrole]
    rfl
  have hin := Session.inboundClassified_frame (c := c) hE hvalid (hsub _ hlog)
    (ByteArrayN.ext hkey) hdir
  exact ⟨_, by rw [hin]⟩

/-- The fresh endpoints of a session are those from which it sent an authentic datagram. -/
lemma ReturnInv.fresh (hinv : ReturnInv ttl t w) (hnow : ∀ u ∈ clock t, u ≤ now) {r : Router}
    (hr : w.gateway.exit = some r) (id : SessionID) :
    (r.paths.fresh now id).1.Nodup ∧ ∀ ep, ep ∈ (r.paths.fresh now id).1 ↔
      ∃ a ∈ arrivals t, a.session = id ∧ a.source = ep ∧ now - a.time < (newPathSet ttl).ttl := by
  obtain ⟨httl, hfol⟩ := hinv.paths r hr
  obtain ⟨hnodup, hmem, -⟩ := (hfol now hnow).fresh id
  refine ⟨hnodup, fun ep => ?_⟩
  rw [hmem, httl]
  constructor
  · rintro ⟨u, hu, hlt⟩
    exact ⟨_, hu, rfl, rfl, hlt⟩
  · rintro ⟨⟨_, _, u⟩, hu, rfl, rfl, hlt⟩
    exact ⟨u, hu, hlt⟩

/-- A packet that is sent back is IPv4, not too long, and to an address that is leased. -/
lemma leased_of_sends (hw : w.Sound) {sendTo : Bytes → AddrPort → Option GoError} {packet : Bytes}
    (h : (w.gateway.serveReturn (E.ideal w.log) now sendTo packet).1.sends ≠ []) :
    packet.length ≤ maxPayload ∧ ∃ src dst id, parseIPv4 packet = some (src, dst) ∧
      w.gateway.leaseOf id = some dst := by
  have hout := serveReturn_outcome (E.ideal w.log) w.gateway now sendTo packet
  generalize w.gateway.serveReturn (E.ideal w.log) now sendTo packet = out at hout h
  cases hout with
  | dropped => exact absurd rfl h
  | @framed r id s src dst _ _ hexit hparse hlookup _ hlen =>
    refine ⟨hlen, src, dst, id, hparse, ?_⟩
    have hforward := ((hw.gateway.ordered r hexit).inverse id dst).mpr hlookup
    simpa [leaseOf, hexit, Allocator.leaseOf] using hforward

/-- What is sent back for a packet to the address that `id` leases: one frame, once to each
endpoint from which an authentic datagram of `id` arrived less than the TTL before `now`.  The
frame is sealed under the key of `id`; until the counter wraps around its number is new, and the
client opens it to the packet. -/
structure SendsBack (E : Cipher) (ttl : ℤ) (t : Trace) (w : World) (log : List Seal) (now : ℤ)
    (id : SessionID) (packet : Bytes) (eps : List AddrPort) (frame : Bytes) : Prop where
  nodup : eps.Nodup
  endpoints : ∀ ep, ep ∈ eps ↔
    ∃ a ∈ arrivals t, a.session = id ∧ a.source = ep ∧ now - a.time < (newPathSet ttl).ttl
  sealed : eps ≠ [] → ∃ number key, w.gateway.store.keys id = some key ∧
    frame = frameHeader ⟨id, number⟩ dirResponder ++
      E.aeadSeal key (nonce dirResponder number) packet (frameHeader ⟨id, number⟩ dirResponder) ∧
    ((used t id).length + 1 < 2 ^ 64 → number ∉ used t id ∧ ClientOpens E log key frame packet)

lemma ReturnInv.sendsBack (hE : E.Correct) (hinv : ReturnInv ttl t w)
    (hnow : ∀ u ∈ clock t, u ≤ now) (sendTo : Bytes → AddrPort → Option GoError) {packet : Bytes}
    {src dst : Addr} {id : SessionID} (hparse : parseIPv4 packet = some (src, dst))
    (hlease : w.gateway.leaseOf id = some dst) (hlen : packet.length ≤ maxPayload) :
    ∃ eps frame, (w.gateway.serveReturn (E.ideal w.log) now sendTo packet).1.sends
        = eps.map (fun ep => (frame, ep)) ∧
      SendsBack E ttl t w (Traffic.step C T E w (.packet now sendTo packet)).2.log now id packet eps
        frame := by
  obtain ⟨r, hr⟩ := Option.isSome_iff_exists.mp hinv.sound.exit
  have hlookup : r.alloc.lookup dst = some id := by
    simp only [leaseOf, hr, Option.bind_some] at hlease
    exact ((hinv.sound.gateway.ordered r hr).inverse id dst).mp hlease
  have hlog : (Traffic.step C T E w (.packet now sendTo packet)).2.log =
      w.log ++ ((w.gateway.returnSession packet).map fun x => x.2.sealedNext packet).toList := rfl
  have hout := serveReturn_outcome (E.ideal w.log) w.gateway now sendTo packet
  rw [hlog]
  generalize w.gateway.serveReturn (E.ideal w.log) now sendTo packet = out at hout
  cases hout with
  | dropped hnone =>
    -- there is no session, so it never sent an authentic datagram
    refine ⟨[], [], rfl, List.nodup_nil, fun ep => ⟨by simp, ?_⟩, fun h => absurd rfl h⟩
    rintro ⟨a, ha, rfl, -⟩
    obtain ⟨s, hs⟩ := hinv.senders a ha
    simp [returnSession, hr, hparse, hlookup, hs, hlen] at hnone
  | @framed r' id' s _ dst' _ hframer hexit hparse' hlookup' hcurrent _ =>
    rw [hparse, Option.some.injEq, Prod.mk.injEq] at hparse'
    obtain rfl : r = r' := Option.some.inj (hr.symm.trans hexit)
    obtain rfl : dst = dst' := hparse'.2
    obtain rfl : id = id' := Option.some.inj (hlookup.symm.trans hlookup')
    obtain ⟨hnodup, hmem⟩ := hinv.fresh hnow hr id
    have hb := hinv.sound.gateway.sessions.current hcurrent
    refine ⟨_, s.frame E packet, rfl, hnodup, hmem, fun _ => ⟨s.next + 1, s.key.1, hb.key, ?_, ?_⟩⟩
    · simp [Session.frame, Session.sealPacket, Session.nextID, hb.role, hb.id_eq, Role.sendDir]
    · intro hfew
      obtain ⟨hn0, hnew⟩ :=
        (hinv.counted.current DataPlane.hasFramed_new hcurrent).fresh hfew
      refine ⟨hnew, clientOpens_frame hE hb.role ?_ (by simp [hframer])⟩
      exact PacketID.valid_iff.mpr ⟨by simpa [Session.nextID, hb.id_eq] using hb.id_ne, hn0⟩

/-- **The return path.**  Take any run of a new gateway with the exit path on, in which the
clock does not go back, and then a packet that `ServeReturn` reads.  If the packet is not IPv4,
is too long or its destination is not leased, nothing is sent.  Otherwise one session leases the
destination, and its frame is sent as `SendsBack` says, whatever the sink answers. -/
theorem return_path (hC : C.Lawful) (T : TokenLib) (hE : E.Correct) {pool : Prefix}
    {a : Allocator} (ha : newAllocator pool = .ok a) (identityPriv : Bytes) (service : Service)
    (capacity ttl : ℤ) (es : List Event) (now : ℤ) (sendTo : Bytes → AddrPort → Option GoError)
    (packet : Bytes)
    (hclock : ((es ++ [Event.packet now sendTo packet]).filterMap timeOf).Pairwise (· ≤ ·)) :
    let w₀ := start identityPriv service capacity a ttl
    let w := Mealy.state (step C T E) w₀ es
    let t := Mealy.trace (step C T E) w₀ es
    let sends := (w.gateway.serveReturn (E.ideal w.log) now sendTo packet).1.sends
    (parseIPv4 packet = none → sends = []) ∧ (maxPayload < packet.length → sends = []) ∧
    ∀ src dst, parseIPv4 packet = some (src, dst) →
      ((∀ id, w.gateway.leaseOf id ≠ some dst) → sends = []) ∧
      ∀ id, w.gateway.leaseOf id = some dst → packet.length ≤ maxPayload →
        (∀ id', w.gateway.leaseOf id' = some dst → id' = id) ∧
        ∃ eps frame, sends = eps.map (fun ep => (frame, ep)) ∧
          SendsBack E ttl t w (step C T E w (.packet now sendTo packet)).2.log now id packet eps
            frame := by
  intro w₀ w t sends
  rw [List.filterMap_append, List.pairwise_append] at hclock
  obtain ⟨hpast, -, hlast⟩ := hclock
  have hinv : ReturnInv ttl t w :=
    returnInv_run hC ha identityPriv service capacity ttl hpast
  have hnow : ∀ u ∈ clock t, u ≤ now := by
    intro u hu
    rw [clock_trace] at hu
    exact hlast u hu now (by simp [timeOf])
  refine ⟨?_, ?_, ?_⟩
  · intro hnone
    by_contra hsends
    obtain ⟨-, src, dst, -, hparse, -⟩ := leased_of_sends hinv.sound hsends
    rw [hnone] at hparse
    cases hparse
  · intro hlong
    by_contra hsends
    obtain ⟨hlen, -⟩ := leased_of_sends hinv.sound hsends
    omega
  · intro src dst hparse
    refine ⟨?_, ?_⟩
    · intro hfree
      by_contra hsends
      obtain ⟨-, src', dst', id, hparse', hlease⟩ := leased_of_sends hinv.sound hsends
      rw [hparse, Option.some.injEq, Prod.mk.injEq] at hparse'
      exact hfree id (hparse'.2 ▸ hlease)
    · intro id hlease hlen
      refine ⟨?_, hinv.sendsBack hE hnow sendTo hparse hlease hlen⟩
      intro id' hlease'
      obtain ⟨r, hr⟩ := Option.isSome_iff_exists.mp hinv.sound.exit
      simp only [leaseOf, hr, Option.bind_some] at hlease hlease'
      exact (hinv.sound.gateway.ordered r hr).forward_inj hlease' hlease

/-- The packet that comes back to the sample client. -/
theorem return_path_sample :
    let w := Mealy.state (step sumCrypto plainTokenLib checksumCipher) sampleStart sampleEvents
    let t := Mealy.trace (step sumCrypto plainTokenLib checksumCipher) sampleStart sampleEvents
    let sends := (w.gateway.serveReturn (checksumCipher.ideal w.log) 2 sampleSink
      sampleReturn).1.sends
    sends.map Prod.snd = [sampleEndpoint] ∧
      ∃ eps frame, sends = eps.map (fun ep => (frame, ep)) ∧
        SendsBack checksumCipher 0 t w (step sumCrypto plainTokenLib checksumCipher w
          (.packet 2 sampleSink sampleReturn)).2.log 2 sampleID sampleReturn eps frame := by
  have h := (return_path sumCrypto_lawful plainTokenLib checksumCipher_correct newAllocator_sample
    [1] ⟨.modeOpen, []⟩ 64 0 sampleEvents 2 sampleSink sampleReturn (by decide)).2.2
      (.v4 0xc0000209#32) (.v4 0x0a4d0006#32) (by decide +kernel)
  have hback := (h.2 sampleID (by decide +kernel) (by decide +kernel)).2
  rw [show start [1] ⟨.modeOpen, []⟩ 64 sampleAllocator 0 = sampleStart from rfl] at hback
  dsimp only
  exact ⟨by decide +kernel, hback⟩

/-! ## The counter wraps around -/

/-- The session that frames a packet frames it again when it comes a second time. -/
lemma returnSession_afterFramed {g : DataGateway} {r : Router} {id : SessionID} {s : Session}
    {packet : Bytes} (hframer : g.returnSession packet = some (id, s)) (hexit : g.exit = some r)
    (now : ℤ) : (g.afterFramed r now id s).returnSession packet
      = some (id, { s with next := s.next + 1 }) := by
  rcases hp : parseIPv4 packet with _ | ⟨src, dst⟩
  · simp [returnSession, hexit, hp] at hframer
  rcases hl : r.alloc.lookup dst with _ | id'
  · simp [returnSession, hexit, hp, hl] at hframer
  rcases hs : g.dataPlane.current g.store.keys id' with e | s'
  · simp [returnSession, hexit, hp, hl, hs] at hframer
  simp only [returnSession, hexit, hp, hl, hs, Option.ite_none_right_eq_some, Option.some.injEq,
    Prod.mk.injEq] at hframer
  obtain ⟨hlen, rfl, -⟩ := hframer
  simp [returnSession, afterFramed, hp, hl, DataPlane.current_put_self, hlen]

/-- A packet that has a session to frame it is sent to the fresh endpoints of that session. -/
lemma serveReturn_of_returnSession {g : DataGateway} {id : SessionID} {s : Session} {r : Router}
    {packet : Bytes} (hframer : g.returnSession packet = some (id, s)) (hexit : g.exit = some r)
    (E : Cipher) (now : ℤ) (sendTo : Bytes → AddrPort → Option GoError) :
    ∃ metrics, g.serveReturn E now sendTo packet =
      (⟨(r.paths.fresh now id).1.map fun ep => (s.frame E packet, ep), metrics⟩,
        g.afterFramed r now id s) := by
  have hout := serveReturn_outcome E g now sendTo packet
  generalize g.serveReturn E now sendTo packet = out at hout
  cases hout with
  | dropped hnone =>
    rw [hframer] at hnone
    cases hnone
  | @framed r' id' s' _ _ metrics hframer' hexit' =>
    rw [hframer, Option.some.injEq, Prod.mk.injEq] at hframer'
    obtain ⟨rfl, rfl⟩ := hframer'
    obtain rfl : r = r' := Option.some.inj (hexit.symm.trans hexit')
    exact ⟨metrics, rfl⟩

/-- The same packet comes `n` times, all at the same time. -/
lemma state_replicate_packet {id : SessionID} {s : Session} {r : Router} {packet : Bytes}
    (hframer : w.gateway.returnSession packet = some (id, s)) (hexit : w.gateway.exit = some r)
    (now : ℤ) (sendTo : Bytes → AddrPort → Option GoError) (n : ℕ) :
    let g := (Mealy.state (step C T E) w (List.replicate n (.packet now sendTo packet))).gateway
    g.returnSession packet = some (id, { s with next := s.next + UInt64.ofNat n }) ∧
      ∃ r', g.exit = some r' ∧ r'.alloc = r.alloc ∧
        (r'.paths.fresh now id).1 = (r.paths.fresh now id).1 := by
  induction n with
  | zero => exact ⟨by simpa using hframer, r, hexit, rfl, rfl⟩
  | succ n ih =>
    obtain ⟨hframer', r', hexit', halloc, hfresh⟩ := ih
    rw [List.replicate_succ', Mealy.state_concat]
    set w' := Mealy.state (step C T E) w (List.replicate n (.packet now sendTo packet))
    obtain ⟨metrics, hout⟩ :=
      serveReturn_of_returnSession hframer' hexit' (E.ideal w'.log) now sendTo
    simp only [step, hout]
    refine ⟨?_, _, rfl, halloc, by rw [← hfresh, PathSet.fresh_fresh]⟩
    rw [returnSession_afterFramed hframer' hexit', UInt64.ofNat_add, add_assoc]
    rfl

/-- A frame with the number zero is refused by every session. -/
lemma inboundClassified_frame_zero {E E' : Cipher} {s c : Session} (hnext : s.next + 1 = 0)
    (packet : Bytes) :
    (c.inboundClassified E' (s.frame E packet)).1 = .error errBadIdentity := by
  have hvalid : s.nextID.valid = false := by
    rw [Bool.eq_false_iff, ne_eq, PacketID.valid_iff]
    exact fun h => h.2 hnext
  have hparse : parseHeader (s.frame E packet) = .error errBadIdentity := by
    rw [Session.frame, parseHeader_frameHeader_eq _ s.role.sendDir_cases, hvalid]
    rfl
  simp [Session.inboundClassified, hparse]

/-- The sample client after `n` packets came back to it. -/
lemma sample_returns (n : ℕ) :
    let w := Mealy.state (step sumCrypto plainTokenLib checksumCipher) sampleStart
      (sampleEvents ++ List.replicate n (.packet 2 sampleSink sampleReturn))
    w.gateway.leaseOf sampleID = some (.v4 0x0a4d0006#32) ∧
      ∃ s : Session, s.next = UInt64.ofNat n ∧
        (w.gateway.serveReturn (checksumCipher.ideal w.log) 2 sampleSink sampleReturn).1.sends
          = [(s.frame (checksumCipher.ideal w.log) sampleReturn, sampleEndpoint)] := by
  obtain ⟨⟨id, s⟩, hframer, hs⟩ := Option.map_eq_some_iff.mp
    (show ((Mealy.state (step sumCrypto plainTokenLib checksumCipher) sampleStart
      sampleEvents).gateway.returnSession sampleReturn).map (fun x => (x.1, x.2.next))
        = some (sampleID, 0) by decide +kernel)
  obtain ⟨r, hexit, hr⟩ := Option.map_eq_some_iff.mp
    (show (Mealy.state (step sumCrypto plainTokenLib checksumCipher) sampleStart
      sampleEvents).gateway.exit.map (fun r => ((r.paths.fresh 2 sampleID).1,
        r.alloc.leaseOf sampleID)) = some ([sampleEndpoint], some (.v4 0x0a4d0006#32))
      by decide +kernel)
  rw [Prod.mk.injEq] at hs hr
  obtain ⟨rfl, hnext⟩ := hs
  obtain ⟨hfresh, hlease⟩ := hr
  intro w
  obtain ⟨hframer', r', hexit', halloc, hfresh'⟩ :=
    state_replicate_packet (C := sumCrypto) (T := plainTokenLib) (E := checksumCipher) hframer hexit
      2 sampleSink n
  rw [← Mealy.state_append] at hframer' hexit'
  refine ⟨by simp only [w, leaseOf, hexit', Option.bind_some, halloc, hlease],
    { s with next := s.next + UInt64.ofNat n }, ?_, ?_⟩
  · simp only at hnext
    simp [hnext]
  · obtain ⟨metrics, hout⟩ :=
      serveReturn_of_returnSession hframer' hexit' (checksumCipher.ideal w.log) 2 sampleSink
    rw [hout]
    simp [hfresh', hfresh]

/-- **The counter wraps around.**  The frame after `2 ^ 64 - 1` others has the number zero.  It
is sent to the client, which refuses it. -/
theorem return_path_wraps :
    let es := sampleEvents ++ List.replicate (2 ^ 64 - 1) (.packet 2 sampleSink sampleReturn)
    let w := Mealy.state (step sumCrypto plainTokenLib checksumCipher) sampleStart es
    ((es ++ [Event.packet 2 sampleSink sampleReturn]).filterMap timeOf).Pairwise (· ≤ ·) ∧
    parseIPv4 sampleReturn = some (.v4 0xc0000209#32, .v4 0x0a4d0006#32) ∧
    sampleReturn.length ≤ maxPayload ∧
    w.gateway.leaseOf sampleID = some (.v4 0x0a4d0006#32) ∧
    ∃ frame, (w.gateway.serveReturn (checksumCipher.ideal w.log) 2 sampleSink sampleReturn).1.sends
        = [(frame, sampleEndpoint)] ∧
      ∀ (c : Session) (E : Cipher), (c.inboundClassified E frame).1 = .error errBadIdentity := by
  intro es w
  obtain ⟨hlease, s, hnext, hsends⟩ := sample_returns (2 ^ 64 - 1)
  have hw : w = Mealy.state (step sumCrypto plainTokenLib checksumCipher) sampleStart
    (sampleEvents ++ List.replicate (2 ^ 64 - 1) (.packet 2 sampleSink sampleReturn)) := rfl
  rw [← hw] at hlease hsends
  refine ⟨?_, by decide +kernel, by decide +kernel, hlease, _, hsends, fun c E => ?_⟩
  · simp only [es]
    generalize 2 ^ 64 - 1 = n
    have htimes : (sampleEvents ++ List.replicate n (Event.packet 2 sampleSink sampleReturn)
        ++ [Event.packet 2 sampleSink sampleReturn]).filterMap timeOf
          = ([0, 1] : List ℤ) ++ List.replicate (n + 1) 2 := by
      have hpacket : timeOf (.packet 2 sampleSink sampleReturn) = some 2 := rfl
      rw [List.append_assoc, ← List.replicate_succ', List.filterMap_append,
        List.filterMap_replicate_of_some hpacket]
      rfl
    rw [htimes, List.pairwise_append]
    refine ⟨by decide, List.pairwise_replicate.mpr (Or.inr le_rfl), ?_⟩
    intro x hx y hy
    rw [List.eq_of_mem_replicate hy]
    revert x
    decide
  · have hzero : s.next + 1 = 0 := by
      rw [hnext, ← UInt64.toNat_inj, UInt64.toNat_add, UInt64.toNat_ofNat', UInt64.toNat_one]
      norm_num
    exact inboundClassified_frame_zero hzero _

end Traffic
end Gemina
