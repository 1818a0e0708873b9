/-
# What reaches the TUN device

Every packet that the gateway writes to the TUN device was sealed by the holder of the key of
an admitted session, comes from the address leased to that session, and is written once.
-/
import Gemina.Gateway.Delivery
import Gemina.Gateway.Traffic

namespace Gemina
namespace Traffic

open DataGateway

variable {C : Crypto} {T : TokenLib} {E : Cipher} {w : World} {t : Trace}

/-- The packet identity in the header of a datagram. -/
def identityOf (b : Bytes) : Option PacketID :=
  match parseHeader b with
  | .ok (id, _, _) => some id
  | .error _ => none

/-- The packets written to the TUN device, each with the datagram that caused the write. -/
def writes (t : Trace) : List (Bytes × Bytes) :=
  t.filterMap fun
    | (.datagram i, .served result _) => result.tunWrite.map fun p => (i.datagram.take bufSize, p)
    | _ => none

lemma writes_append (t u : Trace) : writes (t ++ u) = writes t ++ writes u :=
  List.filterMap_append

/-- The datagram `b` with the identity `id` justifies the write of the packet `p`: it is the
frame of `p`, sealed in the initiator's direction under the key registered for the session, and
`p` is IPv4 from the address `addr` leased to the session. -/
structure Justifies (E : Cipher) (w : World) (b p : Bytes) (id : PacketID) (addr : Addr) :
    Prop where
  header : parseHeader b = .ok (id, dirInitiator, dataHeaderSize)
  sealed : ∃ r ∈ w.log, w.gateway.store.keys id.session = some r.key ∧
    r.nonce = nonce dirInitiator id.number ∧ r.plaintext = p ∧
    b = r.aad ++ E.aeadSeal r.key r.nonce r.plaintext r.aad
  leased : w.gateway.leaseOf id.session = some addr
  source : ∃ dst, parseIPv4 p = some (addr, dst)

/-! ## One write -/

/-- What is written is the payload, if it is a first copy that passes the filter. -/
lemma tunWriteFor_eq_some {g : DataGateway} {i : DataGateway.Input} {id : SessionID}
    {payload p : Bytes} {decision : ReplayDecision}
    (h : g.tunWriteFor i id payload decision = some p) :
    decision = .firstCopy ∧ p = payload ∧
      ∃ addr dst, g.leaseOf id = some addr ∧ parseIPv4 p = some (addr, dst) := by
  rw [tunWriteFor] at h
  split at h
  · rename_i hdec
    obtain ⟨r, hr, hw⟩ := Option.bind_eq_some_iff.mp h
    obtain ⟨rfl, addr, dst, hl, hp⟩ := Router.egress_write.mp hw
    exact ⟨hdec, rfl, addr, dst, by simp [leaseOf, hr, hl], hp⟩
  · cases h

/-- An accepted datagram is a frame that was sealed under the session's key. -/
lemma accepted_sealed (hw : w.Sound) {b payload : Bytes} {id : PacketID} {s : Session}
    (h : DataPlane.Accepted (E.ideal w.log) w.gateway.store.keys w.gateway.dataPlane b id s
      payload) :
    parseHeader b = .ok (id, dirInitiator, dataHeaderSize) ∧
      ∃ r ∈ w.log, w.gateway.store.keys id.session = some r.key ∧
        r.nonce = nonce dirInitiator id.number ∧ r.plaintext = payload ∧
        b = r.aad ++ E.aeadSeal r.key r.nonce r.plaintext r.aad := by
  have hb := hw.gateway.sessions.current h.current
  have hdir : s.role.peerDir = dirInitiator := by
    rw [hb.role]
    rfl
  obtain ⟨r, hr, ⟨hk, hn, ha, hc⟩, hp⟩ := Aead.mem_of_ideal_open h.opened
  refine ⟨hdir ▸ h.header, r, hr, by rw [hb.key, hk], by rw [hn, hdir], hp, ?_⟩
  rw [hc, ha, List.slice_append_drop _ (Nat.zero_le _), List.drop_zero]

/-- **Every write is justified.** -/
lemma serve_justified (hC : C.Lawful) (hw : w.Sound) {i : DataGateway.Input} {p : Bytes}
    (h : (w.gateway.serve C T (E.ideal w.log) i).1.tunWrite = some p) :
    ∃ id addr, Justifies E w (i.datagram.take bufSize) p id addr := by
  have hout := serve_outcome hC T (E.ideal w.log) hw.gateway i
  generalize w.gateway.serve C T (E.ideal w.log) i = out at hout h
  cases hout with
  | refused => cases h
  | admitted => cases h
  | rejected => cases h
  | other => cases h
  | @accepted _ id s payload hacc =>
    obtain ⟨-, rfl, addr, dst, hl, hp⟩ := tunWriteFor_eq_some h
    obtain ⟨hheader, hsealed⟩ := accepted_sealed hw hacc
    exact ⟨id, addr, hheader, hsealed, hl, dst, hp⟩

/-! ## Over a run -/

/-- No event takes a lease away. -/
lemma leaseOf_step (hC : C.Lawful) (hw : w.Sound) (e : Event) {id : SessionID} {addr : Addr}
    (h : w.gateway.leaseOf id = some addr) :
    (step C T E w e).2.gateway.leaseOf id = some addr := by
  cases e with
  | sealed r => exact h
  | datagram i =>
    have hout := serve_outcome hC T (E.ideal w.log) hw.gateway i
    simp only [step]
    generalize w.gateway.serve C T (E.ideal w.log) i = out at hout
    cases hout with
    | refused => exact h
    | rejected => exact h
    | other => exact h
    | admitted _ hadm =>
      have hadd := hadm.addsLease hw.gateway hw.exit
      have hne : id ≠ _ := fun heq => by
        rw [heq, hadd.had_no_lease] at h
        cases h
      simp only
      rw [hadd.leases, Function.update_of_ne hne]
      exact h
    | accepted =>
      obtain ⟨r, hr⟩ := Option.isSome_iff_exists.mp hw.exit
      simpa [leaseOf, afterAccepted, hr] using h
  | packet now sendTo packet =>
    have hout := serveReturn_outcome (E.ideal w.log) w.gateway now sendTo packet
    simp only [step]
    generalize w.gateway.serveReturn (E.ideal w.log) now sendTo packet = out at hout
    cases hout with
    | dropped => exact h
    | framed _ hexit => simpa [leaseOf, afterFramed, hexit] using h

/-- The write `x` is one of the deliveries `ns`, and comes from the address of its session. -/
def Written (ns : SessionID → List PacketNumber) (g : DataGateway) (x : Bytes × Bytes) : Prop :=
  ∃ id addr dst, identityOf x.1 = some id ∧ id.number ∈ ns id.session ∧
    g.leaseOf id.session = some addr ∧ parseIPv4 x.2 = some (addr, dst)

/-- The world reached with the trace `t`, with the numbers `ns` delivered. -/
structure EgressInv (ns : SessionID → List PacketNumber) (t : Trace) (w : World) : Prop where
  sound : w.Sound
  delivered : w.gateway.dataPlane.Delivered ns
  written : ∀ x ∈ writes t, Written ns w.gateway x
  nodup : ((writes t).map fun x => identityOf x.1).Nodup

lemma egressInv_start {pool : Prefix} {a : Allocator} (ha : newAllocator pool = .ok a)
    (identityPriv : Bytes) (service : Service) (capacity ttl : ℤ) :
    EgressInv (fun _ => []) [] (start identityPriv service capacity a ttl) :=
  ⟨start_sound ha identityPriv service capacity ttl, DataPlane.known_new _ _ capacity,
    by simp [writes], by simp [writes]⟩

variable {ns ns' : SessionID → List PacketNumber}

/-- A write stays a write: leases and deliveries are not taken back. -/
lemma Written.step (hC : C.Lawful) (hw : w.Sound) (e : Event) {x : Bytes × Bytes}
    (hns : ∀ id, ns id ⊆ ns' id) (h : Written ns w.gateway x) :
    Written ns' (step C T E w e).2.gateway x := by
  obtain ⟨id, addr, dst, hid, hn, hl, hp⟩ := h
  exact ⟨id, addr, dst, hid, hns _ hn, leaseOf_step hC hw e hl, hp⟩

/-- An event that writes nothing keeps the invariant. -/
lemma EgressInv.step_of_not_write (hC : C.Lawful) (h : EgressInv ns t w) {e : Event}
    (hns : ∀ id, ns id ⊆ ns' id) (hnone : writes [(e, (step C T E w e).1)] = [])
    (hd : (step C T E w e).2.gateway.dataPlane.Delivered ns') :
    EgressInv ns' (t ++ [(e, (step C T E w e).1)]) (step C T E w e).2 := by
  refine ⟨h.sound.step hC e, hd, ?_, ?_⟩
  · intro x hx
    rw [writes_append, hnone, List.append_nil] at hx
    exact (h.written x hx).step hC h.sound e hns
  · rw [writes_append, hnone, List.append_nil]
    exact h.nodup

lemma subset_deliver (ns : SessionID → List PacketNumber) (id : PacketID) (dec : ReplayDecision)
    (id' : SessionID) : ns id' ⊆ DataPlane.deliver ns id dec id' := by
  rw [DataPlane.deliver]
  split
  · by_cases hid : id' = id.session
    · subst hid
      simp
    · simp [hid]
  · exact List.Subset.refl _

/-- **One datagram.**  A first copy of a number was not delivered before, so its write is a
new one. -/
lemma EgressInv.accepted (hC : C.Lawful) (h : EgressInv ns t w) {i : DataGateway.Input}
    {id : PacketID} {s : Session} {payload : Bytes}
    (hacc : DataPlane.Accepted (E.ideal w.log) w.gateway.store.keys w.gateway.dataPlane
      (i.datagram.take bufSize) id s payload) :
    EgressInv (DataPlane.deliver ns id (s.window.observe id.number).1)
      (t ++ [(.datagram i, (step C T E w (.datagram i)).1)]) (step C T E w (.datagram i)).2 := by
  have hserve := serve_of_accepted C T hacc
  have hd : (step C T E w (.datagram i)).2.gateway.dataPlane.Delivered
      (DataPlane.deliver ns id (s.window.observe id.number).1) := by
    simp only [step, hserve, afterAccepted]
    exact h.delivered.seen hacc.current
  rcases hwrite : w.gateway.tunWriteFor i id.session payload (s.window.observe id.number).1
    with _ | p
  · refine h.step_of_not_write hC (subset_deliver ns id _) ?_ hd
    simp [writes, step, hserve, hwrite]
  · obtain ⟨hdec, rfl, addr, dst, hl, hp⟩ := tunWriteFor_eq_some hwrite
    obtain ⟨hheader, -⟩ := accepted_sealed h.sound hacc
    have hid : identityOf (i.datagram.take bufSize) = some id := by simp [identityOf, hheader]
    have hnew : id.number ∉ ns id.session :=
      ((h.delivered.current DataPlane.hasDelivered_new hacc.current).1.firstCopy hdec).1
    have hwrites : writes [(Event.datagram i, (step C T E w (.datagram i)).1)] =
        [(i.datagram.take bufSize, p)] := by
      simp [writes, step, hserve, hwrite]
    refine ⟨h.sound.step hC _, hd, ?_, ?_⟩
    · intro x hx
      rw [writes_append, hwrites] at hx
      rcases List.mem_append.mp hx with hx | hx
      · exact (h.written x hx).step hC h.sound _ (subset_deliver ns id _)
      · rw [List.mem_singleton.mp hx]
        exact ⟨id, addr, dst, hid, by simp [DataPlane.deliver, hdec], leaseOf_step hC h.sound _ hl,
          hp⟩
    · rw [writes_append, hwrites, List.map_append, List.map_singleton,
        List.nodup_append_singleton, hid]
      refine ⟨fun hmem => ?_, h.nodup⟩
      obtain ⟨x, hx, heq⟩ := List.mem_map.mp hmem
      obtain ⟨id', -, -, hid', hn, -⟩ := h.written x hx
      rw [hid', Option.some.injEq] at heq
      exact hnew (heq ▸ hn)

/-- **The invariant is kept by every event.** -/
lemma EgressInv.step (hC : C.Lawful) (h : EgressInv ns t w) (e : Event) :
    ∃ ns', EgressInv ns' (t ++ [(e, (step C T E w e).1)]) (step C T E w e).2 := by
  cases e with
  | sealed r => exact ⟨ns, h.step_of_not_write hC (fun _ => List.Subset.refl _) rfl h.delivered⟩
  | packet now sendTo packet =>
    refine ⟨ns, h.step_of_not_write hC (fun _ => List.Subset.refl _) rfl ?_⟩
    have hout := serveReturn_outcome (E.ideal w.log) w.gateway now sendTo packet
    simp only [Traffic.step]
    generalize w.gateway.serveReturn (E.ideal w.log) now sendTo packet = out at hout
    cases hout with
    | dropped _ hsame => exact h.delivered.same DataPlane.hasDelivered_new hsame
    | framed _ _ _ _ hcurrent _ =>
      -- the window of the session that frames the packet is not touched
      have hs := h.delivered.current DataPlane.hasDelivered_new hcurrent
      exact h.delivered.put_same ⟨hs.1, hs.2⟩
  | datagram i =>
    have hout := serve_outcome hC T (E.ideal w.log) h.sound.gateway i
    have hquiet : (w.gateway.serve C T (E.ideal w.log) i).1.tunWrite = none →
        (w.gateway.serve C T (E.ideal w.log) i).2.dataPlane.Delivered ns →
        ∃ ns', EgressInv ns' (t ++ [(.datagram i, (Traffic.step C T E w (.datagram i)).1)])
          (Traffic.step C T E w (.datagram i)).2 := by
      intro hnone hd
      exact ⟨ns, h.step_of_not_write hC (fun _ => List.Subset.refl _)
        (by simp [writes, Traffic.step, hnone]) hd⟩
    generalize hserve : w.gateway.serve C T (E.ideal w.log) i = out at hout hquiet
    cases hout with
    | refused => exact hquiet rfl h.delivered
    | admitted => exact hquiet rfl h.delivered
    | rejected _ hsame => exact hquiet rfl (h.delivered.same DataPlane.hasDelivered_new hsame)
    | other => exact hquiet rfl h.delivered
    | accepted _ hacc => exact ⟨_, h.accepted hC hacc⟩

/-- **What reaches the TUN device.**  Take any run of a new gateway with the exit path on: any
datagrams from any sources, any packets from the TUN device, any seal operations of others.
Every packet that the gateway then writes to the TUN device is the plaintext of a frame that
was sealed in the initiator's direction under the key registered for a session, and comes from
the address that is leased to this session.  Over the run, no two writes are caused by the same
session and packet number, and packets written for different sessions have different source
addresses. -/
theorem tun_writes_justified (hC : C.Lawful) (T : TokenLib) (E : Cipher) {pool : Prefix}
    {a : Allocator} (ha : newAllocator pool = .ok a) (identityPriv : Bytes) (service : Service)
    (capacity ttl : ℤ) (es : List Event) :
    let w₀ := start identityPriv service capacity a ttl
    let w := Mealy.state (step C T E) w₀ es
    let t := Mealy.trace (step C T E) w₀ es
    (∀ i p, (w.gateway.serve C T (E.ideal w.log) i).1.tunWrite = some p →
      ∃ id addr, Justifies E w (i.datagram.take bufSize) p id addr) ∧
    ((writes t).map fun x => identityOf x.1).Nodup ∧
    ∀ x ∈ writes t, ∀ y ∈ writes t, ∀ id id' src dst src' dst',
      identityOf x.1 = some id → identityOf y.1 = some id' → id.session ≠ id'.session →
      parseIPv4 x.2 = some (src, dst) → parseIPv4 y.2 = some (src', dst') → src ≠ src' := by
  intro w₀ w t
  obtain ⟨ns, hinv⟩ : ∃ ns, EgressInv ns t w := by
    refine Mealy.invariant (P := fun t w => ∃ ns, EgressInv ns t w) ?_ ?_ es
    · exact ⟨_, egressInv_start ha identityPriv service capacity ttl⟩
    · rintro t w e ⟨ns, h⟩
      exact h.step hC e
  refine ⟨fun i p h => serve_justified hC hinv.sound h, hinv.nodup, ?_⟩
  intro x hx y hy id id' src dst src' dst' hid hid' hne hp hp' heq
  obtain ⟨id₁, addr, _, hid₁, -, hl, hsrc⟩ := hinv.written x hx
  obtain ⟨id₂, addr', _, hid₂, -, hl', hsrc'⟩ := hinv.written y hy
  rw [hid, Option.some.injEq] at hid₁
  rw [hid', Option.some.injEq] at hid₂
  rw [hp, Option.some.injEq, Prod.mk.injEq] at hsrc
  rw [hp', Option.some.injEq, Prod.mk.injEq] at hsrc'
  obtain ⟨r, hr⟩ := Option.isSome_iff_exists.mp hinv.sound.exit
  rw [← hid₁, ← hsrc.1] at hl
  rw [← hid₂, ← hsrc'.1, ← heq] at hl'
  simp only [leaseOf, hr, Option.bind_some] at hl hl'
  exact hne ((hinv.sound.gateway.ordered r hr).forward_inj hl hl')

/-- The packet of a client that was admitted and sealed one frame. -/
theorem tun_writes_justified_sample :
    let w := Mealy.state (step sumCrypto plainTokenLib checksumCipher) sampleStart
      [.datagram (sampleInput 0 (helloFrom 1)), .sealed (sampleSeal 1)]
    (w.gateway.serve sumCrypto plainTokenLib (checksumCipher.ideal w.log)
        (sampleInput 1 (sampleFrame 1))).1.tunWrite = some samplePacket ∧
      ∃ id addr,
        Justifies checksumCipher w ((sampleFrame 1).take bufSize) samplePacket id addr := by
  have h := (tun_writes_justified sumCrypto_lawful plainTokenLib checksumCipher
    newAllocator_sample [1] ⟨.modeOpen, []⟩ 64 0
    [.datagram (sampleInput 0 (helloFrom 1)), .sealed (sampleSeal 1)]).1
      (sampleInput 1 (sampleFrame 1)) samplePacket
  refine ⟨?_, h ?_⟩
  · decide +kernel
  · decide +kernel

end Traffic
end Gemina
