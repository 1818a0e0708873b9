/-
# Keys and leases

A gateway with the exit path on gives every admitted session a key and an address.  Over any
sequence of datagrams the sessions with a key stay those with a lease, a refused hello changes
neither, and no call changes the key or the lease of a session that has one.
-/
import Gemina.Lib.Mealy
import Gemina.Gateway.Steps

namespace Gemina
namespace DataGateway

variable {C : Crypto} {T : TokenLib} {E : Cipher} {g : DataGateway}

/-- The address leased to a session, with the exit path on. -/
def leaseOf (g : DataGateway) (id : SessionID) : Option Addr :=
  g.exit.bind fun r => r.alloc.leaseOf id

/-- `HandleDatagram` as a step of a run. -/
def handleStep (C : Crypto) (T : TokenLib) (E : Cipher) (g : DataGateway) (i : Ambient × Bytes) :
    (Option Bytes × DataRecord) × DataGateway :=
  match g.handleDatagram C T E i.1 i.2 with
  | (reply, rec, g) => ((reply, rec), g)

/-- The gateway after a sequence of `HandleDatagram` calls. -/
def afterCalls (C : Crypto) (T : TokenLib) (E : Cipher) (g : DataGateway)
    (calls : List (Ambient × Bytes)) : DataGateway := Mealy.state (handleStep C T E) g calls

/-- A new gateway with the exit path on, over the allocator of a pool. -/
def newExitGateway (identityPriv : Bytes) (service : Service) (capacity : ℤ) (a : Allocator)
    (ttl : ℤ) : DataGateway :=
  (newDataGateway identityPriv service capacity).enableExit ⟨a, newPathSet ttl⟩

/-- A gateway over a new allocator is sound. -/
lemma newExitGateway_sound {pool : Prefix} {a : Allocator} (ha : newAllocator pool = .ok a)
    (identityPriv : Bytes) (service : Service) (capacity ttl : ℤ) :
    (newExitGateway identityPriv service capacity a ttl).Sound := by
  obtain ⟨hord, hfwd, -⟩ := newAllocator_ok ha
  refine ⟨?_, ?_, DataPlane.agrees_new _ _⟩
  · rintro r hr
    cases hr
    exact hord
  · rintro r hr id
    cases hr
    simp [newExitGateway, enableExit, newDataGateway, SessionStore.new, hfwd id]

/-- The exit path stays on. -/
lemma exit_isSome_handleDatagram (hC : C.Lawful) (hg : g.Sound) (amb : Ambient) (b : Bytes)
    (h : g.exit.isSome = true) : (g.handleDatagram C T E amb b).2.2.exit.isSome = true := by
  have hout := handleDatagram_outcome hC T E hg amb b
  generalize g.handleDatagram C T E amb b = out at hout
  cases hout with
  | admitted _ hadm =>
    have hstep := hadm.leased
    rcases hr : g.exit with _ | r
    · simp [hr] at h
    · rw [hr] at hstep
      cases hstep
      rfl
  | refused => exact h
  | rejected => exact h
  | accepted => exact h
  | other => exact h

/-- Every state of a run is sound, with the exit path on. -/
lemma afterCalls_sound (hC : C.Lawful) (hg : g.Sound) (hexit : g.exit.isSome = true)
    (calls : List (Ambient × Bytes)) :
    (afterCalls C T E g calls).Sound ∧ (afterCalls C T E g calls).exit.isSome = true := by
  refine Mealy.invariant (P := fun _ (g : DataGateway) => g.Sound ∧ g.exit.isSome = true)
    ⟨hg, hexit⟩ ?_ calls
  rintro _ g i ⟨hs, he⟩
  exact ⟨hs.handleDatagram hC T E i.1 i.2, exit_isSome_handleDatagram hC hs i.1 i.2 he⟩

/-- With the exit path on, the sessions with a key are those with a lease. -/
lemma Sound.key_iff_lease (hg : g.Sound) (hexit : g.exit.isSome = true) (id : SessionID) :
    (g.store.keys id).isSome = true ↔ (g.leaseOf id).isSome = true := by
  obtain ⟨r, hr⟩ := Option.isSome_iff_exists.mp hexit
  have := hg.leases r hr id
  rw [← not_iff_not, Bool.not_eq_true, Bool.not_eq_true, Option.isSome_eq_false_iff,
    Option.isSome_eq_false_iff, Option.isNone_iff_eq_none, Option.isNone_iff_eq_none, this]
  simp [leaseOf, hr, Allocator.leaseOf]

/-- What an admitted hello adds. -/
structure AddsLease (g : DataGateway) (reply : Option Bytes) (rec : DataRecord)
    (g' : DataGateway) (id : SessionID) (key : Bytes) (addr : Addr) : Prop where
  had_no_key : g.store.keys id = none
  had_no_lease : g.leaseOf id = none
  keys : g'.store.keys = Function.update g.store.keys id (some key)
  leases : g'.leaseOf = Function.update g.leaseOf id (some addr)
  record : rec = { kind := .clientHello, admitted := true, sessionID := id, tunnelIP := addr }
  reply : ∃ b hello, reply = some b ∧ decodeServerHello b = .ok hello ∧ hello.id = id ∧
    Addr.from4 hello.assignedIPv4 = addr

/-- With the exit path on, an admitted hello adds one key and one lease, and answers with the
leased address. -/
lemma Admits.addsLease (hg : g.Sound) (hexit : g.exit.isSome = true) {amb : Ambient} {b : Bytes}
    {k : Admitter.Keyed} {ip : ByteArrayN assignedIPv4Size × Addr} {exit : Option Router}
    {answer : Admitter.Answer} (h : Admits C T g amb b k ip exit answer) :
    AddsLease g (some answer.serverHello)
      { kind := .clientHello, admitted := true, sessionID := k.id, tunnelIP := ip.2 }
      (g.admitted k exit) k.id k.key ip.2 := by
  obtain ⟨r, hr⟩ := Option.isSome_iff_exists.mp hexit
  have hstep := h.leased
  have hnone := (hg.leases r hr k.id).mp h.isNew
  rw [hr] at hstep
  have hfrom : Addr.from4 ip.1 = ip.2 := by
    cases hstep with
    | on _ _ his4 => exact Addr.from4_as4 his4
  refine ⟨h.isNew, by simp [leaseOf, hr, Allocator.leaseOf, hnone], rfl, ?_, rfl,
    ⟨_, _, rfl, decodeServerHello_ok_iff.mpr h.hello, rfl, hfrom⟩⟩
  cases hstep with
  | on _ hfree _ =>
    funext id
    simp only [leaseOf, DataGateway.admitted, Option.bind_some, Allocator.leaseOf]
    by_cases hid : id = k.id <;> simp [hid, leaseOf, hr, Allocator.leaseOf]

/-- **Keys and leases go together.**  Let a gateway with the exit path on, over a new
allocator, have handled any sequence of datagrams.  Then the sessions with a key are those
with a lease.  The next hello is refused, and the store and the allocator are as they were, or
it adds one key and one lease for an id that had neither, and the address in the `ServerHello`
and in the record is the leased one.  And no datagram changes the key or the lease of a
session that has one. -/
theorem keys_and_leases (hC : C.Lawful) (T : TokenLib) (E : Cipher) {pool : Prefix}
    {a : Allocator} (ha : newAllocator pool = .ok a) (identityPriv : Bytes) (service : Service)
    (capacity ttl : ℤ) (calls : List (Ambient × Bytes)) :
    let g := afterCalls C T E (newExitGateway identityPriv service capacity a ttl) calls
    (∀ id, (g.store.keys id).isSome = true ↔ (g.leaseOf id).isSome = true) ∧
    (∀ amb b reply rec g', classifyDatagram b = .clientHello →
      g.handleDatagram C T E amb b = (reply, rec, g') →
      (reply = none ∧ rec.admitted = false ∧ rec.sessionID = ByteArrayN.zero _ ∧
        g'.store = g.store ∧ g'.exit = g.exit) ∨
      ∃ id key addr, AddsLease g reply rec g' id key addr) ∧
    (∀ amb b id, (∀ key, g.store.keys id = some key →
        (g.handleDatagram C T E amb b).2.2.store.keys id = some key) ∧
      ∀ addr, g.leaseOf id = some addr →
        (g.handleDatagram C T E amb b).2.2.leaseOf id = some addr) := by
  intro g
  obtain ⟨hg, hexit⟩ : g.Sound ∧ g.exit.isSome = true :=
    afterCalls_sound hC (newExitGateway_sound ha identityPriv service capacity ttl) rfl calls
  refine ⟨hg.key_iff_lease hexit, ?_, ?_⟩
  · intro amb b reply rec g' hkind heq
    have hout := handleDatagram_outcome hC T E hg amb b
    rw [heq] at hout
    cases hout with
    | refused => exact Or.inl ⟨rfl, rfl, rfl, rfl, rfl⟩
    | admitted _ h => exact Or.inr ⟨_, _, _, h.addsLease hg hexit⟩
    | rejected hk => exact absurd (hk.symm.trans hkind) (by decide)
    | accepted hk => exact absurd (hk.symm.trans hkind) (by decide)
    | other hh => exact absurd hkind hh
  · intro amb b id
    have hout := handleDatagram_outcome hC T E hg amb b
    generalize g.handleDatagram C T E amb b = out at hout
    cases hout with
    | refused => exact ⟨fun _ h => h, fun _ h => h⟩
    | rejected => exact ⟨fun _ h => h, fun _ h => h⟩
    | accepted => exact ⟨fun _ h => h, fun _ h => h⟩
    | other => exact ⟨fun _ h => h, fun _ h => h⟩
    | admitted _ h =>
      rename_i k _ _ _
      have hadd := h.addsLease hg hexit
      constructor
      · intro key hkey
        have hne : id ≠ k.id := by
          rintro rfl
          rw [hadd.had_no_key] at hkey
          cases hkey
        rw [hadd.keys, Function.update_of_ne hne]
        exact hkey
      · intro addr haddr
        have hne : id ≠ k.id := by
          rintro rfl
          rw [hadd.had_no_lease] at haddr
          cases haddr
        rw [hadd.leases, Function.update_of_ne hne]
        exact haddr

/-- A gateway in open mode, over a pool of eight addresses, that has received one hello. -/
theorem keys_and_leases_eight :
    ∃ a, newAllocator (.v4 0x0a4d0000#32 29 (by decide)) = .ok a ∧
      ∀ hello id, ((afterCalls sumCrypto plainTokenLib checksumCipher
          (newExitGateway [1] ⟨.modeOpen, []⟩ 64 a 0)
          [(⟨0, 0, .ok (ByteArrayN.zero _)⟩, hello)]).store.keys id).isSome = true ↔
        ((afterCalls sumCrypto plainTokenLib checksumCipher
          (newExitGateway [1] ⟨.modeOpen, []⟩ 64 a 0)
          [(⟨0, 0, .ok (ByteArrayN.zero _)⟩, hello)]).leaseOf id).isSome = true :=
  ⟨_, newAllocator_eight, fun _ => (keys_and_leases sumCrypto_lawful plainTokenLib checksumCipher
    newAllocator_eight [1] ⟨.modeOpen, []⟩ 64 0 _).1⟩

end DataGateway
end Gemina
