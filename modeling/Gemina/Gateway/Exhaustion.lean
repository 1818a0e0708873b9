/-
# When the address pool is exhausted

A handshake leases a tunnel address for the session that it admits.  `DataPlane.Forget` ends a
session and removes its key, but nothing gives its address back.  So the sessions that were
ended without being admitted again keep their addresses from new clients, and only while there
are none of them does an exhausted pool mean that every address is in use.
-/
import Gemina.Exit.AllocatorRuns
import Gemina.Exit.Router
import Gemina.Gateway.Lifetime

namespace Gemina
namespace Lifetime

/-- The state after a sequence of calls, from an empty store. -/
def afterCalls {L : Type} (S : Setting L) (capacity : ℤ) (leases : L) (calls : List Call) :
    Gate L :=
  Mealy.state (step S) ⟨SessionStore.new, newDataPlane capacity, leases⟩ calls

/-- The sessions that are live: admitted, and not forgotten. -/
def Gate.live {L : Type} (s : Gate L) : Set SessionID := {id | s.store.sessionKey id ≠ none}

/-- The handshake comes as far as the lease, and is refused because the pool is exhausted. -/
def RefusedExhausted (S : Setting Router) (s : Gate Router) (now tokenNow : ℤ)
    (seed : KeySeed) (clientHello : Bytes) : Prop :=
  ∃ k claims store, S.admitter.handshakeKey S.crypto now seed clientHello = .ok k ∧
    S.admitter.admitSession S.tokenLib s.store tokenNow k.token k.id k.key = (.ok claims, store) ∧
    (s.leases.lease k.id).1 = .error errPoolExhausted

/-- The id was admitted, then forgotten, and has not been admitted again. -/
def Ended (t : Trace) (id : SessionID) : Prop :=
  ∃ t₁ o t₂, t = t₁ ++ (.forget id, o) :: t₂ ∧ id ∈ (admissions t₁).map Prod.fst ∧
    id ∉ (admissions t₂).map Prod.fst

/-- A call that admits no session with the id leaves it ended. -/
lemma Ended.concat {t : Trace} {id : SessionID} (h : Ended t id)
    {e : Call × Option (SessionID × Bytes)} (he : id ∉ (admissions [e]).map Prod.fst) :
    Ended (t ++ [e]) id := by
  obtain ⟨t₁, o, t₂, rfl, hmem, hnot⟩ := h
  refine ⟨t₁, o, t₂ ++ [e], by simp, hmem, ?_⟩
  rw [admissions_append, List.map_append, List.mem_append, not_or]
  exact ⟨hnot, he⟩

lemma Ended.forgotten {t : Trace} {id : SessionID} (h : Ended t id) : Forgotten t id := by
  obtain ⟨t₁, o, t₂, heq, hmem, -⟩ := h
  exact ⟨t₁, o, t₂, heq, hmem⟩

/-! ## What a call does to the leases -/

/-- The call is not a bare `Admit`, which leases nothing. -/
def Call.leases : Call → Bool
  | .admission _ _ _ _ => false
  | _ => true

/-- An address is leased to the id that is admitted; no other call changes the leases. -/
lemma step_leases {S : Setting Router} (hC : S.crypto.Lawful)
    (hleaser : S.leaser = some Router.lease) {s : Gate Router} (hs : s.leases.alloc.Ordered)
    {c : Call} (hc : c.leases = true) :
    (∃ id key, s.store.keys id = none ∧ (step S s c).1 = some (id, key) ∧
      (step S s c).2.store = ⟨Function.update s.store.keys id (some key)⟩ ∧
      (step S s c).2.leases.alloc = (s.leases.alloc.allocate id).2 ∧
      ∃ addr, (s.leases.alloc.allocate id).1 = .ok addr) ∨
    (∃ id, c = .forget id ∧ (step S s c).1 = none ∧
      (step S s c).2.store = s.store.forget id ∧
      (step S s c).2.leases.alloc = s.leases.alloc) ∨
    ((step S s c).1 = none ∧ (step S s c).2.store = s.store ∧
      (step S s c).2.leases.alloc = s.leases.alloc) := by
  cases c with
  | admission now token id key => cases hc
  | handshake now tokenNow seed clientHello =>
    -- the lease step calls `Allocate`, whose addresses are IPv4
    have hassign : ∀ id, (Admitter.assign S.leaser s.leases id).2.alloc =
        (s.leases.alloc.allocate id).2 ∧
        (∀ e, (Admitter.assign S.leaser s.leases id).1 = .error e →
          ∃ e', (s.leases.alloc.allocate id).1 = .error e') ∧
        (∀ ip, (Admitter.assign S.leaser s.leases id).1 = .ok ip →
          ∃ addr, (s.leases.alloc.allocate id).1 = .ok addr) := by
      intro id
      rw [hleaser]
      rcases halloc : s.leases.alloc.allocate id with ⟨e | addr, alloc⟩
      · simp [Admitter.assign, Router.lease, halloc]
      · have his4 : addr.is4 = true := by
          refine (hs.allocate id).leased_is4 id addr ?_
          exact @Allocator.leaseOf_allocate s.leases.alloc id addr (by rw [halloc])
        simp [Admitter.assign, Router.lease, halloc, his4]
    rcases Admitter.handshake_cases hC S.tokenLib S.admitter S.leaser S.identityPriv s.store
      s.leases now tokenNow seed clientHello with ⟨e, heq⟩ | ⟨k, e, -, -, hass, heq⟩ |
      ⟨k, claims, ip, sh, -, -, hnone, hass, -, heq⟩
    · exact Or.inr (Or.inr ⟨by simp [step, heq], by simp [step, heq], by simp [step, heq]⟩)
    · obtain ⟨halloc, herr, -⟩ := hassign k.id
      obtain ⟨e', he'⟩ := herr e hass
      refine Or.inr (Or.inr ⟨by simp [step, heq], by simp [step, heq], ?_⟩)
      simp only [step, heq]
      exact halloc.trans (Allocator.allocate_error he').2
    · obtain ⟨halloc, -, hok⟩ := hassign k.id
      refine Or.inl ⟨k.id, k.key, hnone, by simp [step, heq], by simp [step, heq], ?_, hok ip hass⟩
      simp only [step, heq]
      exact halloc
  | handle datagram => exact Or.inr (Or.inr ⟨rfl, rfl, rfl⟩)
  | frameReturn id payload => exact Or.inr (Or.inr ⟨rfl, rfl, rfl⟩)
  | forget id => exact Or.inr (Or.inl ⟨id, rfl, rfl, rfl, rfl⟩)

/-! ## Who holds the addresses -/

/-- Every live session holds an address, and only live and ended sessions do. -/
structure Held (usable : List Addr) (t : Trace) (s : Gate Router) : Prop where
  alloc : Allocator.Consistent usable s.leases.alloc
  live : ∀ id, s.store.keys id ≠ none →
    s.leases.alloc.leaseOf id ≠ none ∧ id ∈ (admissions t).map Prod.fst
  leased : ∀ id, s.leases.alloc.leaseOf id ≠ none → s.store.keys id ≠ none ∨ Ended t id

/-- Every call keeps it so. -/
lemma Held.step {S : Setting Router} (hC : S.crypto.Lawful)
    (hleaser : S.leaser = some Router.lease) {usable : List Addr} {t : Trace} {s : Gate Router}
    (h : Held usable t s) {c : Call} (hc : c.leases = true) :
    Held usable (t ++ [(c, (Lifetime.step S s c).1)]) (Lifetime.step S s c).2 := by
  rcases step_leases hC hleaser h.alloc.ordered hc with
    ⟨id, key, hnone, hout, hst, halloc, addr, hok⟩ | ⟨id, rfl, hout, hst, halloc⟩ |
    ⟨hout, hst, halloc⟩
  · have hkeep : ∀ id', s.leases.alloc.leaseOf id' ≠ none →
        (s.leases.alloc.allocate id).2.leaseOf id' ≠ none := by
      intro id' hid'
      obtain ⟨addr', haddr'⟩ := Option.ne_none_iff_exists'.mp hid'
      have hsame : (s.leases.alloc.allocate id).2.leaseOf id' = some addr' :=
        Allocator.leaseOf_call haddr' (c := .allocate id) (by simp)
      simp [hsame]
    have hnew : (s.leases.alloc.allocate id).2.leaseOf id ≠ none := by
      rw [Allocator.leaseOf_allocate hok]
      simp
    refine ⟨?_, ?_, ?_⟩
    · rw [halloc]
      exact h.alloc.call (.allocate id)
    · intro id' hid'
      rw [hst] at hid'
      rw [halloc, admissions_append, List.map_append, List.mem_append]
      by_cases hne : id' = id
      · subst hne
        exact ⟨hnew, Or.inr (by simp [admissions, hout])⟩
      · have hlive := h.live id' (by simpa [hne] using hid')
        exact ⟨hkeep id' hlive.1, Or.inl hlive.2⟩
    · intro id' hid'
      rw [hst]
      by_cases hne : id' = id
      · exact Or.inl (by simp [hne])
      · have hold : s.leases.alloc.leaseOf id' ≠ none := by
          rw [halloc] at hid'
          rcases s.leases.alloc.allocate_cases id with ⟨_, -, heq⟩ | ⟨-, -, heq⟩ |
            ⟨rest, addr', -, -, heq⟩
          · simpa [heq] using hid'
          · simpa [heq] using hid'
          · simpa [heq, Allocator.leaseOf, hne] using hid'
        refine (h.leased id' hold).imp (fun hkey => by simpa [hne] using hkey) fun hended => ?_
        exact hended.concat (by simpa [admissions, hout] using hne)
  · refine ⟨halloc ▸ h.alloc, ?_, ?_⟩
    · intro id' hid'
      rw [hst] at hid'
      have hne : id' ≠ id := by
        rintro rfl
        simp [SessionStore.forget] at hid'
      have hlive := h.live id' (by simpa [SessionStore.forget, hne] using hid')
      rw [halloc, admissions_append, List.map_append, List.mem_append]
      exact ⟨hlive.1, Or.inl hlive.2⟩
    · intro id' hid'
      rw [halloc] at hid'
      rw [hst]
      by_cases hne : id' = id
      · -- the session ends now, or it had ended before
        subst hne
        right
        rcases h.leased id' hid' with hkey | hended
        · exact ⟨t, _, [], rfl, (h.live id' hkey).2, by simp [admissions]⟩
        · exact hended.concat (by simp [admissions, hout])
      · refine (h.leased id' hid').imp
          (fun hkey => by simpa [SessionStore.forget, hne] using hkey) fun hended => ?_
        exact hended.concat (by simp [admissions, hout])
  · refine ⟨halloc ▸ h.alloc, ?_, ?_⟩
    · intro id' hid'
      rw [hst] at hid'
      rw [halloc, admissions_append, List.map_append, List.mem_append]
      exact ⟨(h.live id' hid').1, Or.inl (h.live id' hid').2⟩
    · intro id' hid'
      rw [halloc] at hid'
      rw [hst]
      exact (h.leased id' hid').imp id fun hended => hended.concat (by simp [admissions, hout])

/-- So it is after every run. -/
lemma held_run {S : Setting Router} (hC : S.crypto.Lawful)
    (hleaser : S.leaser = some Router.lease) {pool : Prefix} {a : Allocator}
    (ha : newAllocator pool = .ok a) (paths : PathSet) (capacity : ℤ) {calls : List Call}
    (hcalls : ∀ c ∈ calls, c.leases = true) :
    Held a.free (run S capacity ⟨a, paths⟩ calls) (afterCalls S capacity ⟨a, paths⟩ calls) := by
  induction calls using List.reverseRecOn with
  | nil =>
    refine ⟨Allocator.consistent_new ha, ?_, ?_⟩
    · intro id hid
      simp [afterCalls, SessionStore.new] at hid
    · intro id hid
      exact absurd ((newAllocator_ok ha).2.1 id) hid
  | append_singleton calls c ih =>
    rw [run, afterCalls, Mealy.trace_concat, Mealy.state_concat]
    exact (ih fun c' hc' => hcalls c' (by simp [hc'])).step hC hleaser (hcalls c (by simp))

/-! ## The result -/

/-- When a handshake of the run is tried, no session has been ended without being admitted
again, other than the one that the handshake asks for. -/
def NoneElseEnded (S : Setting Router) (capacity : ℤ) (leases : Router) (calls : List Call) :
    Prop :=
  ∀ c₁ now tokenNow seed clientHello c₂,
    calls = c₁ ++ .handshake now tokenNow seed clientHello :: c₂ →
    ∀ id, Ended (run S capacity leases c₁) id →
      (Call.handshake now tokenNow seed clientHello).names = some id

/-- **An exhausted pool is in use.**  In every run of handshakes, traffic and `Forget` calls in
which no handshake is tried while another session is ended and not admitted again, a handshake
is refused because the pool is exhausted only if as many sessions are live as the pool has
usable addresses. -/
theorem exhausted_in_use {S : Setting Router} (hC : S.crypto.Lawful)
    (hleaser : S.leaser = some Router.lease) {pool : Prefix} {a : Allocator}
    (ha : newAllocator pool = .ok a) (paths : PathSet) (capacity : ℤ) {calls : List Call}
    (hcalls : ∀ c ∈ calls, c.leases = true)
    (hended : NoneElseEnded S capacity ⟨a, paths⟩ calls) :
    ∀ c₁ now tokenNow seed clientHello c₂,
      calls = c₁ ++ .handshake now tokenNow seed clientHello :: c₂ →
      RefusedExhausted S (afterCalls S capacity ⟨a, paths⟩ c₁) now tokenNow seed clientHello →
      (afterCalls S capacity ⟨a, paths⟩ c₁).live.ncard = a.free.length := by
  rintro c₁ now tokenNow seed clientHello c₂ rfl ⟨k, claims, store, hk, hadm, hlease⟩
  have h : Held a.free (run S capacity ⟨a, paths⟩ c₁) (afterCalls S capacity ⟨a, paths⟩ c₁) :=
    held_run hC hleaser ha paths capacity fun c hc => hcalls c (by simp [hc])
  set s := afterCalls S capacity ⟨a, paths⟩ c₁
  have hlease : (s.leases.alloc.allocate k.id).1 = .error errPoolExhausted := hlease
  -- the pool is exhausted, and the id that is asked for has no lease
  obtain ⟨hnone, hfree⟩ : s.leases.alloc.forward k.id = none ∧ s.leases.alloc.free = [] := by
    rcases s.leases.alloc.allocate_cases k.id with ⟨_, -, heq⟩ | ⟨hnone, hfree, -⟩ |
      ⟨rest, addr, -, -, heq⟩
    · simp [heq] at hlease
    · exact ⟨hnone, hfree⟩
    · simp [heq] at hlease
  have hlive : s.live = {id | s.leases.alloc.leaseOf id ≠ none} := by
    ext id
    refine ⟨fun hid => (h.live id hid).1, fun hid => ?_⟩
    rcases h.leased id hid with hkey | hend
    · exact hkey
    · have hname := hended c₁ now tokenNow seed clientHello c₂ rfl id hend
      obtain ⟨hello, priv, hdec, -, hkid, -⟩ := Admitter.handshakeKey_ok hk
      simp only [Call.names, hdec, Except.toOption, Option.map_some, Option.some.injEq] at hname
      rw [← hname, hkid] at hid
      exact absurd hnone hid
  rw [hlive]
  exact h.alloc.ncard_leased (newAllocator_ok ha).1.free_nodup hfree

section Sample

set_option maxRecDepth 8000

/-- A self-hosted gateway with an exit path. -/
abbrev exitSetting : Setting Router := selfHosted (some Router.lease)

def sampleHandshake (n : UInt8) : Call := .handshake 0 0 (.ok (ByteArrayN.zero _)) (helloFrom n)

/-- Two clients and one address: the second is refused while the first is live. -/
theorem exhausted_in_use_two :
    RefusedExhausted exitSetting (afterCalls exitSetting 64 Router.oneAddress [sampleHandshake 1]) 0
      0 (.ok (ByteArrayN.zero _)) (helloFrom 2) ∧
    (afterCalls exitSetting 64 Router.oneAddress [sampleHandshake 1]).live.ncard = 1 := by
  have hrefused : RefusedExhausted exitSetting
      (afterCalls exitSetting 64 Router.oneAddress [sampleHandshake 1]) 0 0
      (.ok (ByteArrayN.zero _)) (helloFrom 2) :=
    ⟨_, _, _, rfl, rfl, rfl⟩
  refine ⟨hrefused, ?_⟩
  have hended : NoneElseEnded exitSetting 64 Router.oneAddress
      [sampleHandshake 1, sampleHandshake 2] := by
    intro c₁ now tokenNow seed clientHello c₂ heq id hend
    have hmem : .forget id ∈ [sampleHandshake 1, sampleHandshake 2] := by
      rw [heq]
      exact List.mem_append_left _ hend.forgotten.mem_calls
    simp [sampleHandshake] at hmem
  exact exhausted_in_use sumCrypto_lawful rfl newAllocator_four (newPathSet 0) 64
    (by simp [sampleHandshake, Call.leases]) hended [sampleHandshake 1] 0 0 _ _ [] rfl hrefused

/-- **A session that was ended keeps its address.**  After the only session was forgotten, no
session is live, and a new client is refused because the pool is exhausted. -/
theorem exhausted_by_ended_session :
    newAllocator (.v4 0x0a4d0000#32 30 (by decide)) = .ok Router.oneAddress.alloc ∧
    Router.oneAddress.alloc.free.length = 1 ∧
    (afterCalls exitSetting 64 Router.oneAddress
      [sampleHandshake 1, .forget (sampleClient 1)]).live = ∅ ∧
    RefusedExhausted exitSetting (afterCalls exitSetting 64 Router.oneAddress
      [sampleHandshake 1, .forget (sampleClient 1)]) 0 0
      (.ok (ByteArrayN.zero _)) (helloFrom 2) := by
  refine ⟨newAllocator_four, rfl, ?_, ⟨_, _, _, rfl, rfl, rfl⟩⟩
  rw [Set.eq_empty_iff_forall_notMem]
  intro id hlive
  have hstore : (afterCalls exitSetting 64 Router.oneAddress
      [sampleHandshake 1, .forget (sampleClient 1)]).store.sessionKey id
        = none := by
    by_cases hid : id = sampleClient 1
    · rw [hid]
      rfl
    · have hother : (afterCalls exitSetting 64 Router.oneAddress
          [sampleHandshake 1, .forget (sampleClient 1)]).store.sessionKey
            = Function.update (Function.update (fun _ => none)
              (sampleClient 1) (some (List.replicate 32 3)))
              (sampleClient 1) none := rfl
      rw [hother, Function.update_of_ne hid, Function.update_of_ne hid]
  exact hlive hstore

end Sample

end Lifetime
end Gemina
