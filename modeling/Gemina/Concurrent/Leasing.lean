/-
# Handshakes that take their key back

`Admitter.Handshake` registers the key of a session, asks for a tunnel address, and removes the
key again if it gets none.  It removes the key from the store directly, without the lock of the
data plane.  A datagram of the session that arrives in between makes the data plane build a
session from the key, and this session stays in the cache when the key is gone.

Here the sections of a handshake after the registration are the lease, then the answer if there
is an address, and the removal of the key if there is none; once there is an address the answer
can be encoded (`Admitter.handshake_cases`).  As long as no key is removed for which the data
plane has a session, the cache agrees with the store.
-/
import Gemina.Concurrent.Model
import Gemina.Exit.Router

namespace Gemina
namespace Concurrent

variable {L : Type}

/-! ## The model -/

/-- The clients and the gateway, with the state of the leaser. -/
structure Leasing (L : Type) where
  core : State
  leases : L
  /-- The `Handshake` calls that have asked for an address and not returned yet, with what
  they got. -/
  assigned : List (SessionID × Except GoError (ByteArrayN assignedIPv4Size × Addr))

/-- What kind of section is executed. -/
inductive Section where
  /-- A section of a client or of the data plane, or the registration of a key. -/
  | other
  /-- `Handshake` asks for an address for the id. -/
  | assign (id : SessionID)
  /-- `Handshake` answers. -/
  | answer (id : SessionID)
  /-- `Handshake` removes the key of the id, because there is no address. -/
  | unwind (id : SessionID)

/-- One section of one call, with a leaser. -/
inductive LeasingStep (S : Setting) (leaser : Option (Leaser L)) :
    Leasing L → Section → Leasing L → Prop
  | other {w : Leasing L} {core : State} (hstep : Step S w.core core)
      (hcalls : w.core.admitting <+: core.admitting) :
      LeasingStep S leaser w .other { w with core := core }
  | assign {w : Leasing L} {id : SessionID}
      (hid : (w.assigned.map Prod.fst).count id < w.core.admitting.count id) :
      LeasingStep S leaser w (.assign id) { w with
        leases := (Admitter.assign leaser w.leases id).2
        assigned := w.assigned ++ [(id, (Admitter.assign leaser w.leases id).1)] }
  | answer {w : Leasing L} {id : SessionID} {ip : ByteArrayN assignedIPv4Size × Addr}
      {before after : List SessionID}
      {before' after' : List (SessionID × Except GoError (ByteArrayN assignedIPv4Size × Addr))}
      (hassigned : w.assigned = before' ++ (id, .ok ip) :: after')
      (hadmitting : w.core.admitting = before ++ id :: after) :
      LeasingStep S leaser w (.answer id) { w with
        core := { w.core with admitting := before ++ after }
        assigned := before' ++ after' }
  | unwind {w : Leasing L} {id : SessionID} {e : GoError} {before after : List SessionID}
      {before' after' : List (SessionID × Except GoError (ByteArrayN assignedIPv4Size × Addr))}
      (hassigned : w.assigned = before' ++ (id, .error e) :: after')
      (hadmitting : w.core.admitting = before ++ id :: after) :
      LeasingStep S leaser w (.unwind id) { w with
        core := { w.core with store := w.core.store.forget id, admitting := before ++ after }
        assigned := before' ++ after' }

/-- Before the first call. -/
def Leasing.start (leases : L) : Leasing L := ⟨Concurrent.start, leases, []⟩

/-- Without the leaser these are sections of the clients and the gateway. -/
lemma LeasingStep.core {S : Setting} {leaser : Option (Leaser L)} {w w' : Leasing L}
    {a : Section} (h : LeasingStep S leaser w a w') : Reaches S w.core w'.core := by
  cases h with
  | other hstep => exact .single hstep
  | assign => exact .refl
  | answer _ hadmitting => exact .single (.answer hadmitting)
  | unwind _ hadmitting => exact .single (.unwind hadmitting)

/-! ## The cache agrees with the store -/

/-- The key that the last admitted handshake for the id derived. -/
def State.lastAdmitted (s : State) (id : SessionID) : Option Bytes :=
  ((s.derivations .responder).reverse.find? fun d => d.id = id).map Derivation.key

/-- A session in the cache has the key that the store has for its id, unless `Forget` is about
to remove it; a session is built from the key in the store; and that is the key of the last
admission. -/
structure CacheInv (s : State) : Prop where
  cached : ∀ id ref, s.sessions id = some ref → ∃ key,
    (keysOf (s.heap .responder))[ref]? = some key ∧
      (s.store.keys id = some key ∨ s.lock = .forgetting id)
  building : ∀ id key, s.lock = .building id key → s.store.keys id = some key
  admitted : ∀ id key, s.store.keys id = some key → s.lastAdmitted id = some key

lemma CacheInv.start : CacheInv Concurrent.start where
  cached _ _ h := by cases h
  building _ _ h := by cases h
  admitted _ _ h := by cases h

variable {S : Setting} {s s' : State}

lemma CacheInv.admitted_forget (h : CacheInv s) (id : SessionID) :
    ∀ id' key, (s.store.forget id).keys id' = some key → s.lastAdmitted id' = some key := by
  intro id' key hst
  have hne : id' ≠ id := by
    rintro rfl
    simp [SessionStore.forget] at hst
  exact h.admitted id' key (by simpa [SessionStore.forget, hne] using hst)

/-- A session that changes keeps its key. -/
lemma CacheInv.write (h : CacheInv s) {role : Role} {ref : ℕ} {session : Session}
    (hs : (s.heap role)[ref]? = some session) (session' : Session)
    (hkey : session'.key = session.key) (seals : List SealOp) :
    CacheInv { s.write role ref session' with seals := seals } := by
  have hkeys := keysOf_write hs hkey .responder
  refine ⟨fun id ref' href => ?_, h.building, h.admitted⟩
  simp only [hkeys]
  exact h.cached id ref' href

/-- **Every section that is not the end of a handshake keeps the agreement.** -/
lemma CacheInv.step (h : CacheInv s) (hstep : Step S s s') (hcalls : s.admitting <+: s'.admitting) :
    CacheInv s' := by
  have hshrinks : ∀ {before after : List SessionID} {id : SessionID},
      s.admitting = before ++ id :: after → ¬ s.admitting <+: before ++ after := by
    intro before after id heq hle
    have hlen := hle.length_le
    rw [heq] at hlen
    simp only [List.length_append, List.length_cons] at hlen
    omega
  cases hstep with
  | begin => exact ⟨h.cached, h.building, h.admitted⟩
  | take => exact ⟨h.cached, h.building, h.admitted⟩
  | complete =>
    exact ⟨by simpa [State.alloc, State.derive] using h.cached, h.building,
      by simpa [State.alloc, State.derive, State.lastAdmitted] using h.admitted⟩
  | drop => exact ⟨h.cached, h.building, h.admitted⟩
  | @register _ k store hreg =>
    -- the id had no key, so it has no session either, unless that is about to go
    obtain ⟨hnone, hstore, -⟩ := hreg.spec
    refine ⟨fun id ref href => ?_, fun id key hlock => ?_, fun id key hst => ?_⟩
    · obtain ⟨key, hkey, hst | hforget⟩ := h.cached id ref href
      · have hne : id ≠ k.id := by
          rintro rfl
          rw [hnone] at hst
          cases hst
        exact ⟨key, hkey, Or.inl (by simpa [State.derive, hstore, hne] using hst)⟩
      · exact ⟨key, hkey, Or.inr hforget⟩
    · have hst := h.building id key hlock
      have hne : id ≠ k.id := by
        rintro rfl
        rw [hnone] at hst
        cases hst
      simpa [State.derive, hstore, hne] using hst
    · simp only [State.lastAdmitted, State.derive, Function.update_self, List.reverse_append,
        List.reverse_singleton, List.singleton_append, List.find?_cons, hstore] at hst ⊢
      by_cases hid : id = k.id
      · subst hid
        simpa using hst
      · rw [Function.update_of_ne hid] at hst
        simpa [State.lastAdmitted, Ne.symm hid] using h.admitted id key hst
  | answer hadmitting => exact absurd hcalls (hshrinks hadmitting)
  | unwind hadmitting => exact absurd hcalls (hshrinks hadmitting)
  | @miss id key hfree hnone hkey =>
    refine ⟨fun id' ref href => ?_, fun id' key' hlock => ?_, h.admitted⟩
    · obtain ⟨key', hkey', hst | hforget⟩ := h.cached id' ref href
      · exact ⟨key', hkey', Or.inl hst⟩
      · rw [hfree] at hforget
        cases hforget
    · cases hlock
      exact hkey
  | @build id key session hlock hnew =>
    obtain ⟨-, -, -, hkey, -⟩ := newSession_ok hnew
    refine ⟨fun id' ref href => ?_, fun id' key' hlock' => (by cases hlock'), h.admitted⟩
    simp only [State.alloc, Function.update_self] at href ⊢
    by_cases hid : id' = id
    · subst hid
      rw [Function.update_self, Option.some.injEq] at href
      exact ⟨key, by simp [← href, keysOf, hkey], Or.inl (h.building id' key hlock)⟩
    · rw [Function.update_of_ne hid] at href
      obtain ⟨key', hkey', hst | hforget⟩ := h.cached id' ref href
      · refine ⟨key', ?_, Or.inl hst⟩
        rw [keysOf, List.map_append, List.getElem?_append_left]
        · exact hkey'
        · exact (List.getElem?_eq_some_iff.mp hkey').1
      · rw [hlock] at hforget
        cases hforget
  | @buildFails id key e hlock =>
    refine ⟨fun id' ref href => ?_, fun id' key' hlock' => (by cases hlock'), h.admitted⟩
    obtain ⟨key', hkey', hst | hforget⟩ := h.cached id' ref href
    · exact ⟨key', hkey', Or.inl hst⟩
    · rw [hlock] at hforget
      cases hforget
  | @forgetKey id hfree =>
    refine ⟨fun id' ref href => ?_, fun id' key' hlock' => (by cases hlock'), h.admitted_forget id⟩
    obtain ⟨key', hkey', hst | hforget⟩ := h.cached id' ref href
    · by_cases hid : id' = id
      · exact ⟨key', hkey', Or.inr (by rw [hid])⟩
      · exact ⟨key', hkey', Or.inl (by simpa [SessionStore.forget, hid] using hst)⟩
    · rw [hfree] at hforget
      cases hforget
  | @forgetSession id hlock =>
    refine ⟨fun id' ref href => ?_, fun id' key' hlock' => (by cases hlock'), h.admitted⟩
    have hid : id' ≠ id := by
      rintro rfl
      simp at href
    simp only [Function.update_of_ne hid] at href
    obtain ⟨key', hkey', hst | hforget⟩ := h.cached id' ref href
    · exact ⟨key', hkey', Or.inl hst⟩
    · rw [hlock] at hforget
      exact absurd (PlaneLock.forgetting.inj hforget).symm hid
  | @outbound role ref session session' payload frame hs hout =>
    obtain ⟨-, rfl⟩ := Session.outbound_ok hout
    exact h.write hs { session with next := session.next + 1 } rfl _
  | @inbound role ref session wire hs =>
    obtain ⟨window, hw⟩ := Session.inboundClassified_snd S.cipher session wire
    rw [hw]
    exact h.write hs { session with window := window } rfl s.seals

/-- The data plane has no session for the id, and is not building one. -/
def Untouched (s : State) (id : SessionID) : Prop :=
  s.sessions id = none ∧ ∀ key, s.lock ≠ .building id key

/-- Removing the key of an id that the data plane has not touched keeps the agreement. -/
lemma CacheInv.unwind (h : CacheInv s) {id : SessionID} (hid : Untouched s id)
    (admitting : List SessionID) :
    CacheInv { s with store := s.store.forget id, admitting := admitting } := by
  refine ⟨fun id' ref href => ?_, fun id' key' hlock => ?_, h.admitted_forget id⟩
  · have hne : id' ≠ id := by
      rintro rfl
      rw [show s.sessions id' = none from hid.1] at href
      cases href
    obtain ⟨key', hkey', hst | hforget⟩ := h.cached id' ref href
    · exact ⟨key', hkey', Or.inl (by simpa [SessionStore.forget, hne] using hst)⟩
    · exact ⟨key', hkey', Or.inr hforget⟩
  · have hne : id' ≠ id := by
      rintro rfl
      exact hid.2 key' hlock
    simpa [SessionStore.forget, hne] using h.building id' key' hlock

/-! ## The result -/

/-- A section that removes a key only for an id that the data plane has not touched. -/
def CarefulStep (S : Setting) (leaser : Option (Leaser L)) (w w' : Leasing L) : Prop :=
  ∃ a, LeasingStep S leaser w a w' ∧ ∀ id, a = .unwind id → Untouched w.core id

/-- **The cache agrees with the store.**  In every interleaving of handshakes, of traffic and of
forgetting in which no handshake removes its key while the data plane has a session for the id
or is building one: whenever the mutex of the data plane is free, every session in the cache
has the key that the store has for its id, and it is the one that the id was last admitted
with. -/
theorem cache_agrees {S : Setting} {leaser : Option (Leaser L)} {leases : L} {w : Leasing L}
    (hrun : Relation.ReflTransGen (CarefulStep S leaser) (Leasing.start leases) w)
    (hfree : w.core.lock = .free) :
    ∀ id ref, w.core.sessions id = some ref → ∃ session,
      (w.core.heap .responder)[ref]? = some session ∧
        w.core.store.sessionKey id = some session.key.1 ∧
        w.core.lastAdmitted id = some session.key.1 := by
  have hinv : CacheInv w.core := by
    clear hfree
    induction hrun with
    | refl => exact CacheInv.start
    | tail _ hstep ih =>
      obtain ⟨a, hstep, hcareful⟩ := hstep
      cases hstep with
      | other hcore hcalls => exact ih.step hcore hcalls
      | assign => exact ih
      | answer => exact ⟨ih.cached, ih.building, ih.admitted⟩
      | unwind => exact ih.unwind (hcareful _ rfl) _
  intro id ref href
  obtain ⟨key, hkey, hst | hforget⟩ := hinv.cached id ref href
  · rw [keysOf, List.getElem?_map, Option.map_eq_some_iff] at hkey
    obtain ⟨session, hsession, rfl⟩ := hkey
    exact ⟨session, hsession, hst, hinv.admitted id _ hst⟩
  · rw [hfree] at hforget
    cases hforget

/-- Only the removal of a key has to be careful. -/
lemma LeasingStep.careful {S : Setting} {leaser : Option (Leaser L)} {w w' : Leasing L}
    {a : Section} (h : LeasingStep S leaser w a w') (hne : ∀ id, a ≠ .unwind id) :
    CarefulStep S leaser w w' :=
  ⟨a, h, fun id ha => absurd ha (hne id)⟩

section Sample

set_option maxRecDepth 8000

/-- What the gateway derives for a client when its own ephemeral key is zero. -/
def keyedFor (n : UInt8) : Admitter.Keyed :=
  ⟨sampleClient n, [], List.replicate 32 (n + 2), List.replicate 32 0⟩

lemma handshakeKey_helloFrom_one : openSetting.admitter.handshakeKey openSetting.crypto 0
    (.ok (ByteArrayN.zero _)) (helloFrom 1) = .ok (keyedFor 1) := rfl

lemma handshakeKey_helloFrom_two : openSetting.admitter.handshakeKey openSetting.crypto 0
    (.ok (ByteArrayN.zero _)) (helloFrom 2) = .ok (keyedFor 2) := rfl

/-- With one address the second client is refused, and its key is removed again: nothing had
arrived for it.  The session of the first client is in the cache. -/
theorem cache_agrees_refused :
    ∃ w : Leasing Router,
      Relation.ReflTransGen (CarefulStep openSetting (some Router.lease))
        (Leasing.start Router.oneAddress) w ∧
      w.core.sessions (sampleClient 1) = some 0 ∧ w.core.store.sessionKey (sampleClient 2) = none ∧
      ∃ session, (w.core.heap .responder)[0]? = some session ∧
        w.core.store.sessionKey (sampleClient 1) = some session.key.1 ∧
        w.core.lastAdmitted (sampleClient 1) = some session.key.1 := by
  obtain ⟨session, hnew⟩ : ∃ session, newSession (sampleClient 1) (keyedFor 1).key .responder
      openSetting.capacity = .ok session := ⟨_, rfl⟩
  have hother : ∀ id, Section.other ≠ .unwind id := fun id => Section.noConfusion
  have hcount : ∀ id : SessionID, ([] : List SessionID).count id < [id].count id := by simp
  -- the first client is admitted, gets the address, and a datagram of it arrives
  have h₁ := Relation.ReflTransGen.single (LeasingStep.careful (@LeasingStep.other _ openSetting
    (some Router.lease) (Leasing.start Router.oneAddress) _
    (.register (.intro 0 rfl handshakeKey_helloFrom_one rfl)) ⟨_, rfl⟩) hother)
  have h₂ := h₁.tail (LeasingStep.careful (@LeasingStep.assign _ _ _ _ (sampleClient 1)
    (hcount _)) (by simp))
  have h₃ := h₂.tail (LeasingStep.careful (@LeasingStep.answer _ _ _ _ (sampleClient 1) _
    [] [] [] [] rfl rfl) (by simp))
  have h₄ := h₃.tail (LeasingStep.careful (.other
    (@Step.miss _ _ (sampleClient 1) (keyedFor 1).key rfl rfl rfl) ⟨[], rfl⟩) hother)
  have h₅ := h₄.tail (LeasingStep.careful (.other (.build rfl hnew) ⟨[], rfl⟩) hother)
  -- the second client is admitted, gets no address, and its key is removed
  have h₆ := h₅.tail (LeasingStep.careful (.other
    (.register (.intro 0 rfl handshakeKey_helloFrom_two rfl)) ⟨_, rfl⟩) hother)
  have h₇ := h₆.tail (LeasingStep.careful (@LeasingStep.assign _ _ _ _ (sampleClient 2)
    (hcount _)) (by simp))
  have h₈ := h₇.tail ⟨_, @LeasingStep.unwind _ _ _ _ (sampleClient 2) _ [] [] [] [] rfl rfl, by
    rintro id heq
    cases heq
    exact ⟨rfl, fun key h => PlaneLock.noConfusion h⟩⟩
  exact ⟨_, h₈, rfl, rfl, cache_agrees h₈ rfl (sampleClient 1) 0 rfl⟩

/-- **A session can outlive its key.**  A datagram for the second client arrives between its
registration and its lease; the pool is exhausted, the key is removed, and the session that
was built from it stays in the cache. -/
theorem cached_without_key :
    ∃ w : Leasing Router,
      Relation.ReflTransGen (fun w w' => ∃ a, LeasingStep openSetting (some Router.lease) w a w')
        (Leasing.start Router.oneAddress) w ∧
      w.core.lock = .free ∧ w.core.sessions (sampleClient 2) = some 0 ∧
      w.core.store.sessionKey (sampleClient 2) = none := by
  obtain ⟨session, hnew⟩ : ∃ session, newSession (sampleClient 2) (keyedFor 2).key .responder
      openSetting.capacity = .ok session := ⟨_, rfl⟩
  have hcount : ∀ id : SessionID, ([] : List SessionID).count id < [id].count id := by simp
  have h₁ := Relation.ReflTransGen.single (r := fun w w' => ∃ a, LeasingStep openSetting
    (some Router.lease) w a w') ⟨_, @LeasingStep.other _ openSetting
    (some Router.lease) (Leasing.start Router.oneAddress) _
    (.register (.intro 0 rfl handshakeKey_helloFrom_one rfl)) ⟨_, rfl⟩⟩
  have h₂ := h₁.tail ⟨_, @LeasingStep.assign _ _ _ _ (sampleClient 1) (hcount _)⟩
  have h₃ := h₂.tail ⟨_, @LeasingStep.answer _ _ _ _ (sampleClient 1) _ [] [] [] [] rfl rfl⟩
  have h₄ := h₃.tail ⟨_, .other (.register (.intro 0 rfl handshakeKey_helloFrom_two rfl)) ⟨_, rfl⟩⟩
  -- the datagram
  have h₅ := h₄.tail ⟨_, .other
    (@Step.miss _ _ (sampleClient 2) (keyedFor 2).key rfl rfl rfl) ⟨[], rfl⟩⟩
  have h₆ := h₅.tail ⟨_, .other (.build rfl hnew) ⟨[], rfl⟩⟩
  -- no address is left
  have h₇ := h₆.tail ⟨_, @LeasingStep.assign _ _ _ _ (sampleClient 2) (hcount _)⟩
  have h₈ := h₇.tail ⟨_, @LeasingStep.unwind _ _ _ _ (sampleClient 2) _ [] [] [] [] rfl rfl⟩
  exact ⟨_, h₈, rfl, rfl, rfl⟩

end Sample

end Concurrent
end Gemina
