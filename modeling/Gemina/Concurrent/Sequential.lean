/-
# The calls one after the other

The sections of one call, with no other call in between, do what the call does: the steps of
the concurrent model refine the functions of the bridge, of the admitter and of the data plane.
-/
import Gemina.Concurrent.Model

namespace Gemina
namespace Concurrent

variable {S : Setting} {s s' : State}

/-! ## The data plane -/

/-- No call is inside the data plane, and its sessions point to different places of the heap. -/
structure Quiet (s : State) : Prop where
  free : s.lock = .free
  valid : ∀ id ref, s.sessions id = some ref → ref < (s.heap .responder).length
  inj : ∀ id id' ref, s.sessions id = some ref → s.sessions id' = some ref → id = id'

/-- The data plane, with the sessions that its pointers point to. -/
def plane (S : Setting) (s : State) : DataPlane :=
  ⟨S.capacity, fun id => (s.sessions id).bind fun ref => (s.heap .responder)[ref]?⟩

/-- A session is changed where it is. -/
lemma Quiet.write (h : Quiet s) {id : SessionID} {ref : ℕ} (href : s.sessions id = some ref)
    (session : Session) :
    Quiet (s.write .responder ref session) ∧
      plane S (s.write .responder ref session) = (plane S s).put id session := by
  have hlt := h.valid id ref href
  refine ⟨⟨h.free, by simpa [State.write] using h.valid, h.inj⟩, ?_⟩
  simp only [plane, DataPlane.put, State.write, Function.update_self, DataPlane.mk.injEq, true_and]
  funext id'
  by_cases hid : id' = id
  · subst hid
    simp [href, hlt]
  · rw [Function.update_of_ne hid]
    rcases href' : s.sessions id' with _ | ref'
    · rfl
    · have hne : ref ≠ ref' := fun heq => hid (h.inj id' id ref' href' (heq ▸ href))
      simp [hne]

/-- The state after `sessionFor` built a session. -/
def afterBuild (s : State) (id : SessionID) (session : Session) : State :=
  ({ s with
    sessions := Function.update s.sessions id (some (s.heap .responder).length)
    lock := .free } : State).alloc .responder session

/-- A new session is at the end of the heap, where no pointer points. -/
lemma Quiet.build (h : Quiet s) (id : SessionID) (session : Session) :
    Quiet (afterBuild s id session) ∧
      plane S (afterBuild s id session) = (plane S s).put id session := by
  have hend : ∀ id', s.sessions id' ≠ some (s.heap .responder).length :=
    fun id' heq => absurd (h.valid id' _ heq) (lt_irrefl _)
  refine ⟨⟨rfl, ?_, ?_⟩, ?_⟩
  · intro id' ref' href'
    simp only [afterBuild, State.alloc, Function.update_self, List.length_append,
      List.length_singleton] at href' ⊢
    by_cases hid : id' = id
    · subst hid
      rw [Function.update_self, Option.some.injEq] at href'
      omega
    · rw [Function.update_of_ne hid] at href'
      have := h.valid id' ref' href'
      omega
  · intro id₁ id₂ ref' h₁ h₂
    simp only [afterBuild, State.alloc] at h₁ h₂
    by_cases hid₁ : id₁ = id
    · by_cases hid₂ : id₂ = id
      · rw [hid₁, hid₂]
      · rw [hid₁, Function.update_self, Option.some.injEq] at h₁
        rw [Function.update_of_ne hid₂, ← h₁] at h₂
        exact absurd h₂ (hend id₂)
    · rw [Function.update_of_ne hid₁] at h₁
      by_cases hid₂ : id₂ = id
      · rw [hid₂, Function.update_self, Option.some.injEq] at h₂
        exact absurd (h₂ ▸ h₁) (hend id₁)
      · rw [Function.update_of_ne hid₂] at h₂
        exact h.inj id₁ id₂ ref' h₁ h₂
  · simp only [plane, DataPlane.put, afterBuild, State.alloc, Function.update_self,
      DataPlane.mk.injEq, true_and]
    funext id'
    by_cases hid : id' = id
    · subst hid
      simp
    · simp only [Function.update_of_ne hid]
      rcases href' : s.sessions id' with _ | ref'
      · rfl
      · simp [List.getElem?_append_left (h.valid id' ref' href')]

/-- **`sessionFor`**, section by section: the session that it returns is in the heap. -/
lemma Quiet.sessionFor (h : Quiet s) (id : SessionID) :
    ∃ s', Reaches S s s' ∧ Quiet s' ∧ s'.store = s.store ∧
      plane S s' = ((plane S s).sessionFor s.store.sessionKey id).2 ∧
      ∀ session, ((plane S s).sessionFor s.store.sessionKey id).1 = .ok session →
        ∃ ref, s'.sessions id = some ref ∧ (s'.heap .responder)[ref]? = some session := by
  rcases href : s.sessions id with _ | ref
  · have hnone : (plane S s).sessions id = none := by simp [plane, href]
    rcases hkey : s.store.sessionKey id with _ | key
    · exact ⟨s, .refl, h, rfl, by simp [DataPlane.sessionFor, hnone, hkey],
        by simp [DataPlane.sessionFor, hnone, hkey]⟩
    have hmiss : Reaches S s { s with lock := .building id key } :=
      .single (.miss h.free href hkey)
    have hcap : (plane S s).capacity = S.capacity := rfl
    rcases hnew : newSession id key .responder S.capacity with e | session
    · refine ⟨{ s with lock := .free }, hmiss.tail (.buildFails rfl hnew),
        ⟨rfl, h.valid, h.inj⟩, rfl, ?_, ?_⟩
      · simp only [DataPlane.sessionFor, hnone, hkey, hcap, hnew]
        rfl
      · simp [DataPlane.sessionFor, hnone, hkey, hcap, hnew]
    · obtain ⟨hquiet, hplane⟩ := h.build (S := S) id session
      refine ⟨afterBuild s id session, hmiss.tail (.build rfl hnew), hquiet, rfl, ?_, ?_⟩
      · simp only [DataPlane.sessionFor, hnone, hkey, hcap, hnew]
        exact hplane
      · intro session' hs
        simp only [DataPlane.sessionFor, hnone, hkey, hcap, hnew, Except.ok.injEq] at hs
        subst hs
        exact ⟨(s.heap .responder).length, by simp [afterBuild, State.alloc],
          by simp [afterBuild, State.alloc]⟩
  · obtain ⟨session, hsession⟩ : ∃ session, (s.heap .responder)[ref]? = some session :=
      ⟨_, List.getElem?_eq_getElem (h.valid id ref href)⟩
    have hsome : (plane S s).sessions id = some session := by simp [plane, href, hsession]
    refine ⟨s, .refl, h, rfl, by simp [DataPlane.sessionFor, hsome], fun session' hs => ?_⟩
    simp only [DataPlane.sessionFor, hsome, Except.ok.injEq] at hs
    exact ⟨ref, href, hs ▸ hsession⟩

/-- **`FrameReturn`**, section by section. -/
theorem Quiet.frameReturn (h : Quiet s) (id : SessionID) (payload : Bytes) :
    ∃ s', Reaches S s s' ∧ Quiet s' ∧ s'.store = s.store ∧
      plane S s' = ((plane S s).frameReturn S.cipher s.store.sessionKey id payload).2 := by
  obtain ⟨s', hrun, hquiet, hstore, hplane, href⟩ := h.sessionFor (S := S) id
  rcases hfor : (plane S s).sessionFor s.store.sessionKey id with ⟨e | session, d⟩
  · refine ⟨s', hrun, hquiet, hstore, ?_⟩
    simp only [hplane, DataPlane.frameReturn, hfor]
  · obtain ⟨ref, hp, hs⟩ := href session (by rw [hfor])
    rcases hout : session.outbound S.cipher payload with ⟨e | frame, session'⟩
    · -- a payload that is too long leaves the session alone
      have hsame : session' = session := by
        rw [Session.outbound] at hout
        split at hout
        · exact (Prod.mk.inj hout).2.symm
        · simp at hout
      obtain ⟨hq, hpl⟩ := hquiet.write (S := S) hp session
      refine ⟨s', hrun, hquiet, hstore, ?_⟩
      have hset : s'.write .responder ref session = s' := by
        obtain ⟨hlt, heq⟩ := List.getElem?_eq_some_iff.mp hs
        simp [State.write, ← heq]
      simp only [DataPlane.frameReturn, hfor, hout, hsame]
      rw [hset, hplane, hfor] at hpl
      rw [hplane, hfor]
      exact hpl
    · obtain ⟨hq, hpl⟩ := hquiet.write (S := S) hp session'
      refine ⟨_, hrun.tail (.outbound hs hout), ⟨hq.free, hq.valid, hq.inj⟩, hstore, ?_⟩
      simp only [DataPlane.frameReturn, hfor, hout]
      rw [hplane, hfor] at hpl
      exact hpl

/-- **`HandleClassified`**, section by section. -/
theorem Quiet.handleClassified (h : Quiet s) (datagram : Bytes) :
    ∃ s', Reaches S s s' ∧ Quiet s' ∧ s'.store = s.store ∧
      plane S s' = ((plane S s).handleClassified S.cipher s.store.sessionKey datagram).2 := by
  rcases hid : sessionIDFromDatagram datagram with e | id
  · exact ⟨s, .refl, h, rfl, by simp [DataPlane.handleClassified, hid]⟩
  obtain ⟨s', hrun, hquiet, hstore, hplane, href⟩ := h.sessionFor (S := S) id
  rcases hfor : (plane S s).sessionFor s.store.sessionKey id with ⟨e | session, d⟩
  · refine ⟨s', hrun, hquiet, hstore, ?_⟩
    rw [hplane, DataPlane.handleClassified, hid]
    simp only [hfor]
  · obtain ⟨ref, hp, hs⟩ := href session (by rw [hfor])
    obtain ⟨hq, hpl⟩ := hquiet.write (S := S) hp (session.inboundClassified S.cipher datagram).2
    refine ⟨_, hrun.tail (.inbound hs), hq, hstore, ?_⟩
    rw [DataPlane.handleClassified, hid]
    simp only [hfor]
    rw [hplane, hfor] at hpl
    exact hpl

/-- **`Forget`**, section by section. -/
theorem Quiet.forget (h : Quiet s) (id : SessionID) :
    ∃ s', Reaches S s s' ∧ Quiet s' ∧
      (s'.store, plane S s') = DataPlane.forget s.store (plane S s) id := by
  have hkey : Reaches S s { s with store := s.store.forget id, lock := .forgetting id } :=
    .single (.forgetKey h.free)
  have hcases : ∀ {id' ref}, Function.update s.sessions id none id' = some ref →
      s.sessions id' = some ref := by
    intro id' ref href
    by_cases hid : id' = id
    · subst hid
      simp at href
    · simpa [hid] using href
  refine ⟨_, hkey.tail (.forgetSession rfl),
    ⟨rfl, fun id' ref href => h.valid id' ref (hcases href),
      fun id₁ id₂ ref h₁ h₂ => h.inj id₁ id₂ ref (hcases h₁) (hcases h₂)⟩, ?_⟩
  simp only [DataPlane.forget, plane, Prod.mk.injEq, DataPlane.mk.injEq, true_and]
  funext id'
  by_cases hid : id' = id
  · subst hid
    simp
  · simp [hid]

/-! ## Handshakes -/

/-- **`Admitter.Handshake`**, section by section: it is refused before it registers a key; it
registers a key and takes it back; or it registers a key and answers. -/
theorem Quiet.handshake (h : Quiet s) {L : Type} (leaser : Option (Leaser L))
    (identityPriv : Bytes) (l : L) (now tokenNow : ℤ) (seed : KeySeed) (clientHello : Bytes) :
    ∃ s', Reaches S s s' ∧ Quiet s' ∧ plane S s' = plane S s ∧ s'.store =
      (S.admitter.handshake S.crypto S.tokens leaser identityPriv s.store l now tokenNow seed
        clientHello).2.1 := by
  rcases Admitter.handshake_sections S.crypto S.tokens S.admitter leaser identityPriv s.store l now
      tokenNow seed clientHello with ⟨e, l', heq⟩ | ⟨hello, k, store, hreg, hrest⟩
  · exact ⟨s, .refl, h, rfl, by rw [heq]⟩
  have hregister := Relation.ReflTransGen.single (Step.register (S := S) hreg)
  rcases hrest with ⟨e, l', heq⟩ | ⟨serverHello, claims, ip, l', heq⟩
  · exact ⟨_, hregister.tail (.unwind rfl), ⟨h.free, h.valid, h.inj⟩, rfl, by rw [heq]; rfl⟩
  · exact ⟨_, hregister.tail (.answer rfl), ⟨h.free, h.valid, h.inj⟩, rfl, by rw [heq]; rfl⟩

/-- **`beginHandshake`** in one section. -/
theorem begin_handshake (reg : Registry) (gatewayPub token : Bytes) (outCap : ℕ)
    (random : Except GoError SessionID) (seed : KeySeed) (unixNow : Int64) :
    ∃ s', Reaches S s s' ∧ s'.hsReg =
      ((Bridge.mk s.hsReg reg).beginHandshake S.crypto gatewayPub token outCap random seed
        unixNow).2.hsReg := by
  simp only [Bridge.beginHandshake]
  split
  · exact ⟨s, .refl, rfl⟩
  split
  · exact ⟨s, .refl, rfl⟩
  rename_i hbegin
  split
  · exact ⟨s, .refl, rfl⟩
  · exact ⟨_, .single (.begin hbegin), rfl⟩

/-- **`completeHandshake`**, section by section: the new session is at the end of the heap. -/
theorem complete_handshake (reg : Registry) (hsHandle : UInt64) (serverHello : Bytes)
    (dedupCapacity : ℤ) (ipCap : ℕ) :
    ∃ s' new, Reaches S s s' ∧ s'.heap .initiator = s.heap .initiator ++ new ∧
      s'.hsReg = ((Bridge.mk s.hsReg reg).completeHandshake S.crypto hsHandle serverHello
        dedupCapacity ipCap).2.hsReg ∧
      ((Bridge.mk s.hsReg reg).completeHandshake S.crypto hsHandle serverHello dedupCapacity
        ipCap).2.reg = new.foldl (fun reg session => (reg.add session).2) reg := by
  simp only [Bridge.completeHandshake]
  rcases htake : s.hsReg.take hsHandle with ⟨_ | hs, hsReg⟩
  · have hsame : hsReg = s.hsReg := by
      rw [HSRegistry.take] at htake
      split at htake
      · exact (Prod.mk.inj htake).2.symm
      · cases (Prod.mk.inj htake).1
    exact ⟨s, [], .refl, (List.append_nil _).symm, hsame.symm, rfl⟩
  have htaken : Reaches S s { s with hsReg := hsReg, completing := s.completing ++ [hs] } :=
    .single (.take htake)
  rcases hcomplete : hs.complete S.crypto serverHello dedupCapacity with e | session
  · exact ⟨_, [], htaken.tail (.drop rfl), (List.append_nil _).symm, by simp only [hcomplete],
      by simp only [hcomplete, List.foldl_nil]⟩
  · obtain ⟨hello, hhello, -⟩ := ClientHandshake.complete_ok hcomplete
    exact ⟨_, [session], htaken.tail (.complete rfl hhello hcomplete),
      by simp [State.derive, State.alloc],
      by simp only [hcomplete, State.derive, State.alloc],
      by simp only [hcomplete, List.foldl_cons, List.foldl_nil]⟩

/-- **`cancelHandshake`**, section by section. -/
theorem cancel_handshake (reg : Registry) (hsHandle : UInt64) :
    ∃ s', Reaches S s s' ∧
      s'.hsReg = ((Bridge.mk s.hsReg reg).cancelHandshake hsHandle).hsReg := by
  simp only [Bridge.cancelHandshake]
  rcases hpending : s.hsReg.pending hsHandle with _ | hs
  · exact ⟨s, .refl, by simp [HSRegistry.take, hpending]⟩
  · have htake : s.hsReg.take hsHandle =
        (some hs, { s.hsReg with pending := Function.update s.hsReg.pending hsHandle none }) := by
      simp [HSRegistry.take, hpending]
    have htaken := Step.take (S := S) htake
    exact ⟨_, (Relation.ReflTransGen.single htaken).tail (.drop rfl), by rw [htake]⟩

end Concurrent
end Gemina
