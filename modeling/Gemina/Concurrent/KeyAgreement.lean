/-
# Key agreement over a network that an attacker controls

Honest clients handshake with the gateway while an attacker decides which bytes each of them
receives.  The attacker cannot sign for the gateway: what a client accepts as signed was signed
by the gateway.  The signature covers the session id and the gateway's ephemeral key, and not the
client's: the attacker can replace the client's ephemeral key in a `ClientHello`, and then the
two ends hold different keys.  If the hello that was admitted is the client's, they agree.

The sections of `Admitter.Handshake` are the steps: the key is registered, and then it is taken
back or the answer is signed.  Any registered handshake may do either.
-/
import Gemina.Concurrent.NonceReuse

namespace Gemina
namespace KeyAgreement

open Concurrent

/-! ## The model -/

/-- A handshake that the gateway admitted: what it derived, and the client's ephemeral key that
it read from the hello. -/
structure Admission extends Admitter.Keyed where
  clientEph : Bytes

/-- The gateway and the clients; the network is whatever the attacker makes of it. -/
structure World where
  store : SessionStore
  /-- The `Handshake` calls that have registered their key and not returned yet. -/
  pending : List Admission
  /-- The `Handshake` calls that have returned a signed answer. -/
  answered : List Admission
  /-- The handshakes that clients have begun. -/
  clients : List ClientHandshake
  /-- The handshakes that were completed, each with its session. -/
  completed : List (ClientHandshake × Session)

/-- Before the first handshake. -/
def start : World := ⟨SessionStore.new, [], [], [], []⟩

/-- What the gateway has signed. -/
def World.signed (w : World) : List Bytes :=
  w.answered.map fun a => transcript a.gatewayEphPub a.id

/-- One step.  The byte strings that the gateway and the clients receive are arbitrary. -/
inductive Step (S : Setting) (identityPriv : Bytes) : World → World → Prop
  /-- A client pins the gateway's identity and begins a handshake. -/
  | begin {w : World} {token hello : Bytes} {random : Except GoError SessionID} {seed : KeySeed}
      {unixNow : Int64} {hs : ClientHandshake}
      (hbegin : beginClientHandshake S.crypto (S.crypto.identityPub identityPriv) token random seed
        unixNow = .ok (hello, hs)) :
      Step S identityPriv w { w with clients := w.clients ++ [hs] }
  /-- The gateway receives a hello and registers a key for it. -/
  | register {w : World} {hello : ClientHello} {k : Admitter.Keyed} {store : SessionStore}
      (hreg : S.admitter.RegistersKey S.crypto S.tokens w.store hello k store) :
      Step S identityPriv w { w with
        store := store
        pending := w.pending ++ [⟨k, hello.ephemeralPub⟩] }
  /-- The gateway signs its answer. -/
  | answer {w : World} {before after : List Admission} {a : Admission}
      (hpending : w.pending = before ++ a :: after) :
      Step S identityPriv w { w with
        pending := before ++ after
        answered := w.answered ++ [a] }
  /-- The gateway takes the key back. -/
  | unwind {w : World} {before after : List Admission} {a : Admission}
      (hpending : w.pending = before ++ a :: after) :
      Step S identityPriv w { w with
        store := w.store.forget a.id
        pending := before ++ after }
  /-- A client completes its handshake.  Signatures cannot be forged: the gateway has signed what
  the client verified. -/
  | complete {w : World} {hs : ClientHandshake} {serverHello : Bytes} {dedupCapacity : ℤ}
      {hello : ServerHello} {session : Session} (hclient : hs ∈ w.clients)
      (hhello : decodeServerHello serverHello = .ok hello)
      (hsigned : transcript hello.ephemeralPub hello.id ∈ w.signed)
      (hcomplete : hs.complete S.crypto serverHello dedupCapacity = .ok session) :
      Step S identityPriv w { w with completed := w.completed ++ [(hs, session)] }

/-- The states that a run can reach. -/
def Reaches (S : Setting) (identityPriv : Bytes) (w w' : World) : Prop :=
  Relation.ReflTransGen (Step S identityPriv) w w'

/-- **`Admitter.Handshake`** as a sequence of steps, with any leaser. -/
theorem handshake_steps {S : Setting} {identityPriv : Bytes} {L : Type}
    (leaser : Option (Leaser L)) (w : World) (l : L) (now tokenNow : ℤ) (seed : KeySeed)
    (clientHello : Bytes) :
    ∃ w', Reaches S identityPriv w w' ∧ w'.store = (S.admitter.handshake S.crypto S.tokens leaser
        identityPriv w.store l now tokenNow seed clientHello).2.1 ∧
      ∀ answer, (S.admitter.handshake S.crypto S.tokens leaser identityPriv w.store l now tokenNow
        seed clientHello).1 = .ok answer →
        ∃ a, w'.answered = w.answered ++ [a] ∧ a.id = answer.id := by
  rcases Admitter.handshake_sections S.crypto S.tokens S.admitter leaser identityPriv w.store l now
      tokenNow seed clientHello with ⟨e, l', heq⟩ | ⟨hello, k, store, hreg, hrest⟩
  · exact ⟨w, .refl, by rw [heq], by simp [heq]⟩
  have hregister : Reaches S identityPriv w _ := .single (.register hreg)
  rcases hrest with ⟨e, l', heq⟩ | ⟨serverHello, claims, ip, l', heq⟩
  · exact ⟨_, hregister.tail (.unwind rfl), by rw [heq], by simp [heq]⟩
  · refine ⟨_, hregister.tail (.answer rfl), by rw [heq], fun answer hanswer => ⟨_, rfl, ?_⟩⟩
    rw [heq, Except.ok.injEq] at hanswer
    rw [← hanswer]

/-! ## The invariant -/

/-- The key of an admission was derived from the gateway's ephemeral key and the one in the
hello. -/
def Admission.Derived (C : Crypto) (a : Admission) : Prop :=
  ∃ priv : ByteArrayN x25519PrivSize, a.gatewayEphPub = C.publicKey priv.1 ∧
    deriveSessionKey C priv.1 a.clientEph a.id = .ok a.key

/-- The client derived its key from its own ephemeral key and the gateway's in this admission. -/
structure Completes (C : Crypto) (a : Admission) (hs : ClientHandshake) (session : Session) :
    Prop where
  id_eq : a.id = hs.sessionID
  session_id : session.id = hs.sessionID
  derived : deriveSessionKey C hs.ephemeralPriv a.gatewayEphPub a.id = .ok session.key.1

/-- The admissions that were not taken back have their keys in the store, under different ids;
and who completed a handshake has the gateway's ephemeral key from one of them. -/
structure Inv (C : Crypto) (w : World) : Prop where
  stored : ∀ a ∈ w.pending ++ w.answered, w.store.keys a.id = some a.key
  derived : ∀ a ∈ w.pending ++ w.answered, a.Derived C
  ids : ((w.pending ++ w.answered).map fun a => a.id).Nodup
  completed : ∀ p ∈ w.completed, ∃ a ∈ w.answered, Completes C a p.1 p.2

lemma inv_start (C : Crypto) : Inv C start :=
  ⟨by simp [start], by simp [start], by simp [start], by simp [start]⟩

variable {S : Setting} {identityPriv : Bytes} {w w' : World}

/-- A call that returns moves from the pending ones to the end of the answered ones. -/
lemma perm_answer (before after l : List Admission) (a : Admission) :
    ((before ++ a :: after) ++ l).Perm ((before ++ after) ++ (l ++ [a])) := by
  have hmiddle : ((before ++ a :: after) ++ l).Perm (a :: (before ++ after ++ l)) := by
    simp
  refine hmiddle.trans ?_
  simpa using (List.perm_append_singleton a (before ++ after ++ l)).symm

/-- **Every step keeps the invariant.** -/
lemma Inv.step (h : Inv S.crypto w) (hstep : Step S identityPriv w w') : Inv S.crypto w' := by
  cases hstep with
  | begin => exact ⟨h.stored, h.derived, h.ids, h.completed⟩
  | @register hello k store hreg =>
    obtain ⟨hnone, hstore, hderived⟩ := hreg.spec
    -- the id had no key, so no other admission has it
    have hnew : ∀ a ∈ w.pending ++ w.answered, a.id ≠ k.id := by
      intro a ha heq
      have hkey := h.stored a ha
      rw [heq, hnone] at hkey
      cases hkey
    have hperm : ((w.pending ++ [(⟨k, hello.ephemeralPub⟩ : Admission)]) ++ w.answered).Perm
        (⟨k, hello.ephemeralPub⟩ :: (w.pending ++ w.answered)) := by
      simp
    refine ⟨fun a ha => ?_, fun a ha => ?_, ?_, h.completed⟩
    · rcases List.mem_cons.mp (hperm.mem_iff.mp ha) with rfl | ha
      · simp [hstore]
      · rw [hstore, Function.update_of_ne (hnew a ha)]
        exact h.stored a ha
    · rcases List.mem_cons.mp (hperm.mem_iff.mp ha) with rfl | ha
      · exact hderived
      · exact h.derived a ha
    · rw [(hperm.map _).nodup_iff, List.map_cons, List.nodup_cons]
      refine ⟨fun hmem => ?_, h.ids⟩
      obtain ⟨a, ha, heq⟩ := List.mem_map.mp hmem
      exact hnew a ha heq
  | @answer before after a hpending =>
    have hperm := perm_answer before after w.answered a
    rw [← hpending] at hperm
    refine ⟨fun a' ha' => h.stored a' (hperm.mem_iff.mpr ha'),
      fun a' ha' => h.derived a' (hperm.mem_iff.mpr ha'), ?_, fun p hp => ?_⟩
    · exact (hperm.map _).nodup_iff.mp h.ids
    · obtain ⟨a', ha', hc⟩ := h.completed p hp
      exact ⟨a', List.mem_append_left _ ha', hc⟩
  | @unwind before after a hpending =>
    have hperm : (w.pending ++ w.answered).Perm (a :: ((before ++ after) ++ w.answered)) := by
      rw [hpending]
      simp
    have hids := (hperm.map fun a => a.id).nodup_iff.mp h.ids
    rw [List.map_cons, List.nodup_cons] at hids
    have hkept : ∀ a' ∈ (before ++ after) ++ w.answered, a' ∈ w.pending ++ w.answered :=
      fun a' ha' => hperm.mem_iff.mpr (List.mem_cons_of_mem _ ha')
    refine ⟨fun a' ha' => ?_, fun a' ha' => h.derived a' (hkept a' ha'), hids.2, h.completed⟩
    have hne : a'.id ≠ a.id := fun heq => hids.1 (List.mem_map.mpr ⟨a', ha', heq⟩)
    simpa [SessionStore.forget, hne] using h.stored a' (hkept a' ha')
  | @complete hs serverHello dedupCapacity hello session hclient hhello hsigned hcomplete =>
    refine ⟨h.stored, h.derived, h.ids, fun p hp => ?_⟩
    rcases List.mem_append.mp hp with hp | hp
    · exact h.completed p hp
    rw [List.mem_singleton.mp hp]
    obtain ⟨a, ha, htranscript⟩ := List.mem_map.mp hsigned
    obtain ⟨hid, heph⟩ := transcript_inj htranscript
    obtain ⟨sh, hdec, hsh, -, hderive, -, hsid, -⟩ := ClientHandshake.complete_ok hcomplete
    rw [hhello, Except.ok.injEq] at hdec
    subst hdec
    refine ⟨a, ha, hid.trans hsh, hsid, ?_⟩
    rw [heph, hid]
    exact hderive

/-! ## The result -/

/-- **Key agreement.**  Whatever the attacker does, if a client has completed a handshake for a
session id, then the gateway has admitted the id in a handshake with the ephemeral key that the
client derived its key from, and has the key of this handshake in its store.  This is the
client's key, if the hello that the gateway admitted carries the client's ephemeral key. -/
theorem key_agreement (hC : S.crypto.Lawful) (hrun : Reaches S identityPriv start w)
    {hs : ClientHandshake} {session : Session} (hcompleted : (hs, session) ∈ w.completed) :
    ∃ a ∈ w.answered, a.id = hs.sessionID ∧ session.id = hs.sessionID ∧
      w.store.sessionKey hs.sessionID = some a.key ∧
      deriveSessionKey S.crypto hs.ephemeralPriv a.gatewayEphPub hs.sessionID = .ok session.key.1 ∧
      (a.clientEph = S.crypto.publicKey hs.ephemeralPriv → a.key = session.key.1) := by
  have hinv : Inv S.crypto w := by
    clear hcompleted
    induction hrun with
    | refl => exact inv_start _
    | tail _ hstep ih => exact ih.step hstep
  obtain ⟨a, ha, hc⟩ := hinv.completed _ hcompleted
  have hmem : a ∈ w.pending ++ w.answered := List.mem_append_right _ ha
  have hderive := hc.derived
  simp only [hc.id_eq] at hderive
  refine ⟨a, ha, hc.id_eq, hc.session_id, ?_, hderive, fun heph => ?_⟩
  · rw [← hc.id_eq]
    exact hinv.stored a hmem
  · obtain ⟨priv, hpub, hkey⟩ := hinv.derived a hmem
    have hagree := deriveSessionKey_comm hC priv.2 (length_of_deriveSessionKey hderive) a.id
    rw [← heph, hkey, ← hpub, hc.derived] at hagree
    exact Except.ok.inj hagree

section Sample

set_option maxRecDepth 8000

/-- The gateway's identity in the examples. -/
def sampleIdentity : Bytes := List.replicate 32 7

/-- The client's hello as the attacker changes it: with an ephemeral key of fives. -/
def substitutedHello : Bytes :=
  handshakeHeader msgClientHello sampleID ++ putUint64 0 ++ List.replicate 32 5 ++ putUint16 0

/-- What the gateway derives from it, with an ephemeral key of threes. -/
def substitutedKeyed : Admitter.Keyed :=
  ⟨sampleID, [], List.replicate 32 9, List.replicate 32 3⟩

lemma begin_sample : beginClientHandshake openSetting.crypto
    (openSetting.crypto.identityPub sampleIdentity) [] (.ok sampleID)
    (.ok ⟨List.replicate 32 2, rfl⟩) 0 = .ok (helloFrom 1, sampleHandshake) := rfl

/-- A client and the gateway agree when the hello arrives as it was sent. -/
theorem key_agreement_sample :
    ∃ w session, Reaches openSetting sampleIdentity start w ∧
      (sampleHandshake, session) ∈ w.completed ∧
      w.store.sessionKey sampleID = some session.key.1 := by
  have hkeyed : openSetting.admitter.handshakeKey openSetting.crypto 0
      (.ok ⟨List.replicate 32 3, rfl⟩) (helloFrom 1) = .ok sampleKeyed := rfl
  obtain ⟨session, hsession⟩ : ∃ session, sampleHandshake.complete openSetting.crypto
      (helloWith 3 (ByteArrayN.zero _)) 64 = .ok session := ⟨_, rfl⟩
  have h₁ := Relation.ReflTransGen.single (@Step.begin openSetting sampleIdentity start _ _ _ _ _ _
    begin_sample)
  have h₂ := h₁.tail (.register (.intro 0 rfl hkeyed rfl))
  have h₃ := h₂.tail (@Step.answer _ _ _ [] [] ⟨sampleKeyed, List.replicate 32 2⟩ rfl)
  have h₄ := h₃.tail (.complete (List.mem_singleton.mpr rfl) rfl (List.mem_singleton.mpr rfl)
    hsession)
  obtain ⟨a, ha, -, -, hstore, -, hagree⟩ := key_agreement sumCrypto_lawful h₄
    (List.mem_singleton.mpr rfl)
  refine ⟨_, session, h₄, List.mem_singleton.mpr rfl, ?_⟩
  rw [← hagree (by rw [List.mem_singleton.mp ha]; rfl)]
  exact hstore

/-- **The attacker can make the two ends disagree.**  The client accepts the gateway's signature,
and the gateway has derived its key from the ephemeral key that the attacker put into the
hello. -/
theorem substituted_ephemeral_disagrees :
    ∃ w session, Reaches openSetting sampleIdentity start w ∧
      (sampleHandshake, session) ∈ w.completed ∧ session.key.1 = List.replicate 32 6 ∧
      w.store.sessionKey sampleID = some (List.replicate 32 9) := by
  have hkeyed : openSetting.admitter.handshakeKey openSetting.crypto 0
      (.ok ⟨List.replicate 32 3, rfl⟩) substitutedHello = .ok substitutedKeyed := rfl
  obtain ⟨session, hsession, hkey⟩ : ∃ session, sampleHandshake.complete openSetting.crypto
      (helloWith 3 (ByteArrayN.zero _)) 64 = .ok session ∧ session.key.1 = List.replicate 32 6 :=
    ⟨_, rfl, rfl⟩
  have h₁ := Relation.ReflTransGen.single (@Step.begin openSetting sampleIdentity start _ _ _ _ _ _
    begin_sample)
  have h₂ := h₁.tail (.register (.intro 0 rfl hkeyed rfl))
  have h₃ := h₂.tail (@Step.answer _ _ _ [] [] ⟨substitutedKeyed, List.replicate 32 5⟩ rfl)
  have h₄ := h₃.tail (.complete (List.mem_singleton.mpr rfl) rfl (List.mem_singleton.mpr rfl)
    hsession)
  exact ⟨_, session, h₄, List.mem_singleton.mpr rfl, hkey, rfl⟩

end Sample

end KeyAgreement
end Gemina
