/-
# Completing a handshake more than once

`ClientHandshake.Complete` keeps the state that it derives the key from.  A client that receives
the `ServerHello` over two paths and completes the handshake with both copies has two sessions
with the same key, and both number their packets from one.  As long as no gateway's ephemeral key
is completed with twice, no key is used twice with the same nonce, if different ephemeral keys
give different session keys.
-/
import Gemina.Lib.Mealy
import Gemina.Concurrent.NonceReuse

namespace Gemina
namespace Completion

open Concurrent

/-- The sessions that `Complete` has returned, and the seal operations that they made. -/
structure State where
  sessions : List Session
  seals : List SealOp
  /-- The gateway's ephemeral keys that `Complete` has returned a session for. -/
  completed : List Bytes

/-- Before the first call. -/
def start : State := ⟨[], [], []⟩

/-- A call of `Complete` on the handshake, or of `Outbound` on one of the sessions. -/
inductive Call where
  | complete (serverHello : Bytes) (dedupCapacity : ℤ)
  | outbound (ref : ℕ) (payload : Bytes)

/-- The gateway's ephemeral key in a `ServerHello`. -/
def ephemeralIn (serverHello : Bytes) : Option Bytes :=
  (decodeServerHello serverHello).toOption.map ServerHello.ephemeralPub

/-- One call; the output is the frame, if one was made. -/
def step (C : Crypto) (E : Cipher) (hs : ClientHandshake) (s : State) : Call → Option Bytes × State
  | .complete serverHello dedupCapacity =>
    match hs.complete C serverHello dedupCapacity with
    | .error _ => (none, s)
    | .ok session => (none, { s with
        sessions := s.sessions ++ [session]
        completed := s.completed ++ (ephemeralIn serverHello).toList })
  | .outbound ref payload =>
    match s.sessions[ref]? with
    | none => (none, s)
    | some session =>
      match session.outbound E payload with
      | (.error _, _) => (none, s)
      | (.ok frame, session') =>
        (some frame, { s with
          sessions := s.sessions.set ref session'
          seals := s.seals ++ [.ofOutbound .initiator ref session payload frame] })

/-- The state after a sequence of calls. -/
def after (C : Crypto) (E : Cipher) (hs : ClientHandshake) (calls : List Call) : State :=
  Mealy.state (step C E hs) start calls

/-- `Complete` is called only with a `ServerHello` whose ephemeral key it has returned no session
for, and `Outbound` only on a session that has not used up its numbers. -/
def Allowed (s : State) : Call → Prop
  | .complete serverHello _ => ∀ pub, ephemeralIn serverHello = some pub → pub ∉ s.completed
  | .outbound ref _ => (numbers s.seals .initiator ref).length < 2 ^ 64

/-- The gateway's ephemeral keys that `Complete` is called with. -/
def ephemerals (calls : List Call) : List Bytes :=
  calls.filterMap fun
    | .complete serverHello _ => ephemeralIn serverHello
    | .outbound _ _ => none

/-- The handshake derives different session keys from different ephemeral keys of the list. -/
def DerivesInjectively (C : Crypto) (hs : ClientHandshake) (pubs : List Bytes) : Prop :=
  ∀ p ∈ pubs, ∀ q ∈ pubs, ∀ key, deriveSessionKey C hs.ephemeralPriv p hs.sessionID = .ok key →
    deriveSessionKey C hs.ephemeralPriv q hs.sessionID = .ok key → p = q

/-- The sessions as a heap with one side. -/
def State.heap (s : State) : Role → List Session :=
  Function.update (fun _ => []) .initiator s.sessions

lemma State.heap_initiator (s : State) : s.heap .initiator = s.sessions := by
  simp [State.heap]

lemma State.update_heap (s : State) (sessions : List Session) :
    Function.update s.heap .initiator sessions
      = Function.update (fun _ => []) .initiator sessions := by
  simp [State.heap]

/-- The sessions have different keys, which were derived from the ephemeral keys that were completed
with, and their seal operations are in order. -/
structure Inv (C : Crypto) (hs : ClientHandshake) (pubs : List Bytes) (s : State) : Prop where
  keys : (keysOf s.sessions).Nodup
  derived : ∀ key ∈ keysOf s.sessions,
    ∃ p ∈ s.completed, deriveSessionKey C hs.ephemeralPriv p hs.sessionID = .ok key
  completed : ∀ p ∈ s.completed, p ∈ pubs
  seals : SealInv s.heap s.seals

variable {C : Crypto} {E : Cipher} {hs : ClientHandshake} {s : State} {pubs : List Bytes}

/-- A session for an ephemeral key that was not completed with has a new key, and it has sealed
nothing. -/
lemma Inv.complete (h : Inv C hs pubs s) (hinj : DerivesInjectively C hs pubs) {session : Session}
    (hrole : session.role = .initiator) (hnext : session.next = 0) {pub : Bytes} (hpub : pub ∈ pubs)
    (hderive : deriveSessionKey C hs.ephemeralPriv pub hs.sessionID = .ok session.key.1)
    (hnew : pub ∉ s.completed) :
    Inv C hs pubs { s with
      sessions := s.sessions ++ [session], completed := s.completed ++ [pub] } := by
  have hkey : session.key.1 ∉ keysOf s.sessions := by
    intro hmem
    obtain ⟨p, hp, hp_derive⟩ := h.derived _ hmem
    rw [hinj p (h.completed p hp) pub hpub _ hp_derive hderive] at hp
    exact hnew hp
  refine ⟨?_, fun key hmem => ?_, fun p hp => ?_, ?_⟩
  · rw [keysOf, List.map_append, List.map_singleton, List.nodup_append_singleton]
    exact ⟨hkey, h.keys⟩
  · rw [keysOf, List.map_append, List.map_singleton, List.mem_append, List.mem_singleton] at hmem
    rcases hmem with hmem | rfl
    · obtain ⟨p, hp, hp_derive⟩ := h.derived key hmem
      exact ⟨p, List.mem_append_left _ hp, hp_derive⟩
    · exact ⟨pub, List.mem_append_right _ (List.mem_singleton.mpr rfl), hderive⟩
  · rcases List.mem_append.mp hp with hp | hp
    · exact h.completed p hp
    · rwa [List.mem_singleton.mp hp]
  · have hseals := h.seals.alloc hrole hnext
    rw [s.heap_initiator, s.update_heap] at hseals
    exact hseals

/-- A session seals a packet. -/
lemma Inv.outbound (h : Inv C hs pubs s) {ref : ℕ} {session : Session} (payload frame : Bytes)
    (hsession : s.sessions[ref]? = some session)
    (hfew : (numbers s.seals .initiator ref).length < 2 ^ 64) :
    Inv C hs pubs { s with
      sessions := s.sessions.set ref { session with next := session.next + 1 }
      seals := s.seals ++ [.ofOutbound .initiator ref session payload frame] } := by
  have hheap : (s.heap .initiator)[ref]? = some session := by rw [s.heap_initiator, hsession]
  have hset : keysOf (s.sessions.set ref { session with next := session.next + 1 })
      = keysOf s.sessions := keysOf_set hsession rfl
  refine ⟨hset ▸ h.keys, hset ▸ h.derived, h.completed, ?_⟩
  · have hkeys : (keysOf (s.heap .initiator)).Nodup := by
      rw [s.heap_initiator]
      exact h.keys
    have hseals := h.seals.outbound hheap hkeys hfew payload frame
    rw [s.heap_initiator, s.update_heap] at hseals
    exact hseals

/-- **Every allowed call keeps the invariant.** -/
lemma Inv.step (h : Inv C hs pubs s) (hinj : DerivesInjectively C hs pubs) {c : Call}
    (hc : Allowed s c) (hpubs : ∀ p ∈ ephemerals [c], p ∈ pubs) :
    Inv C hs pubs (Completion.step C E hs s c).2 := by
  cases c with
  | complete serverHello dedupCapacity =>
    simp only [Completion.step]
    rcases hcomplete : hs.complete C serverHello dedupCapacity with e | session
    · exact h
    · obtain ⟨sh, hdec, hid, -, hderive, -, -, -, hrole, hnext⟩ :=
        ClientHandshake.complete_ok hcomplete
      have hpub : ephemeralIn serverHello = some sh.ephemeralPub := by
        simp [ephemeralIn, hdec, Except.toOption]
      rw [hid] at hderive
      simp only [hpub, Option.toList_some]
      exact h.complete hinj hrole hnext (hpubs _ (by simp [ephemerals, hpub])) hderive
        (hc _ hpub)
  | outbound ref payload =>
    simp only [Completion.step]
    rcases hsession : s.sessions[ref]? with _ | session
    · exact h
    rcases hout : session.outbound E payload with ⟨e | frame, session'⟩
    · simp only [hout]
      exact h
    · simp only [hout]
      obtain ⟨-, rfl⟩ := Session.outbound_ok hout
      exact h.outbound payload frame hsession hc

/-- A call logs the seal operation of the frame that it returns. -/
lemma seals_step (c : Call) :
    ∃ sealed : List SealOp, (Completion.step C E hs s c).2.seals = s.seals ++ sealed ∧
      sealed.map SealOp.frame = (Completion.step C E hs s c).1.toList ∧
      ∀ x ∈ sealed, x.Framed E := by
  cases c with
  | complete serverHello dedupCapacity =>
    simp only [Completion.step]
    rcases hs.complete C serverHello dedupCapacity with e | session <;> exact ⟨[], by simp⟩
  | outbound ref payload =>
    simp only [Completion.step]
    rcases s.sessions[ref]? with _ | session
    · exact ⟨[], by simp⟩
    rcases hout : session.outbound E payload with ⟨e | frame, session'⟩
    · exact ⟨[], by simp [hout]⟩
    · simp only [hout]
      refine ⟨_, rfl, rfl, ?_⟩
      intro x hx
      rw [List.mem_singleton.mp hx]
      exact SealOp.framed_ofOutbound hout .initiator ref

/-- The frames that a run returns are those of the log. -/
lemma seals_run (C : Crypto) (E : Cipher) (hs : ClientHandshake) (calls : List Call) :
    (after C E hs calls).seals.map SealOp.frame
      = (Mealy.trace (step C E hs) start calls).filterMap Prod.snd ∧
    ∀ x ∈ (after C E hs calls).seals, x.Framed E := by
  refine @Mealy.invariant _ _ _ (step C E hs) start
    (fun t s => s.seals.map SealOp.frame = t.filterMap Prod.snd ∧ ∀ x ∈ s.seals, x.Framed E)
    ⟨rfl, List.forall_mem_nil _⟩ ?_ calls
  rintro t s c ⟨hframes, hframed⟩
  obtain ⟨sealed, hseals, hnew, hsealed⟩ := @seals_step C E hs s c
  rw [hseals, List.map_append, hframes, hnew, List.filterMap_append, List.forall_mem_append]
  refine ⟨?_, hframed, hsealed⟩
  cases (Completion.step C E hs s c).1 <;> rfl

lemma inv_start (C : Crypto) (hs : ClientHandshake) (pubs : List Bytes) : Inv C hs pubs start := by
  refine ⟨List.nodup_nil, by simp [start, keysOf], by simp [start], ?_⟩
  have hheap : start.heap = fun _ => [] := Function.update_eq_self _ _
  rw [hheap]
  exact SealInv.start

/-- **No nonce is used twice by the sessions of one handshake.**  For every sequence of `Complete`
calls with any byte strings, interleaved with `Outbound` calls on the sessions that they return: if
no ephemeral key of the gateway is completed with twice, the handshake derives different keys from
those that it is given, and no session makes more than `2 ^ 64` frames, then no two frames were
sealed with the same key and nonce.  The frames that the calls return are those of the seal
operations. -/
theorem no_nonce_reuse_after_complete (C : Crypto) (E : Cipher) (hs : ClientHandshake)
    (calls : List Call) (hinj : DerivesInjectively C hs (ephemerals calls))
    (hallowed : Mealy.Along (step C E hs) Allowed start calls) :
    ((after C E hs calls).seals.map fun x => (x.key, x.nonce)).Nodup ∧
    (after C E hs calls).seals.map SealOp.frame
      = (Mealy.trace (step C E hs) start calls).filterMap Prod.snd ∧
    ∀ x ∈ (after C E hs calls).seals, x.Framed E := by
  have hinv : Inv C hs (ephemerals calls) (after C E hs calls) := by
    refine hallowed.invariant_mem (inv_start C hs _) fun s c hmem h hc => ?_
    refine h.step hinj hc fun p hp => ?_
    exact List.mem_filterMap.mpr ⟨c, hmem, by simpa [ephemerals] using hp⟩
  exact ⟨hinv.seals.nodup, seals_run C E hs calls⟩

section Sample

set_option maxRecDepth 8000

/-- The sample handshake is completed, with a gateway's ephemeral key of `n`s. -/
def completeWith (n : UInt8) : Call := .complete (helloWith n (ByteArrayN.zero _)) 64

/-- Two answers with different ephemeral keys give sessions with different keys. -/
theorem no_nonce_reuse_after_complete_two :
    let calls := [completeWith 3, .outbound 0 [], completeWith 4, .outbound 1 []]
    let s := after sumCrypto checksumCipher sampleHandshake calls
    s.sessions.map (fun x => x.key.1) = [List.replicate 32 6, List.replicate 32 7] ∧
      (s.seals.map fun x => (x.key, x.nonce)).Nodup := by
  intro calls s
  have hpub : ∀ n, ephemeralIn (helloWith n (ByteArrayN.zero _)) = some (List.replicate 32 n) :=
    fun _ => rfl
  refine ⟨rfl, (no_nonce_reuse_after_complete sumCrypto checksumCipher sampleHandshake calls ?_
    ⟨?_, ?_, ?_, ?_, trivial⟩).1⟩
  · -- the two ephemeral keys give keys of sixes and of sevens
    have hthree : deriveSessionKey sumCrypto (List.replicate 32 2) (List.replicate 32 3) sampleID
        = .ok (List.replicate 32 6) := rfl
    have hfour : deriveSessionKey sumCrypto (List.replicate 32 2) (List.replicate 32 4) sampleID
        = .ok (List.replicate 32 7) := rfl
    have hne : (.ok (List.replicate 32 6) : Except GoError Bytes) ≠ .ok (List.replicate 32 7) := by
      simp
    intro p hp q hq key hkeyp hkeyq
    have heq := hkeyp.trans hkeyq.symm
    have hmem : ∀ p ∈ ephemerals calls, p = List.replicate 32 3 ∨ p = List.replicate 32 4 := by
      intro p hp
      simpa [calls, ephemerals, completeWith, hpub] using hp
    rcases hmem p hp with rfl | rfl <;> rcases hmem q hq with rfl | rfl
    · rfl
    · exact absurd (hthree.symm.trans (heq.trans hfour)) hne
    · exact absurd (hthree.symm.trans (heq.symm.trans hfour)) hne
    · rfl
  · intro pub _
    exact List.not_mem_nil
  · show (0 : ℕ) < 2 ^ 64
    decide
  · intro pub hmem
    rw [hpub, Option.some.injEq] at hmem
    subst hmem
    show List.replicate 32 (4 : UInt8) ∉ [List.replicate 32 (3 : UInt8)]
    decide
  · show (0 : ℕ) < 2 ^ 64
    decide

/-- **A second copy of the `ServerHello` makes a second session with the same key.**  Both seal
their first packet with the same nonce. -/
theorem nonce_reuse_after_second_complete :
    (after sumCrypto checksumCipher sampleHandshake
      [completeWith 3, completeWith 3, .outbound 0 [8], .outbound 1 [9]]).seals.map
        (fun x => (x.key, x.nonce)) =
    [(List.replicate 32 6, nonce dirInitiator 1), (List.replicate 32 6, nonce dirInitiator 1)] :=
  rfl

end Sample

end Completion
end Gemina
