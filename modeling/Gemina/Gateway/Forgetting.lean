/-
# Sessions that were forgotten

`DataPlane.Forget` drops a session from the cache and, if the key resolver has a method for it,
makes the resolver forget the key.  A session that is dropped takes its replay window and its
counter with it.  So everything depends on the resolver: as long as it reports no key for a
session that carried traffic and was forgotten, no datagram is accepted twice and no number is
used twice; a resolver with a fixed table of keys brings the session back as a new one.
-/
import Gemina.Lib.Mealy
import Gemina.ClientCore.Handshake
import Gemina.Gateway.Delivery

namespace Gemina

variable {R : Type}

/-! ## Key resolvers -/

/-- A `KeyResolver` with the state `R`: `SessionKey`, and `Forget` if the type has it. -/
structure Resolver (R : Type) where
  sessionKey : R → SessionID → Option Bytes
  forget : Option (R → SessionID → R)

namespace Resolver

/-- A table of keys, as a self-hosted gateway may load it from its configuration. -/
def static : Resolver (SessionID → Option Bytes) := ⟨fun keys id => keys id, none⟩

/-- `SessionStore` as a key resolver. -/
def sessionStore : Resolver SessionStore := ⟨SessionStore.sessionKey, some SessionStore.forget⟩

/-- The key is forgotten if the resolver can forget. -/
def forgetKey (f : Resolver R) (r : R) (id : SessionID) : R :=
  match f.forget with
  | some forget => forget r id
  | none => r

end Resolver

/-- `DataPlane.Forget`, over any resolver. -/
def DataPlane.forgetOver (f : Resolver R) (r : R) (d : DataPlane) (id : SessionID) :
    R × DataPlane :=
  (f.forgetKey r id, { d with sessions := Function.update d.sessions id none })

namespace Forgetting

/-! ## Runs -/

/-- The data plane and its resolver. -/
structure Plane (R : Type) where
  resolver : R
  dataPlane : DataPlane

/-- A call on the data plane; and whatever else happens to the resolver. -/
inductive Call (R : Type) where
  | handleClassified (datagram : Bytes)
  | frameReturn (id : SessionID) (payload : Bytes)
  | forget (id : SessionID)
  | change (resolver : R)

/-- What a call returns. -/
inductive Reply where
  | classified (result : Except GoError (Bytes × ReplayDecision))
  | framed (result : Except GoError Bytes)
  | nothing

/-- One call. -/
def step (E : Cipher) (f : Resolver R) (s : Plane R) : Call R → Reply × Plane R
  | .handleClassified datagram =>
    let (result, d) := s.dataPlane.handleClassified E (f.sessionKey s.resolver) datagram
    (.classified result, ⟨s.resolver, d⟩)
  | .frameReturn id payload =>
    let (result, d) := s.dataPlane.frameReturn E (f.sessionKey s.resolver) id payload
    (.framed result, ⟨s.resolver, d⟩)
  | .forget id =>
    let (r, d) := s.dataPlane.forgetOver f s.resolver id
    (.nothing, ⟨r, d⟩)
  | .change resolver => (.nothing, ⟨resolver, s.dataPlane⟩)

/-- The calls of a run and what they returned. -/
abbrev Trace (R : Type) : Type := List (Call R × Reply)

/-- Before the first call. -/
def start (r : R) (capacity : ℤ) : Plane R := ⟨r, newDataPlane capacity⟩

/-- The trace of a sequence of calls. -/
def run (E : Cipher) (f : Resolver R) (r : R) (capacity : ℤ) (calls : List (Call R)) : Trace R :=
  Mealy.trace (step E f) (start r capacity) calls

/-! ## Reading a trace -/

/-- The datagrams that were returned as first copies. -/
def firstCopies (t : Trace R) : List Bytes :=
  t.filterMap fun
    | (.handleClassified datagram, .classified (.ok (_, .firstCopy))) => some datagram
    | _ => none

/-- The packet identity in the header of a datagram. -/
def identity (datagram : Bytes) : Option PacketID := (parseHeader datagram).toOption.map Prod.fst

/-- The packet number in the header of a frame, also if it is zero. -/
def headerNumber (frame : Bytes) : PacketNumber := uint64 (frame.drop (6 + sessionIDSize))

/-- The identities of the first copies. -/
def accepted (t : Trace R) : List PacketID := (firstCopies t).filterMap identity

/-- The identities of the frames that `FrameReturn` made. -/
def framed (t : Trace R) : List PacketID :=
  t.filterMap fun
    | (.frameReturn id _, .framed (.ok frame)) => some ⟨id, headerNumber frame⟩
    | _ => none

/-- The session has carried traffic. -/
def Carried (t : Trace R) (id : SessionID) : Prop :=
  numbersFor (accepted t) id ≠ [] ∨ numbersFor (framed t) id ≠ []

/-- The session was forgotten after it had carried traffic. -/
def Ended (t : Trace R) (id : SessionID) : Prop :=
  ∃ t₁ o t₂, t = t₁ ++ (.forget id, o) :: t₂ ∧ Carried t₁ id

/-- The session that a call works on. -/
def Call.session : Call R → Option SessionID
  | .handleClassified datagram => (sessionIDFromDatagram datagram).toOption
  | .frameReturn id _ => some id
  | _ => none

lemma firstCopies_append (t u : Trace R) : firstCopies (t ++ u) = firstCopies t ++ firstCopies u :=
  List.filterMap_append

lemma accepted_append (t u : Trace R) : accepted (t ++ u) = accepted t ++ accepted u := by
  rw [accepted, firstCopies_append, List.filterMap_append, accepted, accepted]

lemma framed_append (t u : Trace R) : framed (t ++ u) = framed t ++ framed u :=
  List.filterMap_append

lemma Ended.concat {t : Trace R} {id : SessionID} (h : Ended t id) (e : Call R × Reply) :
    Ended (t ++ [e]) id := by
  obtain ⟨t₁, o, t₂, rfl, hcarried⟩ := h
  exact ⟨t₁, o, t₂ ++ [e], by simp, hcarried⟩

/-! ## The invariant -/

variable {E : Cipher} {f : Resolver R} {t : Trace R} {s : Plane R} {id : SessionID}

/-- A session that is kept has accepted and framed what the trace says, and one that is not kept
has carried nothing or is ended.  No datagram was accepted twice. -/
structure Inv (t : Trace R) (s : Plane R) : Prop where
  kept : ∀ id session, s.dataPlane.sessions id = some session →
    session.window.HasAccepted (numbersFor (accepted t) id) ∧
      session.HasFramed (numbersFor (framed t) id)
  unkept : ∀ id, s.dataPlane.sessions id = none → ¬ Carried t id ∨ Ended t id
  framed_from_one : ∀ id, ∃ session : Session, session.HasFramed (numbersFor (framed t) id)
  nodup : (firstCopies t).Nodup

/-- An event that neither accepts nor frames. -/
structure Silent (e : Call R × Reply) : Prop where
  copies : firstCopies [e] = []
  framed : framed [e] = []

lemma Silent.accepted_concat {e : Call R × Reply} (he : Silent e) (t : Trace R) :
    accepted (t ++ [e]) = accepted t := by
  rw [accepted_append, accepted, accepted, he.copies, List.filterMap_nil, List.append_nil]

lemma Silent.framed_concat {e : Call R × Reply} (he : Silent e) (t : Trace R) :
    Forgetting.framed (t ++ [e]) = Forgetting.framed t := by
  rw [framed_append, he.framed, List.append_nil]

/-- A silent event may drop sessions that have carried nothing or are ended. -/
lemma Inv.silent (h : Inv t s) {e : Call R × Reply} (he : Silent e) {s' : Plane R}
    (hsessions : ∀ id, s'.dataPlane.sessions id = s.dataPlane.sessions id ∨
      s'.dataPlane.sessions id = none ∧ (¬ Carried t id ∨ Ended (t ++ [e]) id)) :
    Inv (t ++ [e]) s' := by
  have ha := he.accepted_concat t
  have hf := he.framed_concat t
  have hc : ∀ id, Carried (t ++ [e]) id ↔ Carried t id := fun id => by rw [Carried, ha, hf, Carried]
  refine ⟨?_, ?_, ?_, ?_⟩
  · intro id session hs
    rw [ha, hf]
    rcases hsessions id with heq | ⟨hnone, -⟩
    · exact h.kept id session (heq ▸ hs)
    · rw [hnone] at hs
      cases hs
  · intro id hs
    rw [hc]
    rcases hsessions id with heq | ⟨-, hgone⟩
    · exact (h.unkept id (heq ▸ hs)).imp_right fun hend => hend.concat e
    · exact hgone
  · intro id
    rw [hf]
    exact h.framed_from_one id
  · rw [firstCopies_append, he.copies, List.append_nil]
    exact h.nodup

/-- The session that a call works on has accepted and framed what the trace says, if its key is
not reported after its end. -/
lemma Inv.current (h : Inv t s) {resolver : KeyResolver} {session : Session}
    (hended : Ended t id → resolver id = none)
    (hs : s.dataPlane.current resolver id = .ok session) :
    session.window.HasAccepted (numbersFor (accepted t) id) ∧
      session.HasFramed (numbersFor (framed t) id) := by
  rcases hd : s.dataPlane.sessions id with _ | session'
  · -- it is built now, so nothing was carried
    simp only [DataPlane.current, hd] at hs
    rcases hk : resolver id with _ | key
    · simp [hk] at hs
    simp only [hk] at hs
    obtain ⟨-, -, -, -, hnext, hwindow⟩ := newSession_ok hs
    have hnot : ¬ Carried t id := by
      rcases h.unkept id hd with hnot | hend
      · exact hnot
      · rw [hended hend] at hk
        cases hk
    simp only [Carried, not_or, not_not] at hnot
    rw [hnot.1, hnot.2]
    exact ⟨ReplayWindow.hasAccepted_new hwindow, Session.hasFramed_new hnext⟩
  · rw [DataPlane.current_of_some hd] at hs
    cases hs
    exact h.kept id session hd

/-- A call works on one session. -/
lemma Inv.put (h : Inv t s) {e : Call R × Reply} {session : Session}
    (ha : session.window.HasAccepted (numbersFor (accepted (t ++ [e])) id))
    (hf : session.HasFramed (numbersFor (framed (t ++ [e])) id))
    (hne : ∀ id' ≠ id, numbersFor (accepted (t ++ [e])) id' = numbersFor (accepted t) id' ∧
      numbersFor (framed (t ++ [e])) id' = numbersFor (framed t) id')
    (hnodup : (firstCopies (t ++ [e])).Nodup) :
    Inv (t ++ [e]) ⟨s.resolver, s.dataPlane.put id session⟩ := by
  refine ⟨?_, ?_, ?_, hnodup⟩
  · intro id' session' hs
    by_cases hid : id' = id
    · subst hid
      rw [DataPlane.put_sessions_self, Option.some.injEq] at hs
      subst hs
      exact ⟨ha, hf⟩
    · simp only [DataPlane.put_sessions_of_ne _ _ hid] at hs
      rw [(hne id' hid).1, (hne id' hid).2]
      exact h.kept id' session' hs
  · intro id' hs
    by_cases hid : id' = id
    · subst hid
      simp at hs
    · simp only [DataPlane.put_sessions_of_ne _ _ hid] at hs
      rw [Carried, (hne id' hid).1, (hne id' hid).2]
      exact (h.unkept id' hs).imp_right fun hend => hend.concat e
  · intro id'
    by_cases hid : id' = id
    · subst hid
      exact ⟨session, hf⟩
    · rw [(hne id' hid).2]
      exact h.framed_from_one id'

/-- A call works on one session and neither accepts nor frames. -/
lemma Inv.put_silent (h : Inv t s) {e : Call R × Reply} (he : Silent e) {session : Session}
    (ha : session.window.HasAccepted (numbersFor (accepted t) id))
    (hf : session.HasFramed (numbersFor (framed t) id)) :
    Inv (t ++ [e]) ⟨s.resolver, s.dataPlane.put id session⟩ := by
  refine h.put ?_ ?_ (fun id' _ => ?_) ?_
  · rw [he.accepted_concat]
    exact ha
  · rw [he.framed_concat]
    exact hf
  · rw [he.accepted_concat, he.framed_concat]
    exact ⟨rfl, rfl⟩
  · rw [firstCopies_append, he.copies, List.append_nil]
    exact h.nodup

/-- A frame has the next number of the session in its header. -/
lemma headerNumber_frame (E : Cipher) (session : Session) (payload : Bytes) :
    headerNumber (session.frame E payload) = session.next + 1 := by
  have hbytes : session.frame E payload = (dataMagic ++ [dataVersion]
      ++ [if session.role.sendDir = dirResponder then flagDirection else 0]
      ++ session.nextID.session.1) ++ (putUint64 session.nextID.number ++ session.sealPacket E
        session.role.sendDir session.nextID (frameHeader session.nextID session.role.sendDir)
        payload) := by
    simp [Session.frame, frameHeader]
  have hlen : (dataMagic ++ [dataVersion]
      ++ [if session.role.sendDir = dirResponder then flagDirection else 0]
      ++ session.nextID.session.1).length = 6 + sessionIDSize := by
    simp [dataMagic, sessionIDSize]
  rw [headerNumber, hbytes, List.drop_left' hlen, uint64_putUint64]
  rfl

/-- `HandleClassified` keeps the invariant. -/
lemma Inv.handleClassified (h : Inv t s) (datagram : Bytes)
    (hended : ∀ id, sessionIDFromDatagram datagram = .ok id → Ended t id →
      f.sessionKey s.resolver id = none) :
    Inv (t ++ [(.handleClassified datagram, (step E f s (.handleClassified datagram)).1)])
      (step E f s (.handleClassified datagram)).2 := by
  simp only [step]
  rcases hp : parseHeader datagram with e | ⟨pid, dir, off⟩
  · have heq : s.dataPlane.handleClassified E (f.sessionKey s.resolver) datagram
        = (.error e, s.dataPlane) := by
      simp [DataPlane.handleClassified, sessionIDFromDatagram, hp]
    rw [heq]
    exact h.silent ⟨rfl, rfl⟩ fun _ => Or.inl rfl
  have hid : sessionIDFromDatagram datagram = .ok pid.session := by
    simp [sessionIDFromDatagram, hp]
  rw [DataPlane.handleClassified_eq hid]
  rcases hs : s.dataPlane.current (f.sessionKey s.resolver) pid.session with e | session
  · exact h.silent ⟨rfl, rfl⟩ fun _ => Or.inl rfl
  obtain ⟨hwindow, hcounter⟩ := h.current (hended _ hid) hs
  rcases hin : session.inboundClassified E datagram with ⟨e | ⟨payload, d⟩, session'⟩
  · -- the datagram does not open, and the session is as before
    simp only [hin]
    obtain rfl := Session.inboundClassified_error hin
    exact h.put_silent ⟨rfl, rfl⟩ hwindow hcounter
  · simp only [hin]
    obtain ⟨pid', hid', -, hd, rfl⟩ := Session.inboundClassified_ok_iff.mp hin
    rw [hp, Except.ok.injEq, Prod.mk.injEq] at hid'
    obtain ⟨rfl, -⟩ := hid'
    by_cases hfirst : d = .firstCopy
    · -- the number is new, so the datagram is
      subst hfirst
      obtain ⟨hnew, hwindow'⟩ := hwindow.firstCopy hd.symm
      have hidentity : identity datagram = some pid := by simp [identity, hp, Except.toOption]
      have ha : accepted (t ++ [(.handleClassified datagram,
          .classified (.ok (payload, .firstCopy)))]) = accepted t ++ [pid] := by
        simp [accepted, firstCopies, hidentity]
      have hf : framed (t ++ [(.handleClassified datagram,
          .classified (.ok (payload, .firstCopy)))]) = framed t := by simp [framed]
      refine h.put ?_ ?_ (fun id' hne => ?_) ?_
      · rw [ha, numbersFor_concat_self]
        exact hwindow'
      · rw [hf]
        exact hcounter
      · rw [ha, hf, numbersFor_concat_of_ne _ hne]
        exact ⟨rfl, rfl⟩
      · rw [firstCopies_append]
        refine List.nodup_append_singleton.mpr ⟨fun hmem => hnew ?_, h.nodup⟩
        exact List.mem_map.mpr ⟨pid, List.mem_filter.mpr
          ⟨List.mem_filterMap.mpr ⟨datagram, hmem, hidentity⟩, by simp⟩, rfl⟩
    · have hsilent : Silent ((.handleClassified datagram : Call R),
          Reply.classified (.ok (payload, d))) := by
        refine ⟨?_, rfl⟩
        cases d with
        | firstCopy => exact absurd rfl hfirst
        | _ => rfl
      exact h.put_silent hsilent (hwindow.other (hd ▸ hfirst)) hcounter

/-- `FrameReturn` keeps the invariant. -/
lemma Inv.frameReturn (h : Inv t s) (payload : Bytes)
    (hended : Ended t id → f.sessionKey s.resolver id = none) :
    Inv (t ++ [(.frameReturn id payload, (step E f s (.frameReturn id payload)).1)])
      (step E f s (.frameReturn id payload)).2 := by
  simp only [step, DataPlane.frameReturn_eq]
  rcases hs : s.dataPlane.current (f.sessionKey s.resolver) id with e | session
  · exact h.silent ⟨rfl, rfl⟩ fun _ => Or.inl rfl
  obtain ⟨hwindow, hcounter⟩ := h.current hended hs
  by_cases hlen : payload.length ≤ maxPayload
  · simp only [Session.outbound_of_le E session hlen]
    have ha : accepted (t ++ [(.frameReturn id payload, .framed (.ok (session.frame E payload)))])
        = accepted t := by simp [accepted, firstCopies]
    have hf : framed (t ++ [(.frameReturn id payload, .framed (.ok (session.frame E payload)))])
        = framed t ++ [⟨id, session.next + 1⟩] := by
      simp [framed, headerNumber_frame]
    refine h.put ?_ ?_ (fun id' hne => ?_) ?_
    · rw [ha]
      exact hwindow
    · rw [hf, numbersFor_concat_self _ ⟨id, session.next + 1⟩]
      exact hcounter.next
    · rw [ha, hf, numbersFor_concat_of_ne _ (p := ⟨id, session.next + 1⟩) hne]
      exact ⟨rfl, rfl⟩
    · simpa [firstCopies] using h.nodup
  · simp only [Session.outbound_of_gt E session (not_le.mp hlen)]
    exact h.put_silent ⟨rfl, rfl⟩ hwindow hcounter

/-- `Forget` keeps the invariant. -/
lemma Inv.forget (h : Inv t s) (id : SessionID) :
    Inv (t ++ [(.forget id, (step E f s (.forget id)).1)]) (step E f s (.forget id)).2 := by
  refine h.silent ⟨rfl, rfl⟩ fun id' => ?_
  by_cases hid : id' = id
  · subst hid
    refine Or.inr ⟨by simp [step, DataPlane.forgetOver], ?_⟩
    by_cases hcarried : Carried t id'
    · exact Or.inr ⟨t, _, [], rfl, hcarried⟩
    · exact Or.inl hcarried
  · exact Or.inl (by simp [step, DataPlane.forgetOver, hid])

/-! ## The result -/

/-- After the end of a session, calls for it are made only while the resolver reports no key
for it. -/
def StaysEnded (E : Cipher) (f : Resolver R) (r : R) (capacity : ℤ) (calls : List (Call R)) :
    Prop :=
  ∀ before c after id, calls = before ++ c :: after → c.session = some id →
    Ended (run E f r capacity before) id →
    f.sessionKey (Mealy.state (step E f) (start r capacity) before).resolver id = none

/-- The invariant holds along every such run. -/
lemma inv_run (E : Cipher) (f : Resolver R) (r : R) (capacity : ℤ) {calls : List (Call R)}
    (hended : StaysEnded E f r capacity calls) :
    Inv (run E f r capacity calls) (Mealy.state (step E f) (start r capacity) calls) := by
  induction calls using List.reverseRecOn with
  | nil =>
    refine ⟨fun id session hs => ?_, fun id _ => Or.inl ?_, fun id => ?_, List.nodup_nil⟩
    · cases hs
    · simp [run, Carried, accepted, firstCopies, framed, numbersFor]
    · obtain ⟨w, -⟩ := @ReplayWindow.newReplayWindow_ok 1 (by decide) (by decide)
      exact ⟨⟨id, .responder, ByteArrayN.zero _, ByteArrayN.zero _, 0, w⟩,
        Session.hasFramed_new rfl⟩
  | append_singleton calls c ih =>
    have hbefore : StaysEnded E f r capacity calls := fun before c' after id heq =>
      hended before c' (after ++ [c]) id (by simp [heq])
    have hlast := fun id => hended calls c [] id rfl
    rw [run, Mealy.trace_concat, Mealy.state_concat]
    have h := ih hbefore
    cases c with
    | handleClassified datagram =>
      exact h.handleClassified datagram fun id hid hend =>
        hlast id (by simp [Call.session, hid, Except.toOption]) hend
    | frameReturn id payload => exact h.frameReturn payload fun hend => hlast id rfl hend
    | forget id => exact h.forget id
    | change resolver => exact h.silent ⟨rfl, rfl⟩ fun _ => Or.inl rfl

/-- **Nothing is accepted or numbered twice.**  For any resolver, and any sequence of calls in
which calls for an ended session find no key: no datagram is returned as a first copy twice, and
no two frames that `FrameReturn` makes for one session have the same number, as long as there are
at most `2 ^ 64` of them. -/
theorem no_second_first_copy (E : Cipher) (f : Resolver R) (r : R) (capacity : ℤ)
    (calls : List (Call R)) (hended : StaysEnded E f r capacity calls)
    (hfew : ∀ id, (numbersFor (framed (run E f r capacity calls)) id).length ≤ 2 ^ 64) :
    (firstCopies (run E f r capacity calls)).Nodup ∧
      ∀ id, (numbersFor (framed (run E f r capacity calls)) id).Nodup := by
  have h := inv_run E f r capacity hended
  refine ⟨h.nodup, fun id => ?_⟩
  obtain ⟨session, hframed⟩ := h.framed_from_one id
  exact hframed.nodup (hfew id)

/-! ## Resolvers that forget -/

/-- The resolver forgets a key when it is told to, and brings none back. -/
structure Forgets (f : Resolver R) : Prop where
  gone : ∀ r id, f.sessionKey (f.forgetKey r id) id = none
  stays : ∀ r id id', f.sessionKey r id' = none → f.sessionKey (f.forgetKey r id) id' = none

lemma forgets_sessionStore : Forgets Resolver.sessionStore where
  gone store id := by simp [Resolver.sessionStore, Resolver.forgetKey, SessionStore.forget,
    SessionStore.sessionKey]
  stays store id id' h := by
    by_cases hid : id' = id
    · simp [Resolver.sessionStore, Resolver.forgetKey, SessionStore.forget,
        SessionStore.sessionKey, hid]
    · simpa [Resolver.sessionStore, Resolver.forgetKey, SessionStore.forget,
        SessionStore.sessionKey, hid] using h

/-- If nobody else changes the resolver, a key that was forgotten stays forgotten. -/
lemma Forgets.sessionKey_none (hf : Forgets f) (E : Cipher) (r : R) (capacity : ℤ)
    {calls : List (Call R)} (hcalls : ∀ r', .change r' ∉ calls) (hmem : .forget id ∈ calls) :
    f.sessionKey (Mealy.state (step E f) (start r capacity) calls).resolver id = none := by
  induction calls using List.reverseRecOn with
  | nil => cases hmem
  | append_singleton calls c ih =>
    rw [Mealy.state_concat]
    have hbefore : ∀ r', Call.change r' ∉ calls := fun r' h => hcalls r' (List.mem_append_left _ h)
    rcases List.mem_append.mp hmem with hmem | hlast
    · have hnone := ih hbefore hmem
      cases c with
      | handleClassified datagram => exact hnone
      | frameReturn id payload => exact hnone
      | forget id' => exact hf.stays _ _ _ hnone
      | change r' => exact absurd (by simp) (hcalls r')
    · rw [← List.mem_singleton.mp hlast]
      exact hf.gone _ _

/-- **The session store meets the condition**, if no key is registered during the run. -/
lemma Forgets.staysEnded (hf : Forgets f) (E : Cipher) (r : R) (capacity : ℤ)
    {calls : List (Call R)} (hcalls : ∀ r', .change r' ∉ calls) :
    StaysEnded E f r capacity calls := by
  rintro before c after id rfl _ ⟨t₁, o, t₂, heq, -⟩
  refine hf.sessionKey_none E r capacity (fun r' h => hcalls r' (List.mem_append_left _ h)) ?_
  have hinputs := Mealy.trace_inputs (step E f) (start r capacity) before
  rw [← hinputs, show Mealy.trace (step E f) (start r capacity) before = _ from heq]
  simp

section Sample

set_option maxRecDepth 8000

def sampleKey : Bytes := List.replicate 32 5

/-- The first datagram of a client with this key. -/
def sampleDatagram : Bytes :=
  dataFrame checksumCipher sampleKey dirInitiator ⟨sampleClient 1, 1⟩ [7]

/-- Traffic in both directions, before and after the session is forgotten. -/
def forgetBetween (R : Type) : List (Call R) :=
  [.handleClassified sampleDatagram, .frameReturn (sampleClient 1) [8], .forget (sampleClient 1),
    .handleClassified sampleDatagram, .frameReturn (sampleClient 1) [9]]

/-- Over a session store the datagram is delivered once and one packet is framed. -/
theorem no_second_first_copy_store :
    let store : SessionStore := ⟨Function.update (fun _ => none) (sampleClient 1) (some sampleKey)⟩
    let t := run checksumCipher Resolver.sessionStore store 64 (forgetBetween SessionStore)
    firstCopies t = [sampleDatagram] ∧ (firstCopies t).Nodup ∧
      (numbersFor (framed t) (sampleClient 1)).Nodup := by
  intro store t
  have hcopies : firstCopies t = [sampleDatagram] := rfl
  have hframed : framed t = [⟨sampleClient 1, 1⟩] := by decide +kernel
  have hresult := no_second_first_copy checksumCipher Resolver.sessionStore store 64
    (forgetBetween SessionStore)
    (forgets_sessionStore.staysEnded _ _ _ (by simp [forgetBetween])) fun id => by
      show (numbersFor (framed t) id).length ≤ 2 ^ 64
      rw [hframed, numbersFor, List.length_map]
      exact (List.length_filter_le _ _).trans (by simp)
  exact ⟨hcopies, hresult.1, hresult.2 _⟩

/-- **A fixed table of keys brings the session back.**  The same datagram is delivered twice, and
two packets are framed with the number one under the same key. -/
theorem static_resolver_resurrects :
    let t := run checksumCipher Resolver.static (fun _ => some sampleKey) 64
      (forgetBetween (SessionID → Option Bytes))
    firstCopies t = [sampleDatagram, sampleDatagram] ∧
      numbersFor (framed t) (sampleClient 1) = [1, 1] := by
  intro t
  have hcopies : firstCopies t = [sampleDatagram, sampleDatagram] := rfl
  have hframed : framed t = [⟨sampleClient 1, 1⟩, ⟨sampleClient 1, 1⟩] := rfl
  exact ⟨hcopies, by rw [hframed]; simp [numbersFor]⟩

end Sample

end Forgetting
end Gemina
