/-
# A client and a gateway over a hostile network

Two sessions that share an id and a key, and a network that delivers to the gateway any
bytes it likes: genuine frames in any order, number and path, the gateway's own frames
reflected, and bytes of its own making.  The cipher is ideal: `log` collects every seal
operation made under the key, and the gateway opens exactly what is in it.

The invariant `Inv` ties the state reached to the trace of the run: the client's `i`-th
frame, the seal operations, and the replay window that has observed exactly the numbers of
the datagrams that were opened.
-/
import Gemina.ClientCore.Session

namespace Gemina
namespace SessionPair

/-- The two endpoints, and the seal operations made under their key. -/
structure Pair where
  client : Session
  gateway : Session
  log : List (Aead.Sealed Bytes Bytes Bytes Bytes)

/-- One call. -/
inductive Action where
  | clientOutbound (payload : Bytes)
  | gatewayOutbound (payload : Bytes)
  | gatewayInbound (wire : Bytes)
deriving DecidableEq

/-- What a call returns. -/
inductive Output where
  | outbound (result : Except GoError Bytes)
  | inbound (result : Except GoError (Bytes × ReplayDecision))

/-- One call, with its effect on the endpoints. -/
def step (E : Cipher) (s : Pair) : Action → Output × Pair
  | .clientOutbound p =>
    match s.client.outbound E p with
    | (.ok f, client) =>
      (.outbound (.ok f), { s with client := client, log := s.log ++ [s.client.sealedNext p] })
    | (.error e, client) => (.outbound (.error e), { s with client := client })
  | .gatewayOutbound p =>
    match s.gateway.outbound E p with
    | (.ok f, gateway) =>
      (.outbound (.ok f), { s with gateway := gateway, log := s.log ++ [s.gateway.sealedNext p] })
    | (.error e, gateway) => (.outbound (.error e), { s with gateway := gateway })
  | .gatewayInbound w =>
    let r := s.gateway.inboundClassified (E.ideal s.log) w
    (.inbound r.1, { s with gateway := r.2 })

/-- The trace of a run from a fresh pair. -/
abbrev Trace : Type := List (Action × Output)

/-! ## Reading a trace -/

/-- The frames that the client sent, in order, each with its payload. -/
def sent (t : Trace) : List (Bytes × Bytes) :=
  t.filterMap fun
    | (.clientOutbound p, .outbound (.ok f)) => some (p, f)
    | _ => none

/-- The packet number in the header of a datagram. -/
def numberOf (wire : Bytes) : PacketNumber :=
  match parseHeader wire with
  | .ok (id, _, _) => id.number
  | .error _ => 0

/-- The numbers of the datagrams that the gateway opened, each with the verdict on it. -/
def observed (t : Trace) : ReplayWindow.History :=
  t.filterMap fun
    | (.gatewayInbound w, .inbound (.ok (_, d))) => some (numberOf w, d)
    | _ => none

/-- The datagrams reported as first copies, each with the payload reported. -/
def firstCopies (t : Trace) : List (Bytes × Bytes) :=
  t.filterMap fun
    | (.gatewayInbound w, .inbound (.ok (p, .firstCopy))) => some (w, p)
    | _ => none

lemma sent_append (t u : Trace) : sent (t ++ u) = sent t ++ sent u := List.filterMap_append

lemma observed_append (t u : Trace) : observed (t ++ u) = observed t ++ observed u :=
  List.filterMap_append

lemma mem_firstCopies {t : Trace} {w p : Bytes} :
    (w, p) ∈ firstCopies t ↔ (.gatewayInbound w, .inbound (.ok (p, .firstCopy))) ∈ t := by
  simp only [firstCopies, List.mem_filterMap]
  constructor
  · rintro ⟨⟨a, o⟩, hmem, heq⟩
    split at heq
    · rename_i ha
      simp only [Option.some.injEq, Prod.mk.injEq] at heq
      obtain ⟨rfl, rfl⟩ := heq
      exact ha ▸ hmem
    · cases heq
  · exact fun hmem => ⟨_, hmem, rfl⟩

/-- The numbers of the first copies are the numbers that the replay window accepted. -/
lemma firstCopies_numbers (t : Trace) :
    (firstCopies t).map (fun e => numberOf e.1) = ReplayWindow.accepted (observed t) := by
  induction t with
  | nil => rfl
  | cons e t ih =>
    obtain ⟨a, o⟩ := e
    rw [← List.singleton_append, observed_append]
    simp only [ReplayWindow.accepted, List.filter_append, List.map_append] at ih ⊢
    rw [← ih]
    rcases a with p | p | w <;> rcases o with o | (e | ⟨q, d⟩) <;>
      first
      | rfl
      | (cases d <;> rfl)

/-! ## The invariant -/

/-- The client of the run, with `i` frames sent. -/
def clientAt (c : Session) (i : ℕ) : Session := { c with next := UInt64.ofNat i }

/-- The state `s` reached with the trace `t` from a client `c` and a gateway `g`. -/
structure Inv (E : Cipher) (c g : Session) (t : Trace) (s : Pair) : Prop where
  client_eq : s.client = clientAt c (sent t).length
  sent_eq : ∀ i p f, (sent t)[i]? = some (p, f) → f = (clientAt c i).frame E p
  /-- Seal operations in the client's direction are the client's. -/
  log_sent : ∀ r ∈ s.log, (∃ n, r.nonce = nonce dirResponder n) ∨
    ∃ i p f, (sent t)[i]? = some (p, f) ∧ r = (clientAt c i).sealedNext p
  sent_log : ∀ i p f, (sent t)[i]? = some (p, f) → (clientAt c i).sealedNext p ∈ s.log
  gateway_eq : s.gateway = { g with
    next := s.gateway.next
    window := g.window.afterAll ((observed t).map Prod.fst) }
  observed_eq : observed t = g.window.observeAll ((observed t).map Prod.fst)
  /-- Every datagram that was opened is a frame sent before, and gave its payload. -/
  opened : ∀ w p d, (Action.gatewayInbound w, Output.inbound (.ok (p, d))) ∈ t →
    ∃ i, (sent t)[i]? = some (p, w) ∧ numberOf w = UInt64.ofNat i + 1

variable {E : Cipher} {c g : Session} {t : Trace} {s : Pair}

lemma clientAt_succ (c : Session) (i : ℕ) :
    { clientAt c i with next := (clientAt c i).next + 1 } = clientAt c (i + 1) := by
  simp [clientAt]

lemma getElem?_concat_cases {α : Type*} {l : List α} {a b : α} {i : ℕ}
    (h : (l ++ [a])[i]? = some b) : l[i]? = some b ∨ (i = l.length ∧ b = a) := by
  rcases lt_trichotomy i l.length with hi | hi | hi
  · exact Or.inl (by rwa [List.getElem?_append_left hi] at h)
  · subst hi
    simp only [List.getElem?_append_right le_rfl, Nat.sub_self, List.getElem?_cons_zero,
      Option.some.injEq] at h
    exact Or.inr ⟨rfl, h.symm⟩
  · rw [List.getElem?_eq_none (by simp; omega)] at h
    cases h

lemma getElem?_concat_of {α : Type*} {l : List α} {a b : α} {i : ℕ} (h : l[i]? = some b) :
    (l ++ [a])[i]? = some b := by
  rw [List.getElem?_append_left (List.getElem?_eq_some_iff.mp h).1]
  exact h

namespace Inv

/-- A step that neither sends a frame nor opens a datagram. -/
lemma of_quiet (h : Inv E c g t s) {e : Action × Output} (hsent : sent [e] = [])
    (hobs : observed [e] = []) (hop : ∀ w r, e ≠ (.gatewayInbound w, .inbound (.ok r)))
    {s' : Pair} (hc : s'.client = s.client)
    (hlog : ∀ r ∈ s'.log, r ∈ s.log ∨ ∃ n, r.nonce = nonce dirResponder n)
    (hlog' : ∀ r ∈ s.log, r ∈ s'.log)
    (hg : s'.gateway = { s.gateway with next := s'.gateway.next }) :
    Inv E c g (t ++ [e]) s' := by
  have hst : sent (t ++ [e]) = sent t := by rw [sent_append, hsent, List.append_nil]
  have hot : observed (t ++ [e]) = observed t := by rw [observed_append, hobs, List.append_nil]
  refine ⟨?_, ?_, ?_, ?_, ?_, ?_, ?_⟩
  · rw [hst, hc, h.client_eq]
  · rw [hst]
    exact h.sent_eq
  · intro r hr
    rw [hst]
    rcases hlog r hr with hr | hr
    · exact h.log_sent r hr
    · exact Or.inl hr
  · rw [hst]
    exact fun i p f hi => hlog' _ (h.sent_log i p f hi)
  · rw [hot, hg, h.gateway_eq]
  · rw [hot]
    exact h.observed_eq
  · intro w p d hmem
    rw [hst]
    rcases List.mem_append.mp hmem with hmem | hmem
    · exact h.opened w p d hmem
    · exact absurd (List.mem_singleton.mp hmem).symm (hop w _)

/-- The client sends a frame. -/
lemma of_sent (h : Inv E c g t s) (p : Bytes) :
    Inv E c g (t ++ [(.clientOutbound p, .outbound (.ok (s.client.frame E p)))])
      { s with
        client := { s.client with next := s.client.next + 1 }
        log := s.log ++ [s.client.sealedNext p] } := by
  have hst : sent (t ++ [(.clientOutbound p, .outbound (.ok (s.client.frame E p)))])
      = sent t ++ [(p, s.client.frame E p)] := sent_append _ _
  have hot : observed (t ++ [(.clientOutbound p, .outbound (.ok (s.client.frame E p)))])
      = observed t := by
    rw [observed_append]
    exact List.append_nil _
  refine ⟨?_, ?_, ?_, ?_, ?_, ?_, ?_⟩
  · rw [hst, List.length_append, List.length_singleton, ← clientAt_succ, ← h.client_eq]
  · intro i q f hi
    rw [hst] at hi
    rcases getElem?_concat_cases hi with hi | ⟨rfl, heq⟩
    · exact h.sent_eq i q f hi
    · obtain ⟨rfl, rfl⟩ := Prod.mk.inj heq
      rw [h.client_eq]
  · intro r hr
    rw [hst]
    rcases List.mem_append.mp hr with hr | hr
    · rcases h.log_sent r hr with hr | ⟨i, q, f, hi, hr⟩
      · exact Or.inl hr
      · exact Or.inr ⟨i, q, f, getElem?_concat_of hi, hr⟩
    · refine Or.inr ⟨(sent t).length, p, s.client.frame E p, by simp, ?_⟩
      rw [← h.client_eq]
      exact List.mem_singleton.mp hr
  · intro i q f hi
    rw [hst] at hi
    rcases getElem?_concat_cases hi with hi | ⟨rfl, heq⟩
    · exact List.mem_append_left _ (h.sent_log i q f hi)
    · obtain ⟨rfl, rfl⟩ := Prod.mk.inj heq
      rw [← h.client_eq]
      exact List.mem_append_right _ (List.mem_singleton.mpr rfl)
  · rw [hot]
    exact h.gateway_eq
  · rw [hot]
    exact h.observed_eq
  · intro w q d hmem
    rw [hst]
    rcases List.mem_append.mp hmem with hmem | hmem
    · obtain ⟨i, hi, hn⟩ := h.opened w q d hmem
      exact ⟨i, getElem?_concat_of hi, hn⟩
    · simp at hmem

end Inv

/-- Two ends of one session: the client and the gateway share the id and the key. -/
structure Peers (c g : Session) : Prop where
  client_role : c.role = .initiator
  gateway_role : g.role = .responder
  id_eq : g.id = c.id
  key_eq : g.key = c.key

namespace Inv

/-- **What the gateway opens.**  The datagram is a frame that the client sent, byte for byte. -/
lemma of_inbound_ok (h : Inv E c g t s) (hp : Peers c g) {w p : Bytes} {d : ReplayDecision}
    {g' : Session} (hin : s.gateway.inboundClassified (E.ideal s.log) w = (.ok (p, d), g')) :
    (∃ i, (sent t)[i]? = some (p, w) ∧ numberOf w = UInt64.ofNat i + 1) ∧
      d = (s.gateway.window.observe (numberOf w)).1 ∧
      g' = { s.gateway with window := (s.gateway.window.observe (numberOf w)).2 } := by
  obtain ⟨id, hparse, hopen, hd, hg'⟩ := Session.inboundClassified_ok_iff.mp hin
  have hrole : s.gateway.role = .responder := by rw [h.gateway_eq]; exact hp.gateway_role
  have hnum : numberOf w = id.number := by rw [numberOf, hparse]
  rw [hnum]
  refine ⟨?_, hd, hg'⟩
  obtain ⟨r, hr, ⟨-, hnonce, haad, hct⟩, hpt⟩ := Aead.mem_of_ideal_open hopen
  rw [hrole] at hnonce
  rcases h.log_sent r hr with ⟨n, hn⟩ | ⟨i, q, f, hi, rfl⟩
  · -- the gateway's own frames have the other direction in their nonce
    exact absurd (nonce_inj (hn.symm.trans hnonce)).1 (by decide)
  · have hq : q = p := hpt
    subst hq
    have hnumber : UInt64.ofNat i + 1 = id.number := by
      have hn : nonce (clientAt c i).role.sendDir (UInt64.ofNat i + 1)
          = nonce Role.responder.peerDir id.number := hnonce
      exact (nonce_inj hn).2
    have hw : w = f := by
      rw [h.sent_eq i q f hi, Session.frame_eq, hct, haad]
      simp [List.slice, List.take_append_drop]
    exact ⟨i, hw ▸ hi, hnumber.symm⟩

/-- The gateway opens a datagram. -/
lemma of_opened (h : Inv E c g t s) (hp : Peers c g) {w p : Bytes} {d : ReplayDecision}
    {g' : Session} (hin : s.gateway.inboundClassified (E.ideal s.log) w = (.ok (p, d), g')) :
    Inv E c g (t ++ [(.gatewayInbound w, .inbound (.ok (p, d)))]) { s with gateway := g' } := by
  obtain ⟨⟨j, hj, hnj⟩, hd, hg'⟩ := h.of_inbound_ok hp hin
  have hst : sent (t ++ [(.gatewayInbound w, .inbound (.ok (p, d)))]) = sent t := by
    rw [sent_append]
    exact List.append_nil _
  have hot : observed (t ++ [(.gatewayInbound w, .inbound (.ok (p, d)))])
      = observed t ++ [(numberOf w, d)] := observed_append _ _
  have hwin : s.gateway.window = g.window.afterAll ((observed t).map Prod.fst) := by
    rw [h.gateway_eq]
  refine ⟨?_, ?_, ?_, ?_, ?_, ?_, ?_⟩
  · rw [hst]
    exact h.client_eq
  · rw [hst]
    exact h.sent_eq
  · rw [hst]
    exact h.log_sent
  · rw [hst]
    exact h.sent_log
  · rw [hot, List.map_append, hg', hwin]
    rw [show g.window.afterAll ((observed t).map Prod.fst ++ [(numberOf w, d)].map Prod.fst)
        = ((g.window.afterAll ((observed t).map Prod.fst)).observe (numberOf w)).2 from
      Mealy.state_concat _ _ _ _]
    simp only
    rw [h.gateway_eq]
  · rw [hot, List.map_append]
    rw [show g.window.observeAll ((observed t).map Prod.fst ++ [(numberOf w, d)].map Prod.fst)
        = g.window.observeAll ((observed t).map Prod.fst)
          ++ [(numberOf w, ((g.window.afterAll ((observed t).map Prod.fst)).observe
            (numberOf w)).1)] from Mealy.trace_concat _ _ _ _]
    rw [← h.observed_eq, hd, hwin]
  · intro w' p' d' hmem
    rw [hst]
    rcases List.mem_append.mp hmem with hmem | hmem
    · exact h.opened w' p' d' hmem
    · simp only [List.mem_singleton, Prod.mk.injEq, Action.gatewayInbound.injEq,
        Output.inbound.injEq, Except.ok.injEq] at hmem
      obtain ⟨rfl, rfl, -⟩ := hmem
      exact ⟨j, hj, hnj⟩

/-- **One step.**  Every call keeps the invariant. -/
lemma step (h : Inv E c g t s) (hp : Peers c g) (a : Action) :
    Inv E c g (t ++ [(a, (SessionPair.step E s a).1)]) (SessionPair.step E s a).2 := by
  cases a with
  | clientOutbound p =>
    by_cases hlen : p.length ≤ maxPayload
    · simp only [SessionPair.step, Session.outbound_of_le E s.client hlen]
      exact h.of_sent p
    · simp only [SessionPair.step, Session.outbound_of_gt E s.client (not_le.mp hlen)]
      exact h.of_quiet rfl rfl (by simp) rfl (fun r hr => Or.inl hr) (fun r hr => hr) rfl
  | gatewayOutbound p =>
    have hrole : s.gateway.role = .responder := by rw [h.gateway_eq]; exact hp.gateway_role
    by_cases hlen : p.length ≤ maxPayload
    · simp only [SessionPair.step, Session.outbound_of_le E s.gateway hlen]
      refine h.of_quiet rfl rfl (by simp) rfl ?_ (fun r hr => List.mem_append_left _ hr) rfl
      intro r hr
      rcases List.mem_append.mp hr with hr | hr
      · exact Or.inl hr
      · refine Or.inr ⟨s.gateway.next + 1, ?_⟩
        rw [List.mem_singleton.mp hr, Session.sealedNext, hrole]
        rfl
    · simp only [SessionPair.step, Session.outbound_of_gt E s.gateway (not_le.mp hlen)]
      exact h.of_quiet rfl rfl (by simp) rfl (fun r hr => Or.inl hr) (fun r hr => hr) rfl
  | gatewayInbound w =>
    simp only [SessionPair.step]
    rcases hin : s.gateway.inboundClassified (E.ideal s.log) w with ⟨e | ⟨p, d⟩, g'⟩
    · obtain rfl := Session.inboundClassified_error hin
      exact h.of_quiet rfl rfl (by simp) rfl (fun r hr => Or.inl hr) (fun r hr => hr) rfl
    · exact h.of_opened hp hin

end Inv

/-! ## Frames and their numbers -/

/-- The frame of the packet with number `i + 1` parses back to that number. -/
lemma parseHeader_frame {c : Session} (hrole : c.role = .initiator) (hid : c.id.isZero = false)
    {i : ℕ} (hi : i + 1 < 2 ^ 64) (E : Cipher) (p : Bytes) :
    parseHeader ((clientAt c i).frame E p)
      = .ok (⟨c.id, UInt64.ofNat i + 1⟩, dirInitiator, dataHeaderSize) := by
  have hdir : (clientAt c i).role.sendDir = dirInitiator := by
    rw [show (clientAt c i).role = c.role from rfl, hrole]
    rfl
  have hvalid : (clientAt c i).nextID.valid = true := by
    rw [PacketID.valid_iff]
    exact ⟨hid, Counter.ofNat_succ_ne_zero hi⟩
  rw [Session.frame, hdir, parseHeader_frameHeader hvalid (Or.inl rfl)]
  rfl

lemma numberOf_frame {c : Session} (hrole : c.role = .initiator) (hid : c.id.isZero = false)
    {i : ℕ} (hi : i + 1 < 2 ^ 64) (E : Cipher) (p : Bytes) :
    numberOf ((clientAt c i).frame E p) = UInt64.ofNat i + 1 := by
  rw [numberOf, parseHeader_frame hrole hid hi]

namespace Inv

/-- The index of a frame is determined by its bytes. -/
lemma index_unique (h : Inv E c g t s) (hrole : c.role = .initiator) (hid : c.id.isZero = false)
    (hfew : (sent t).length < 2 ^ 64) {i j : ℕ} {p q f : Bytes}
    (hi : (sent t)[i]? = some (p, f)) (hj : (sent t)[j]? = some (q, f)) : i = j := by
  have hil := (List.getElem?_eq_some_iff.mp hi).1
  have hjl := (List.getElem?_eq_some_iff.mp hj).1
  have hni := numberOf_frame hrole hid (i := i) (by omega) E p
  have hnj := numberOf_frame hrole hid (i := j) (by omega) E q
  rw [← h.sent_eq i p f hi] at hni
  rw [← h.sent_eq j q f hj] at hnj
  exact Counter.ofNat_succ_inj (by omega) (by omega) (hni.symm.trans hnj)

/-- A frame that was sent opens to its payload. -/
lemma opens (h : Inv E c g t s) (hp : Peers c g) (hfew : (sent t).length < 2 ^ 64) {k : ℕ}
    {p f : Bytes} (hk : (sent t)[k]? = some (p, f)) :
    (E.ideal s.log).aeadOpen c.key.1 (nonce dirInitiator (UInt64.ofNat k + 1))
      (f.drop dataHeaderSize) (f.slice 0 dataHeaderSize) = some p := by
  have hkl := (List.getElem?_eq_some_iff.mp hk).1
  have hdir : (clientAt c k).role.sendDir = dirInitiator := by
    rw [show (clientAt c k).role = c.role from rfl, hp.client_role]
    rfl
  have hframe := h.sent_eq k p f hk
  have haad : f.slice 0 dataHeaderSize = ((clientAt c k).sealedNext p).aad := by
    rw [hframe, Session.frame_eq]
    exact List.take_left' (length_frameHeader _ _)
  have hct : f.drop dataHeaderSize = E.aeadSeal ((clientAt c k).sealedNext p).key
      ((clientAt c k).sealedNext p).nonce ((clientAt c k).sealedNext p).plaintext
      ((clientAt c k).sealedNext p).aad := by
    rw [hframe, Session.frame_eq]
    exact List.drop_left' (length_frameHeader _ _)
  have hnonce : nonce dirInitiator (UInt64.ofNat k + 1) = ((clientAt c k).sealedNext p).nonce := by
    rw [← hdir]
    rfl
  obtain ⟨r', hr', ⟨-, hn', -, -⟩, hopen⟩ :=
    Aead.ideal_open_of_mem (E := E) (h.sent_log k p f hk) ⟨rfl, rfl, rfl, rfl⟩
  rw [haad, hct, hnonce]
  refine hopen.trans ?_
  -- the nonce of the triple singles out the seal operation, hence the payload
  rcases h.log_sent r' hr' with ⟨n, hn⟩ | ⟨j, q, f', hj, rfl⟩
  · rw [hn, ← hnonce] at hn'
    exact absurd (nonce_inj hn').1 (by decide)
  · have hjl := (List.getElem?_eq_some_iff.mp hj).1
    have hjk : UInt64.ofNat j + 1 = UInt64.ofNat k + 1 := (nonce_inj hn').2
    obtain rfl := Counter.ofNat_succ_inj (by omega) (by omega) hjk
    rw [hk] at hj
    exact congrArg some (Prod.mk.inj (Option.some.inj hj)).1.symm

/-- A frame whose number the window accepts is delivered with its payload. -/
lemma delivers (h : Inv E c g t s) (hp : Peers c g) (hid : c.id.isZero = false)
    (hfew : (sent t).length < 2 ^ 64) (hfresh : g.window.IsFresh) {k : ℕ} {p f : Bytes}
    (hk : (sent t)[k]? = some (p, f))
    (hnew : (UInt64.ofNat k + 1, ReplayDecision.firstCopy) ∉ observed t)
    (hwin : ∀ n, (n, ReplayDecision.firstCopy) ∈ observed t →
      n.toNat < k + 1 + g.window.width) :
    (s.gateway.inboundClassified (E.ideal s.log) f).1 = .ok (p, .firstCopy) := by
  have hkl := (List.getElem?_eq_some_iff.mp hk).1
  have hrole : s.gateway.role.peerDir = dirInitiator := by
    rw [show s.gateway.role = g.role by rw [h.gateway_eq], hp.gateway_role]
    rfl
  have hkey : s.gateway.key = c.key := by
    rw [show s.gateway.key = g.key by rw [h.gateway_eq], hp.key_eq]
  have hparse : parseHeader f = .ok (⟨c.id, UInt64.ofNat k + 1⟩, s.gateway.role.peerDir,
      dataHeaderSize) := by
    rw [hrole, h.sent_eq k p f hk]
    exact parseHeader_frame hp.client_role hid (by omega) E p
  have hn := Counter.ofNat_succ_toNat (i := k) (by omega)
  have hn0 : UInt64.ofNat k + 1 ≠ 0 := Counter.ofNat_succ_ne_zero (by omega)
  have hdec : (s.gateway.window.observe (UInt64.ofNat k + 1)).1 = .firstCopy := by
    rw [show s.gateway.window = g.window.afterAll ((observed t).map Prod.fst) by
      rw [h.gateway_eq], hfresh.observe_eq, ← h.observed_eq]
    refine ReplayWindow.spec_firstCopy_of_new hn0 hnew ?_
    have hacc := hfresh.highest_accepted ((observed t).map Prod.fst)
    rw [← h.observed_eq] at hacc
    have hpos := g.window.width_pos
    rcases hacc with h0 | ⟨m, hm, hmeq⟩
    · omega
    · have := hwin m hm
      omega
  have hopen : (E.ideal s.log).aeadOpen s.gateway.key.1
      (nonce s.gateway.role.peerDir (UInt64.ofNat k + 1)) (f.drop dataHeaderSize)
      (f.slice 0 dataHeaderSize) = some p := by
    rw [hkey, hrole]
    exact h.opens hp hfew hk
  exact congrArg Prod.fst (Session.inboundClassified_ok_iff.mpr
    ⟨_, hparse, hopen, hdec.symm, rfl⟩)

end Inv

/-! ## Whole runs -/

/-- The trace of the calls `acts` on a fresh pair. -/
def run (E : Cipher) (c g : Session) (acts : List Action) : Trace :=
  Mealy.trace (step E) ⟨c, g, []⟩ acts

/-- The pair after the calls `acts`. -/
def after (E : Cipher) (c g : Session) (acts : List Action) : Pair :=
  Mealy.state (step E) ⟨c, g, []⟩ acts

def Action.isClientOutbound : Action → Bool
  | .clientOutbound _ => true
  | _ => false

/-- A run starts from two new sessions with the same id and key. -/
structure Fresh (c g : Session) : Prop where
  peers : Peers c g
  id_ne : c.id.isZero = false
  next_eq : c.next = 0
  window : g.window.IsFresh

lemma fresh_of_newSession {id : SessionID} {key : Bytes} {cc gc : ℤ} {c g : Session}
    (hc : newSession id key .initiator cc = .ok c) (hg : newSession id key .responder gc = .ok g) :
    Fresh c g := by
  obtain ⟨hid, hcid, hcrole, hckey, hcnext, -⟩ := newSession_ok hc
  obtain ⟨-, hgid, hgrole, hgkey, -, hgwin⟩ := newSession_ok hg
  exact ⟨⟨hcrole, hgrole, hgid.trans hcid.symm, ByteArrayN.ext (hgkey.trans hckey.symm)⟩,
    hcid ▸ hid, hcnext, ReplayWindow.newReplayWindow_isFresh hgwin⟩

/-- The invariant holds after every run. -/
lemma Fresh.inv {c g : Session} (hf : Fresh c g) (E : Cipher) (acts : List Action) :
    Inv E c g (run E c g acts) (after E c g acts) := by
  refine Mealy.invariant (P := Inv E c g) ?_ (fun t s a h => h.step hf.peers a) acts
  refine ⟨?_, by simp [sent], by simp, by simp [sent], rfl, rfl, by simp⟩
  rw [clientAt, show (UInt64.ofNat (sent []).length) = c.next from hf.next_eq.symm]

lemma sent_length_le (t : Trace) :
    (sent t).length ≤ (t.map Prod.fst).countP Action.isClientOutbound := by
  induction t with
  | nil => rfl
  | cons e t ih =>
    obtain ⟨a, o⟩ := e
    rw [← List.singleton_append, sent_append, List.map_append, List.countP_append,
      List.length_append]
    refine Nat.add_le_add ?_ ih
    rcases a with p | p | w <;> rcases o with (e | f) | o <;> simp [sent, Action.isClientOutbound]

lemma run_actions (E : Cipher) (c g : Session) (acts : List Action) :
    (run E c g acts).map Prod.fst = acts := Mealy.trace_inputs _ _ _

/-- No frame is reported as a first copy twice, and a first copy comes with its payload. -/
lemma firstCopies_once {c g : Session} (hf : Fresh c g) (E : Cipher) {acts : List Action}
    (hfew : (sent (run E c g acts)).length < 2 ^ 64) {k : ℕ} {p f : Bytes}
    (hk : (sent (run E c g acts))[k]? = some (p, f)) :
    ((firstCopies (run E c g acts)).filter fun e => e.1 = f).length ≤ 1 ∧
      ∀ q, (f, q) ∈ firstCopies (run E c g acts) → q = p := by
  have h := hf.inv E acts
  constructor
  · have hnd : ((firstCopies (run E c g acts)).map fun e => numberOf e.1).Nodup := by
      rw [firstCopies_numbers, h.observed_eq]
      exact hf.window.accepted_nodup _
    have hsub := hnd.sublist (List.Sublist.map (fun e : Bytes × Bytes => numberOf e.1)
      (List.filter_sublist (p := fun e => decide (e.1 = f))
        (l := firstCopies (run E c g acts))))
    have hrep : ((firstCopies (run E c g acts)).filter fun e => e.1 = f).map
        (fun e => numberOf e.1) = List.replicate
          ((firstCopies (run E c g acts)).filter fun e => e.1 = f).length (numberOf f) := by
      rw [List.eq_replicate_iff]
      refine ⟨by simp, ?_⟩
      intro n hn
      obtain ⟨e, he, rfl⟩ := List.mem_map.mp hn
      rw [of_decide_eq_true (List.mem_filter.mp he).2]
    rw [hrep] at hsub
    exact List.nodup_replicate.mp hsub
  · intro q hq
    obtain ⟨i, hi, -⟩ := h.opened f q _ (mem_firstCopies.mp hq)
    obtain rfl := h.index_unique hf.peers.client_role hf.id_ne hfew hi hk
    rw [hk] at hi
    exact (Prod.mk.inj (Option.some.inj hi)).1.symm

/-- The first arrival of a frame is a first copy, unless the window has moved past it. -/
lemma first_arrival {c g : Session} (hf : Fresh c g) (E : Cipher) {acts : List Action}
    (hfew : (sent (run E c g acts)).length < 2 ^ 64) {t₁ t₂ t₃ : Trace} {p f : Bytes}
    {r : Except GoError (Bytes × ReplayDecision)}
    (hrun : run E c g acts = t₁ ++ (.clientOutbound p, .outbound (.ok f)) :: t₂
      ++ (.gatewayInbound f, .inbound r) :: t₃)
    (hfirst : ∀ o, (.gatewayInbound f, o) ∉ t₂)
    (hwin : ∀ n, (n, ReplayDecision.firstCopy) ∈
        observed (t₁ ++ (.clientOutbound p, .outbound (.ok f)) :: t₂) →
      n.toNat < (sent t₁).length + 1 + g.window.width) :
    r = .ok (p, .firstCopy) := by
  obtain ⟨acts', -, hacts, hu, hr⟩ := Mealy.trace_eq_append_cons _ _ hrun
  have h := hf.inv E acts'
  have hu' : run E c g acts' = t₁ ++ (.clientOutbound p, .outbound (.ok f)) :: t₂ := hu.symm
  obtain ⟨acts₁, -, -, ht₁, -⟩ := Mealy.trace_eq_append_cons _ _ hu'
  have h₁ := hf.inv E acts₁
  have ht₁' : run E c g acts₁ = t₁ := ht₁.symm
  rw [ht₁'] at h₁
  have hsentu : sent (run E c g acts') = sent t₁ ++ (p, f) :: sent t₂ := by
    rw [hu', sent_append]
    rfl
  have hlen : (sent (run E c g acts')).length < 2 ^ 64 := by
    rw [hrun, sent_append, List.length_append] at hfew
    rw [hu']
    omega
  have hlen' : (sent t₁).length + 1 < 2 ^ 64 ∧ (sent t₁).length < 2 ^ 64 := by
    rw [hsentu, List.length_append, List.length_cons] at hlen
    omega
  have hk : (sent (run E c g acts'))[(sent t₁).length]? = some (p, f) := by
    rw [hsentu]
    simp
  have hnf : numberOf f = UInt64.ofNat (sent t₁).length + 1 := by
    rw [h.sent_eq _ p f hk]
    exact numberOf_frame hf.peers.client_role hf.id_ne hlen'.1 E p
  rw [← hu'] at hwin
  have hdel := h.delivers hf.peers hf.id_ne hlen hf.window hk ?_ hwin
  · have hout : Output.inbound r = .inbound _ := hr
    rw [Output.inbound.inj hout]
    exact hdel
  -- an earlier first copy with this number would be an arrival of this very frame
  intro hmem
  obtain ⟨⟨a, o⟩, hev, heq⟩ := List.mem_filterMap.mp hmem
  split at heq
  · rename_i w q d hao
    obtain ⟨rfl, rfl⟩ := Prod.mk.inj hao
    simp only [Option.some.injEq, Prod.mk.injEq] at heq
    obtain ⟨hnum, rfl⟩ := heq
    obtain ⟨i, hi, hni⟩ := h.opened w q _ hev
    have hil := (List.getElem?_eq_some_iff.mp hi).1
    have hik : i = (sent t₁).length :=
      Counter.ofNat_succ_inj (by omega) (by omega) (hni.symm.trans hnum)
    subst hik
    rw [hk] at hi
    obtain ⟨rfl, rfl⟩ := Prod.mk.inj (Option.some.inj hi)
    rw [hu'] at hev
    rcases List.mem_append.mp hev with hev | hev
    · -- before the frame was sent nothing opens to it
      obtain ⟨j, hj, hnj⟩ := h₁.opened f p _ hev
      have hjl := (List.getElem?_eq_some_iff.mp hj).1
      have := Counter.ofNat_succ_inj (by omega) (by omega) (hnj.symm.trans hnf)
      omega
    · rcases List.mem_cons.mp hev with hev | hev
      · simp at hev
      · exact hfirst _ hev
  · cases heq

/-- **A client and its gateway over a hostile network.**  With an ideal cipher, in every run
of fewer than `2 ^ 64` client frames:
the gateway opens nothing but frames that the client sent before;
each frame is reported as a first copy at most once, and then with its payload;
the first arrival of the `k`-th frame is a first copy unless a number `≥ k + W` was accepted;
and a call that returns an error leaves the replay window alone. -/
theorem session_pair_secure (E : Cipher) {id : SessionID} {key : Bytes} {cc gc : ℤ}
    {c g : Session} (hc : newSession id key .initiator cc = .ok c)
    (hg : newSession id key .responder gc = .ok g) (acts : List Action)
    (hfew : acts.countP Action.isClientOutbound < 2 ^ 64) :
    (∀ t₁ t₂ w r, run E c g acts = t₁ ++ (.gatewayInbound w, .inbound (.ok r)) :: t₂ →
      ∃ p, (p, w) ∈ sent t₁) ∧
    (∀ (k : ℕ) (p f : Bytes), (sent (run E c g acts))[k]? = some (p, f) →
      ((firstCopies (run E c g acts)).filter fun e => e.1 = f).length ≤ 1 ∧
        ∀ q, (f, q) ∈ firstCopies (run E c g acts) → q = p) ∧
    (∀ t₁ t₂ t₃ p f r, run E c g acts = t₁ ++ (.clientOutbound p, .outbound (.ok f)) :: t₂
        ++ (.gatewayInbound f, .inbound r) :: t₃ →
      (∀ o, (.gatewayInbound f, o) ∉ t₂) →
      (∀ n, (n, ReplayDecision.firstCopy) ∈
          observed (t₁ ++ (.clientOutbound p, .outbound (.ok f)) :: t₂) →
        n.toNat < (sent t₁).length + 1 + g.window.width) →
      r = .ok (p, .firstCopy)) ∧
    (∀ pre w e, (step E (after E c g pre) (.gatewayInbound w)).1 = .inbound (.error e) →
      (step E (after E c g pre) (.gatewayInbound w)).2.gateway.window
        = (after E c g pre).gateway.window) := by
  have hf := fresh_of_newSession hc hg
  have hlen : (sent (run E c g acts)).length < 2 ^ 64 := by
    have := sent_length_le (run E c g acts)
    rw [run_actions] at this
    omega
  refine ⟨?_, fun k p f hk => firstCopies_once hf E hlen hk,
    fun t₁ t₂ t₃ p f r hrun hfirst hwin => first_arrival hf E hlen hrun hfirst hwin, ?_⟩
  · rintro t₁ t₂ w ⟨p, d⟩ hrun
    obtain ⟨acts₁, -, -, ht₁, hr⟩ := Mealy.trace_eq_append_cons _ _ hrun
    have h := hf.inv E acts₁
    have hr' : Except.ok (p, d) = ((after E c g acts₁).gateway.inboundClassified
        (E.ideal (after E c g acts₁).log) w).1 := Output.inbound.inj hr
    obtain ⟨⟨i, hi, -⟩, -⟩ := h.of_inbound_ok hf.peers (Prod.ext hr'.symm rfl)
    rw [ht₁]
    exact ⟨p, List.mem_of_getElem? hi⟩
  · intro pre w e he
    have he' : ((after E c g pre).gateway.inboundClassified (E.ideal (after E c g pre).log) w).1
        = .error e := Output.inbound.inj he
    exact congrArg Session.window (Session.inboundClassified_error (Prod.ext he' rfl))

/-- Two sessions with window widths 1 and 100, and one frame that arrives twice. -/
theorem session_pair_secure_echo :
    ∃ c g : Session,
      newSession ⟨List.replicate 16 1, rfl⟩ (List.replicate 32 7) .initiator 1 = .ok c ∧
      newSession ⟨List.replicate 16 1, rfl⟩ (List.replicate 32 7) .responder 100 = .ok g ∧
      ∀ p : Bytes, p.length ≤ maxPayload →
        ((firstCopies (run checksumCipher c g [.clientOutbound p,
            .gatewayInbound (c.frame checksumCipher p),
            .gatewayInbound (c.frame checksumCipher p)])).filter
          fun e => e.1 = c.frame checksumCipher p).length ≤ 1 := by
  obtain ⟨c, hc⟩ : ∃ c, newSession ⟨List.replicate 16 1, rfl⟩ (List.replicate 32 7)
      .initiator 1 = .ok c := ⟨_, rfl⟩
  obtain ⟨g, hg⟩ : ∃ g, newSession ⟨List.replicate 16 1, rfl⟩ (List.replicate 32 7)
      .responder 100 = .ok g := ⟨_, rfl⟩
  refine ⟨c, g, hc, hg, fun p hp => ?_⟩
  refine ((session_pair_secure checksumCipher hc hg _ ?_).2.1 0 p _ ?_).1
  · exact List.countP_le_length.trans_lt (by norm_num)
  · rw [run, Mealy.trace, sent, List.filterMap_cons, step, Session.outbound_of_le _ _ hp]
    rfl

end SessionPair
end Gemina
