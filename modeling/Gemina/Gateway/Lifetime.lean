/-
# How often a session id is admitted

Runs that mix admissions with the operations of the data plane over one session store.  The
store refuses an id that it holds, so an id is admitted once, unless it was forgotten in
between: forgetting removes the only trace of the admission.
-/
import Gemina.Lib.Mealy
import Gemina.Gateway.DataPlane

namespace Gemina
namespace Lifetime

/-- The store, the data plane over it, and the state of the leaser. -/
structure Gate (L : Type) where
  store : SessionStore
  dataPlane : DataPlane
  leases : L

/-- One call, with what it depends on. -/
inductive Call where
  /-- `Admitter.Admit`. -/
  | admission (now : ℤ) (token : Bytes) (id : SessionID) (key : Bytes)
  /-- `Admitter.Handshake`. -/
  | handshake (now tokenNow : ℤ) (seed : KeySeed) (clientHello : Bytes)
  /-- `DataPlane.Handle`. -/
  | handle (datagram : Bytes)
  /-- `DataPlane.FrameReturn`. -/
  | frameReturn (id : SessionID) (payload : Bytes)
  /-- `DataPlane.Forget`. -/
  | forget (id : SessionID)

/-- The session id that an admission call asks for. -/
def Call.names : Call → Option SessionID
  | .admission _ _ id _ => some id
  | .handshake _ _ _ clientHello => (decodeClientHello clientHello).toOption.map ClientHello.id
  | _ => none

/-- What the calls run against. -/
structure Setting (L : Type) where
  crypto : Crypto
  tokenLib : TokenLib
  cipher : Cipher
  admitter : Admitter
  leaser : Option (Leaser L)
  identityPriv : Bytes

variable {L : Type}

/-- One call.  The output is the id that was admitted and the key that it was bound to, if the
call was a successful admission. -/
def step (S : Setting L) (s : Gate L) : Call → Option (SessionID × Bytes) × Gate L
  | .admission now token id key =>
    match S.admitter.admitSession S.tokenLib s.store now token id key with
    | (.error _, store) => (none, { s with store := store })
    | (.ok _, store) => (some (id, key), { s with store := store })
  | .handshake now tokenNow seed clientHello =>
    match S.admitter.handshake S.crypto S.tokenLib S.leaser S.identityPriv s.store s.leases now
      tokenNow seed clientHello with
    | (.error _, store, leases) => (none, { s with store := store, leases := leases })
    | (.ok answer, store, leases) =>
      (some (answer.id, (store.keys answer.id).getD []),
        { s with store := store, leases := leases })
  | .handle datagram =>
    (none, { s with dataPlane := (s.dataPlane.handle S.cipher s.store.sessionKey datagram).2 })
  | .frameReturn id payload =>
    (none, { s with
      dataPlane := (s.dataPlane.frameReturn S.cipher s.store.sessionKey id payload).2 })
  | .forget id =>
    let (store, dataPlane) := DataPlane.forget s.store s.dataPlane id
    (none, { s with store := store, dataPlane := dataPlane })

/-- A trace of calls with their outputs. -/
abbrev Trace : Type := List (Call × Option (SessionID × Bytes))

/-- The admissions of a run, each an id with its key. -/
def admissions (t : Trace) : List (SessionID × Bytes) := t.filterMap Prod.snd

lemma admissions_append (t u : Trace) : admissions (t ++ u) = admissions t ++ admissions u :=
  List.filterMap_append

/-- The trace of a run from an empty store. -/
def run (S : Setting L) (capacity : ℤ) (leases : L) (calls : List Call) : Trace :=
  Mealy.trace (step S) ⟨SessionStore.new, newDataPlane capacity, leases⟩ calls

/-! ## One call -/

/-- What a call does to the store: it admits the id that it names, which had no key; it forgets
an id; or it leaves the store alone. -/
lemma step_cases {S : Setting L} (hC : S.crypto.Lawful) (s : Gate L) (c : Call) :
    (∃ id key, c.names = some id ∧ s.store.keys id = none ∧ (step S s c).1 = some (id, key) ∧
      (step S s c).2.store = ⟨Function.update s.store.keys id (some key)⟩) ∨
    (∃ id, c = .forget id ∧ (step S s c).1 = none ∧ (step S s c).2.store = s.store.forget id) ∨
    ((step S s c).1 = none ∧ (step S s c).2.store = s.store) := by
  cases c with
  | admission now token id key =>
    rcases S.admitter.admitSession_cases S.tokenLib s.store now token id key with ⟨e, heq⟩ |
      ⟨claims, hnone, -, heq⟩
    · exact Or.inr (Or.inr ⟨by simp [step, heq], by simp [step, heq]⟩)
    · exact Or.inl ⟨id, key, rfl, hnone, by simp [step, heq], by simp [step, heq]⟩
  | handshake now tokenNow seed clientHello =>
    rcases Admitter.handshake_cases hC S.tokenLib S.admitter S.leaser S.identityPriv s.store
      s.leases now tokenNow seed clientHello with ⟨e, heq⟩ | ⟨k, e, -, -, -, heq⟩ |
      ⟨k, claims, ip, sh, hk, -, hnone, -, -, heq⟩
    · exact Or.inr (Or.inr ⟨by simp [step, heq], by simp [step, heq]⟩)
    · exact Or.inr (Or.inr ⟨by simp [step, heq], by simp [step, heq]⟩)
    · obtain ⟨hello, priv, hdec, -, hid, -⟩ := Admitter.handshakeKey_ok hk
      refine Or.inl ⟨k.id, k.key, ?_, hnone, by simp [step, heq], by simp [step, heq]⟩
      simp [Call.names, hdec, Except.toOption, hid]
  | handle datagram => exact Or.inr (Or.inr ⟨rfl, rfl⟩)
  | frameReturn id payload => exact Or.inr (Or.inr ⟨rfl, rfl⟩)
  | forget id => exact Or.inr (Or.inl ⟨id, rfl, rfl, rfl⟩)

/-! ## Whole runs -/

/-- The id was admitted and forgotten since. -/
def Forgotten (t : Trace) (id : SessionID) : Prop :=
  ∃ t₁ o t₂, t = t₁ ++ (.forget id, o) :: t₂ ∧ id ∈ (admissions t₁).map Prod.fst

lemma Forgotten.append {t : Trace} {id : SessionID} (h : Forgotten t id) (u : Trace) :
    Forgotten (t ++ u) id := by
  obtain ⟨t₁, o, t₂, rfl, hmem⟩ := h
  exact ⟨t₁, o, t₂ ++ u, by simp, hmem⟩

lemma Forgotten.mem_calls {S : Setting L} {capacity : ℤ} {leases : L} {calls : List Call}
    {id : SessionID} (h : Forgotten (run S capacity leases calls) id) : .forget id ∈ calls := by
  obtain ⟨t₁, o, t₂, heq, -⟩ := h
  rw [← Mealy.trace_inputs (step S) ⟨SessionStore.new, newDataPlane capacity, leases⟩ calls]
  exact List.mem_map.mpr ⟨(.forget id, o), by rw [show Mealy.trace _ _ calls = _ from heq]; simp,
    rfl⟩

/-- An id that was admitted has a key, or it was forgotten since. -/
lemma admitted_has_key {S : Setting L} (hC : S.crypto.Lawful) (capacity : ℤ) (leases : L)
    (calls : List Call) :
    ∀ id ∈ (admissions (run S capacity leases calls)).map Prod.fst,
      (Mealy.state (step S) ⟨SessionStore.new, newDataPlane capacity, leases⟩ calls).store.keys id
        ≠ none ∨ Forgotten (run S capacity leases calls) id := by
  refine Mealy.invariant (P := fun t (s : Gate L) => ∀ id ∈ (admissions t).map Prod.fst,
    s.store.keys id ≠ none ∨ Forgotten t id) (by simp [admissions]) ?_ calls
  intro t s c ih id hid
  rw [admissions_append, List.map_append, List.mem_append] at hid
  rcases step_cases hC s c with ⟨id', key, -, hnone, hout, hst⟩ | ⟨id', rfl, hout, hst⟩ |
    ⟨hout, hst⟩
  · by_cases hne : id = id'
    · left
      rw [hst]
      simp [hne]
    · have hold : id ∈ (admissions t).map Prod.fst := by
        simpa [admissions, hout, hne] using hid
      refine (ih id hold).imp (fun h => ?_) fun h => h.append _
      rw [hst]
      simpa [hne] using h
  · have hold : id ∈ (admissions t).map Prod.fst := by simpa [admissions, hout] using hid
    by_cases hne : id = id'
    · -- this very call forgets the id
      subst hne
      exact Or.inr ⟨t, _, [], rfl, hold⟩
    · refine (ih id hold).imp (fun h => ?_) fun h => h.append _
      rw [hst]
      simpa [SessionStore.forget, hne] using h
  · have hold : id ∈ (admissions t).map Prod.fst := by simpa [admissions, hout] using hid
    refine (ih id hold).imp (fun h => ?_) fun h => h.append _
    rwa [hst]

/-- No admission call of the run asks for an id that was admitted before and forgotten
since. -/
def NeverAsksForForgotten (S : Setting L) (capacity : ℤ) (leases : L) (calls : List Call) : Prop :=
  ∀ c₁ c c₂ id, calls = c₁ ++ c :: c₂ → c.names = some id →
    ¬ Forgotten (run S capacity leases c₁) id

/-- **An id that is not asked for again after it was forgotten is admitted once.**  In every
run in which no admission call asks for an id that was admitted and forgotten before, no id is
admitted twice, and so none is ever bound to two keys. -/
theorem admitted_once {S : Setting L} (hC : S.crypto.Lawful) (capacity : ℤ) (leases : L)
    (calls : List Call) (hcalls : NeverAsksForForgotten S capacity leases calls) :
    ((admissions (run S capacity leases calls)).map Prod.fst).Nodup ∧
      ∀ id key key', (id, key) ∈ admissions (run S capacity leases calls) →
        (id, key') ∈ admissions (run S capacity leases calls) → key = key' := by
  have hnodup : ((admissions (run S capacity leases calls)).map Prod.fst).Nodup := by
    induction calls using List.reverseRecOn with
    | nil => simp [run, admissions]
    | append_singleton calls c ih =>
      have ih := ih fun c₁ c' c₂ id heq => hcalls c₁ c' (c₂ ++ [c]) id (by simp [heq])
      have hkey := admitted_has_key hC capacity leases calls
      rw [run, Mealy.trace_concat, admissions_append]
      set s := Mealy.state (step S) ⟨SessionStore.new, newDataPlane capacity, leases⟩ calls
      rcases step_cases hC s c with ⟨id, key, hnames, hnone, hout, -⟩ | ⟨id, -, hout, -⟩ |
        ⟨hout, -⟩
      · -- the id had no key, so it was never admitted, or it was forgotten
        have hnot : id ∉ (admissions (run S capacity leases calls)).map Prod.fst := by
          intro hmem
          rcases hkey id hmem with hsome | hforgot
          · exact hsome hnone
          · exact hcalls calls c [] id rfl hnames hforgot
        simp only [admissions, hout, List.filterMap_cons, List.filterMap_nil, List.map_append,
          List.map_cons, List.map_nil]
        exact List.nodup_append_singleton.mpr ⟨hnot, ih⟩
      · simpa [admissions, hout, run] using ih
      · simpa [admissions, hout, run] using ih
  refine ⟨hnodup, fun id key key' h h' => ?_⟩
  exact congrArg Prod.snd (List.inj_on_of_nodup_map hnodup h h' rfl)

/-- A self-hosted gateway, with an exit path if there is a leaser. -/
def selfHosted (leaser : Option (Leaser L)) : Setting L :=
  ⟨sumCrypto, plainTokenLib, checksumCipher, openAdmitter, leaser, [1]⟩

/-- Two sessions that are admitted and forgotten, each id once. -/
theorem admitted_once_pair :
    ((admissions (run (selfHosted none) 64 () [.admission 0 [] ⟨List.replicate 16 1, rfl⟩ [1],
      .forget ⟨List.replicate 16 1, rfl⟩,
      .admission 0 [] ⟨List.replicate 16 2, rfl⟩ [2]])).map Prod.fst).Nodup := by
  refine (admitted_once sumCrypto_lawful 64 () _ ?_).1
  intro c₁ c c₂ id heq hnames hforgot
  have hmem := hforgot.mem_calls
  -- only the third call comes after the forgetting, and it asks for another id
  rcases c₁ with _ | ⟨x, _ | ⟨y, _ | ⟨z, c₁⟩⟩⟩
  · simp at hmem
  · simp only [List.cons_append, List.cons.injEq] at heq
    simp [← heq.1] at hmem
  · simp only [List.cons_append, List.nil_append, List.cons.injEq] at heq
    obtain ⟨rfl, rfl, rfl, -⟩ := heq
    simp only [List.mem_cons, List.not_mem_nil, or_false, reduceCtorEq, false_or] at hmem
    have hne : (⟨List.replicate 16 2, rfl⟩ : SessionID) ≠ ⟨List.replicate 16 1, rfl⟩ := by decide
    exact hne ((Option.some.inj hnames).trans (Call.forget.inj hmem))
  · simp at heq

/-- **An id is admitted again after it was forgotten, and bound to another key.** -/
theorem readmitted_after_forget :
    admissions (run (selfHosted none) 64 ()
      [.admission 0 [] ⟨List.replicate 16 1, rfl⟩ (List.replicate 32 1),
        .forget ⟨List.replicate 16 1, rfl⟩,
        .admission 0 [] ⟨List.replicate 16 1, rfl⟩ (List.replicate 32 2)])
      = [(⟨List.replicate 16 1, rfl⟩, List.replicate 32 1),
        (⟨List.replicate 16 1, rfl⟩, List.replicate 32 2)] ∧
    ¬ ((admissions (run (selfHosted none) 64 ()
      [.admission 0 [] ⟨List.replicate 16 1, rfl⟩ (List.replicate 32 1),
        .forget ⟨List.replicate 16 1, rfl⟩,
        .admission 0 [] ⟨List.replicate 16 1, rfl⟩ (List.replicate 32 2)])).map
      Prod.fst).Nodup := by
  decide

end Lifetime
end Gemina
