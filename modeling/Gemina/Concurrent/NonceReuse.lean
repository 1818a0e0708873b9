/-
# No nonce is used twice under a key

Two seal operations with the same nonce come from the same side, and with the same key from the
same session, whose counter does not repeat.  That two sessions of one side have different keys
is what the handshakes, the store and the cache of the data plane have to ensure: a client
completes a handshake once; the gateway builds at most one session for a key, as long as the
store has the key the session stays in the cache, and the key of a forgotten session does not
come back.
-/
import Gemina.Concurrent.Model

namespace Gemina
namespace Concurrent

open State (ephemeralPub)

variable {C : Crypto}

/-! ## The clients -/

/-- The public keys of the handshakes that were taken from the registry. -/
def spent (C : Crypto) (completing : List ClientHandshake) (derivs : List Derivation) :
    List Bytes :=
  completing.map (ephemeralPub C) ++ derivs.map Derivation.clientEph

/-- Every public key that a client drew belongs to one handshake, which is in flight, or being
completed, or has become a session. -/
structure ClientInv (C : Crypto) (reg : HSRegistry) (completing : List ClientHandshake)
    (derivs : List Derivation) (keys ephemerals : List Bytes) : Prop where
  nodup : (spent C completing derivs).Nodup
  pending_inj : ∀ h h' hs hs', reg.pending h = some hs → reg.pending h' = some hs' →
    ephemeralPub C hs = ephemeralPub C hs' → h = h'
  pending_unspent : ∀ h hs, reg.pending h = some hs →
    ephemeralPub C hs ∉ spent C completing derivs
  pending_drawn : ∀ h hs, reg.pending h = some hs → ephemeralPub C hs ∈ ephemerals
  spent_drawn : ∀ p ∈ spent C completing derivs, p ∈ ephemerals
  keys_eq : keys = derivs.map Derivation.key

namespace ClientInv

variable {reg : HSRegistry} {completing : List ClientHandshake} {derivs : List Derivation}
  {keys ephemerals : List Bytes} {hs : ClientHandshake}

lemma start (C : Crypto) : ClientInv C newHSRegistry [] [] [] [] :=
  ⟨by simp [spent], by simp [newHSRegistry], by simp [newHSRegistry], by simp [newHSRegistry],
    by simp [spent], rfl⟩

/-- The gateway draws a key. -/
lemma draw (h : ClientInv C reg completing derivs keys ephemerals) (p : Bytes) :
    ClientInv C reg completing derivs keys (ephemerals ++ [p]) :=
  ⟨h.nodup, h.pending_inj, h.pending_unspent,
    fun handle hs hp => List.mem_append_left _ (h.pending_drawn handle hs hp),
    fun q hq => List.mem_append_left _ (h.spent_drawn q hq), h.keys_eq⟩

/-- A handshake with a new public key is begun.  The handle may be one that was used before. -/
lemma add (h : ClientInv C reg completing derivs keys ephemerals)
    (hnew : ephemeralPub C hs ∉ ephemerals) :
    ClientInv C (reg.add hs).2 completing derivs keys (ephemerals ++ [ephemeralPub C hs]) := by
  have hcases : ∀ {handle hs'}, (reg.add hs).2.pending handle = some hs' →
      (handle = reg.next + 1 ∧ hs' = hs) ∨ reg.pending handle = some hs' := by
    intro handle hs' hp
    by_cases hh : handle = reg.next + 1
    · subst hh
      simp only [HSRegistry.add, Function.update_self, Option.some.injEq] at hp
      exact Or.inl ⟨rfl, hp.symm⟩
    · exact Or.inr (by simpa [HSRegistry.add, hh] using hp)
  refine ⟨h.nodup, ?_, ?_, ?_, fun q hq => List.mem_append_left _ (h.spent_drawn q hq), h.keys_eq⟩
  · intro h₁ h₂ hs₁ hs₂ hp₁ hp₂ heq
    rcases hcases hp₁ with ⟨hh₁, rfl⟩ | hold₁
    · rcases hcases hp₂ with ⟨hh₂, rfl⟩ | hold₂
      · rw [hh₁, hh₂]
      · exact absurd (heq ▸ h.pending_drawn _ _ hold₂) hnew
    · rcases hcases hp₂ with ⟨hh₂, rfl⟩ | hold₂
      · exact absurd (heq ▸ h.pending_drawn _ _ hold₁) hnew
      · exact h.pending_inj _ _ _ _ hold₁ hold₂ heq
  · intro handle hs' hp hmem
    rcases hcases hp with ⟨rfl, rfl⟩ | hp
    · exact hnew (h.spent_drawn _ hmem)
    · exact h.pending_unspent _ _ hp hmem
  · intro handle hs' hp
    rcases hcases hp with ⟨rfl, rfl⟩ | hp
    · simp
    · exact List.mem_append_left _ (h.pending_drawn _ _ hp)

/-- A handshake is taken: the handle is of no use afterwards. -/
lemma take (h : ClientInv C reg completing derivs keys ephemerals) {handle : UInt64}
    {reg' : HSRegistry} (htake : reg.take handle = (some hs, reg')) :
    ClientInv C reg' (completing ++ [hs]) derivs keys ephemerals := by
  obtain ⟨hpending, rfl⟩ : reg.pending handle = some hs ∧
      reg' = { reg with pending := Function.update reg.pending handle none } := by
    rw [HSRegistry.take] at htake
    split at htake
    · simp at htake
    · rename_i hs' hp
      rw [Prod.mk.injEq, Option.some.injEq] at htake
      exact ⟨htake.1 ▸ hp, htake.2.symm⟩
  have hperm : (spent C (completing ++ [hs]) derivs).Perm
      (ephemeralPub C hs :: spent C completing derivs) := by
    simp only [spent, List.map_append, List.map_cons, List.map_nil, List.append_assoc,
      List.singleton_append]
    exact List.perm_middle
  have hcases : ∀ {handle' hs'},
      Function.update reg.pending handle none handle' = some hs' →
      handle' ≠ handle ∧ reg.pending handle' = some hs' := by
    intro handle' hs' hp
    by_cases hh : handle' = handle
    · subst hh
      simp at hp
    · exact ⟨hh, by simpa [hh] using hp⟩
  refine ⟨?_, ?_, ?_, ?_, ?_, h.keys_eq⟩
  · rw [hperm.nodup_iff, List.nodup_cons]
    exact ⟨h.pending_unspent _ _ hpending, h.nodup⟩
  · intro h₁ h₂ hs₁ hs₂ hp₁ hp₂ heq
    exact h.pending_inj _ _ _ _ (hcases hp₁).2 (hcases hp₂).2 heq
  · intro handle' hs' hp hmem
    obtain ⟨hne, hp⟩ := hcases hp
    rcases List.mem_cons.mp (hperm.mem_iff.mp hmem) with heq | hmem
    · exact hne (h.pending_inj _ _ _ _ hp hpending heq)
    · exact h.pending_unspent _ _ hp hmem
  · exact fun handle' hs' hp => h.pending_drawn _ _ (hcases hp).2
  · intro p hp
    rcases List.mem_cons.mp (hperm.mem_iff.mp hp) with rfl | hp
    · exact h.pending_drawn _ _ hpending
    · exact h.spent_drawn _ hp

/-- A handshake becomes a session. -/
lemma complete {before after : List ClientHandshake}
    (h : ClientInv C reg (before ++ hs :: after) derivs keys ephemerals) {d : Derivation}
    (hd : d.clientEph = ephemeralPub C hs) :
    ClientInv C reg (before ++ after) (derivs ++ [d]) (keys ++ [d.key]) ephemerals := by
  have hperm : (spent C (before ++ after) (derivs ++ [d])).Perm
      (spent C (before ++ hs :: after) derivs) := by
    simp only [spent, List.map_append, List.map_cons, List.map_nil, hd]
    rw [← List.append_assoc]
    refine (List.perm_append_singleton _ _).trans ?_
    simp only [List.append_assoc, List.cons_append]
    exact List.perm_middle.symm
  refine ⟨hperm.nodup_iff.mpr h.nodup, h.pending_inj, ?_, h.pending_drawn, ?_, by
    rw [h.keys_eq, List.map_append, List.map_singleton]⟩
  · exact fun handle hs' hp hmem => h.pending_unspent handle hs' hp (hperm.mem_iff.mp hmem)
  · exact fun p hp => h.spent_drawn p (hperm.mem_iff.mp hp)

/-- A handshake is given up. -/
lemma drop {before after : List ClientHandshake}
    (h : ClientInv C reg (before ++ hs :: after) derivs keys ephemerals) :
    ClientInv C reg (before ++ after) derivs keys ephemerals := by
  have hsub : (spent C (before ++ after) derivs).Sublist (spent C (before ++ hs :: after) derivs) :=
    ((List.Sublist.append_left (List.sublist_cons_self _ _) _).map _).append_right _
  exact ⟨h.nodup.sublist hsub, h.pending_inj,
    fun handle hs' hp hmem => h.pending_unspent handle hs' hp (hsub.mem hmem), h.pending_drawn,
    fun p hp => h.spent_drawn p (hsub.mem hp), h.keys_eq⟩

end ClientInv

/-! ## The gateway -/

/-- Every key of the gateway was derived in one handshake, there is at most one session for it,
and while the store has the key this session is in the cache. -/
structure PlaneInv (keys : SessionID → Option Bytes) (sessions : SessionID → Option ℕ)
    (lock : PlaneLock) (derivs : List Derivation) (heapKeys ephemerals : List Bytes) : Prop where
  nodup : (derivs.map Derivation.gatewayEph).Nodup
  drawn : ∀ d ∈ derivs, d.gatewayEph ∈ ephemerals
  store_derived : ∀ id key, keys id = some key → ∃ d ∈ derivs, d.id = id ∧ d.key = key
  heap_derived : ∀ key ∈ heapKeys, ∃ d ∈ derivs, d.key = key
  heap_nodup : heapKeys.Nodup
  cached : ∀ id key ref, keys id = some key → heapKeys[ref]? = some key → sessions id = some ref
  building : ∀ id key, lock = .building id key → sessions id = none ∧ key ∉ heapKeys ∧
    ∃ d ∈ derivs, d.id = id ∧ d.key = key
  forgetting : ∀ id key, lock = .forgetting id → keys id = some key → key ∉ heapKeys

/-- Keys that were derived in different ways are different. -/
def Separate (derivs : List Derivation) : Prop :=
  ∀ d ∈ derivs, ∀ d' ∈ derivs, d.key = d'.key →
    d.clientEph = d'.clientEph ∧ d.gatewayEph = d'.gatewayEph ∧ d.id = d'.id

namespace PlaneInv

variable {keys : SessionID → Option Bytes} {sessions : SessionID → Option ℕ} {lock : PlaneLock}
  {derivs : List Derivation} {heapKeys ephemerals : List Bytes} {id : SessionID} {key : Bytes}

lemma start : PlaneInv SessionStore.new.keys (fun _ => none) .free [] [] [] :=
  ⟨by simp, by simp, by simp [SessionStore.new], by simp, by simp, by simp, by simp, by simp⟩

/-- A client draws a key. -/
lemma draw (h : PlaneInv keys sessions lock derivs heapKeys ephemerals) (p : Bytes) :
    PlaneInv keys sessions lock derivs heapKeys (ephemerals ++ [p]) :=
  { h with drawn := fun d hd => List.mem_append_left _ (h.drawn d hd) }

/-- A key that is derived with a new public key is not the key of any session. -/
lemma not_mem_heapKeys (h : PlaneInv keys sessions lock derivs heapKeys ephemerals)
    {d : Derivation} (hsep : Separate (derivs ++ [d])) (hnew : d.gatewayEph ∉ ephemerals) :
    d.key ∉ heapKeys := by
  intro hmem
  obtain ⟨d', hd', hkey⟩ := h.heap_derived _ hmem
  have heq := (hsep d' (List.mem_append_left _ hd') d (by simp) hkey).2.1
  exact hnew (heq ▸ h.drawn d' hd')

/-- A key is registered. -/
lemma register (h : PlaneInv keys sessions lock derivs heapKeys ephemerals) {d : Derivation}
    (hsep : Separate (derivs ++ [d])) (hnew : d.gatewayEph ∉ ephemerals) :
    PlaneInv (Function.update keys d.id (some d.key)) sessions lock (derivs ++ [d]) heapKeys
      (ephemerals ++ [d.gatewayEph]) := by
  have hfresh := h.not_mem_heapKeys hsep hnew
  have hcases : ∀ {id key}, Function.update keys d.id (some d.key) id = some key →
      (id = d.id ∧ key = d.key) ∨ keys id = some key := by
    intro id key hkey
    by_cases hid : id = d.id
    · subst hid
      rw [Function.update_self, Option.some.injEq] at hkey
      exact Or.inl ⟨rfl, hkey.symm⟩
    · exact Or.inr (by simpa [hid] using hkey)
  refine ⟨?_, ?_, ?_, ?_, h.heap_nodup, ?_, ?_, ?_⟩
  · rw [List.map_append, List.map_singleton, List.nodup_append_singleton]
    refine ⟨fun hmem => ?_, h.nodup⟩
    obtain ⟨d', hd', heq⟩ := List.mem_map.mp hmem
    exact hnew (heq ▸ h.drawn d' hd')
  · intro d' hd'
    rcases List.mem_append.mp hd' with hd' | hd'
    · exact List.mem_append_left _ (h.drawn d' hd')
    · rw [List.mem_singleton.mp hd']
      simp
  · intro id key hkey
    rcases hcases hkey with ⟨rfl, rfl⟩ | hkey
    · exact ⟨d, by simp, rfl, rfl⟩
    · obtain ⟨d', hd', hd⟩ := h.store_derived id key hkey
      exact ⟨d', List.mem_append_left _ hd', hd⟩
  · intro key hkey
    obtain ⟨d', hd', hd⟩ := h.heap_derived key hkey
    exact ⟨d', List.mem_append_left _ hd', hd⟩
  · intro id key ref hkey href
    rcases hcases hkey with ⟨rfl, rfl⟩ | hkey
    · exact absurd (List.mem_of_getElem? href) hfresh
    · exact h.cached id key ref hkey href
  · intro id key hlock
    obtain ⟨hnone, hmem, d', hd', hd⟩ := h.building id key hlock
    exact ⟨hnone, hmem, d', List.mem_append_left _ hd', hd⟩
  · intro id key hlock hkey
    rcases hcases hkey with ⟨rfl, rfl⟩ | hkey
    · exact hfresh
    · exact h.forgetting id key hlock hkey

/-- A key is taken out of the store, and the lock may be taken for this. -/
lemma forget (h : PlaneInv keys sessions lock derivs heapKeys ephemerals) (id : SessionID)
    {lock' : PlaneLock} (hlock : lock' = lock ∨ lock' = .forgetting id) :
    PlaneInv (Function.update keys id none) sessions lock' derivs heapKeys ephemerals := by
  have hcases : ∀ {id' key}, Function.update keys id none id' = some key →
      id' ≠ id ∧ keys id' = some key := by
    intro id' key hkey
    by_cases hid : id' = id
    · subst hid
      simp at hkey
    · exact ⟨hid, by simpa [hid] using hkey⟩
  refine ⟨h.nodup, h.drawn, fun id' key hkey => h.store_derived id' key (hcases hkey).2,
    h.heap_derived, h.heap_nodup,
    fun id' key ref hkey href => h.cached id' key ref (hcases hkey).2 href, ?_, ?_⟩
  · intro id' key hl
    rcases hlock with rfl | rfl
    · exact h.building id' key hl
    · cases hl
  · intro id' key hl hkey
    obtain ⟨hne, hkey⟩ := hcases hkey
    rcases hlock with rfl | rfl
    · exact h.forgetting id' key hl hkey
    · cases hl
      exact absurd rfl hne

/-- `sessionFor` reads the key of an id that has no session. -/
lemma miss (h : PlaneInv keys sessions .free derivs heapKeys ephemerals) (hkey : keys id = some key)
    (hnone : sessions id = none) :
    PlaneInv keys sessions (.building id key) derivs heapKeys ephemerals := by
  refine { h with building := ?_, forgetting := by simp }
  rintro _ _ ⟨⟩
  refine ⟨hnone, fun hmem => ?_, h.store_derived id key hkey⟩
  obtain ⟨ref, href⟩ := List.mem_iff_getElem?.mp hmem
  have := h.cached id key ref hkey href
  rw [hnone] at this
  cases this

/-- The lock is released, and nothing was done under it. -/
lemma release (h : PlaneInv keys sessions lock derivs heapKeys ephemerals) :
    PlaneInv keys sessions .free derivs heapKeys ephemerals :=
  { h with building := by simp, forgetting := by simp }

/-- `sessionFor` builds a session.  Meanwhile the store may have lost the key, but it did not
give it to another id. -/
lemma build (h : PlaneInv keys sessions (.building id key) derivs heapKeys ephemerals)
    (hsep : Separate derivs) :
    PlaneInv keys (Function.update sessions id (some heapKeys.length)) .free derivs
      (heapKeys ++ [key]) ephemerals := by
  obtain ⟨hnone, hmem, d, hd, hdid, hdkey⟩ := h.building id key rfl
  refine ⟨h.nodup, h.drawn, h.store_derived, ?_, ?_, ?_, by simp, by simp⟩
  · intro key' hkey'
    rcases List.mem_append.mp hkey' with hkey' | hkey'
    · exact h.heap_derived key' hkey'
    · exact ⟨d, hd, by rw [hdkey, List.mem_singleton.mp hkey']⟩
  · rw [List.nodup_append_singleton]
    exact ⟨hmem, h.heap_nodup⟩
  · intro id' key' ref hkey' href
    rw [List.getElem?_append] at href
    split at href
    · -- a session that was there before, of another id
      have hold := h.cached id' key' ref hkey' href
      have hne : id' ≠ id := by
        rintro rfl
        rw [hnone] at hold
        cases hold
      rw [Function.update_of_ne hne]
      exact hold
    · rename_i hge
      obtain ⟨hlt, rfl⟩ : ref = heapKeys.length ∧ key' = key := by
        rw [List.getElem?_singleton] at href
        split at href
        · exact ⟨by omega, (Option.some.inj href).symm⟩
        · cases href
      obtain ⟨d', hd', hdid', hdkey'⟩ := h.store_derived id' key' hkey'
      have heq := (hsep d' hd' d hd (hdkey'.trans hdkey.symm)).2.2
      rw [← hdid', heq, hdid, Function.update_self, hlt]

/-- `Forget` removes the session. -/
lemma forgetSession (h : PlaneInv keys sessions (.forgetting id) derivs heapKeys ephemerals) :
    PlaneInv keys (Function.update sessions id none) .free derivs heapKeys ephemerals := by
  refine { h with cached := ?_, building := by simp, forgetting := by simp }
  intro id' key' ref hkey' href
  have hne : id' ≠ id := by
    rintro rfl
    exact h.forgetting id' key' rfl hkey' (List.mem_of_getElem? href)
  rw [Function.update_of_ne hne]
  exact h.cached id' key' ref hkey' href

end PlaneInv

/-! ## The seal operations -/

/-- The numbers that the session at `ref` sealed with. -/
def numbers (seals : List SealOp) (role : Role) (ref : ℕ) : List PacketNumber :=
  (seals.filter fun x => x.role = role ∧ x.ref = ref).map SealOp.number

lemma numbers_append (l l' : List SealOp) (role : Role) (ref : ℕ) :
    numbers (l ++ l') role ref = numbers l role ref ++ numbers l' role ref := by
  simp [numbers]

lemma numbers_singleton (x : SealOp) (role : Role) (ref : ℕ) :
    numbers [x] role ref = if x.role = role ∧ x.ref = ref then [x.number] else [] := by
  by_cases h : x.role = role ∧ x.ref = ref <;> simp [numbers, h]

/-- Every seal operation was made by a session, under its key and with the nonce of its side,
and no two have the same key and nonce. -/
structure SealInv (heap : Role → List Session) (seals : List SealOp) : Prop where
  session : ∀ role ref (session : Session), (heap role)[ref]? = some session →
    session.role = role ∧ session.HasFramed (numbers seals role ref)
  made : ∀ x ∈ seals, ∃ session : Session, (heap x.role)[x.ref]? = some session ∧
    x.key = session.key.1 ∧ x.nonce = nonce x.role.sendDir x.number
  nodup : (seals.map fun x => (x.key, x.nonce)).Nodup

namespace SealInv

variable {heap : Role → List Session} {seals : List SealOp} {role : Role} {ref : ℕ}
  {session : Session}

lemma start : SealInv (fun _ => []) [] := ⟨by simp, by simp, by simp⟩

/-- A new session has sealed nothing. -/
lemma alloc (h : SealInv heap seals) (hrole : session.role = role) (hnext : session.next = 0) :
    SealInv (Function.update heap role (heap role ++ [session])) seals := by
  have hold : ∀ role' (ref' : ℕ) session', (heap role')[ref']? = some session' →
      (Function.update heap role (heap role ++ [session]) role')[ref']? = some session' := by
    intro role' ref' session' hs
    by_cases hr : role' = role
    · subst hr
      rw [Function.update_self, List.getElem?_append_left (List.getElem?_eq_some_iff.mp hs).1, hs]
    · rwa [Function.update_of_ne hr]
  refine ⟨?_, ?_, h.nodup⟩
  · intro role' ref' session' hs
    by_cases hr : role' = role
    · subst hr
      rw [Function.update_self, List.getElem?_append] at hs
      split at hs
      · exact h.session role' ref' session' hs
      · rename_i hge
        rw [List.getElem?_singleton] at hs
        split at hs
        · cases hs
          have hnone : numbers seals role' ref' = [] := by
            rw [numbers, List.map_eq_nil_iff, List.filter_eq_nil_iff]
            intro x hx hxr
            simp only [decide_eq_true_eq] at hxr
            obtain ⟨s, hs, -⟩ := h.made x hx
            rw [hxr.1, hxr.2] at hs
            exact hge (List.getElem?_eq_some_iff.mp hs).1
          rw [hnone]
          exact ⟨hrole, Session.hasFramed_new hnext⟩
        · cases hs
    · rw [Function.update_of_ne hr] at hs
      exact h.session role' ref' session' hs
  · intro x hx
    obtain ⟨s, hs, hk, hn⟩ := h.made x hx
    exact ⟨s, hold _ _ _ hs, hk, hn⟩

/-- What the heap holds after a session was changed. -/
lemma getElem?_write (hs : (heap role)[ref]? = some session) (session' : Session) (role' : Role)
    (ref' : ℕ) :
    (Function.update heap role ((heap role).set ref session') role')[ref']? =
      if role' = role ∧ ref' = ref then some session' else (heap role')[ref']? := by
  by_cases hr : role' = role
  · subst hr
    have hlt := (List.getElem?_eq_some_iff.mp hs).1
    by_cases href : ref' = ref
    · subst href
      simp [hlt]
    · simp [href, Ne.symm href]
  · simp [hr]

/-- A seal operation is made by a session that still has its key after the session changed. -/
lemma made_write (h : SealInv heap seals) (hs : (heap role)[ref]? = some session)
    {session' : Session} (hkey : session'.key = session.key) (x : SealOp) (hx : x ∈ seals) :
    ∃ s, (Function.update heap role ((heap role).set ref session') x.role)[x.ref]? = some s ∧
      x.key = s.key.1 ∧ x.nonce = nonce x.role.sendDir x.number := by
  obtain ⟨s, hs', hk, hn⟩ := h.made x hx
  rw [getElem?_write hs]
  split
  · rename_i heq
    rw [heq.1, heq.2, hs, Option.some.injEq] at hs'
    exact ⟨session', rfl, by rw [hk, hkey, hs'], hn⟩
  · exact ⟨s, hs', hk, hn⟩

/-- A session receives. -/
lemma inbound (h : SealInv heap seals) (hs : (heap role)[ref]? = some session)
    {session' : Session} (hrole : session'.role = session.role) (hkey : session'.key = session.key)
    (hnext : session'.next = session.next) :
    SealInv (Function.update heap role ((heap role).set ref session')) seals := by
  refine ⟨?_, h.made_write hs hkey, h.nodup⟩
  intro role' ref' s hs'
  rw [getElem?_write hs] at hs'
  split at hs'
  · rename_i heq
    obtain ⟨rfl, rfl⟩ := heq
    cases hs'
    obtain ⟨hr, hf⟩ := h.session _ _ _ hs
    exact ⟨hrole.trans hr, by rw [Session.HasFramed, hnext]; exact hf⟩
  · exact h.session role' ref' s hs'

/-- **A session seals.**  The nonce names the side and the key names the session, if no two
sessions of one side have the same key. -/
lemma outbound (h : SealInv heap seals) (hs : (heap role)[ref]? = some session)
    (hkeys : (keysOf (heap role)).Nodup) (hfew : (numbers seals role ref).length < 2 ^ 64)
    (payload frame : Bytes) :
    SealInv (Function.update heap role ((heap role).set ref { session with
      next := session.next + 1 })) (seals ++ [.ofOutbound role ref session payload frame]) := by
  obtain ⟨hrole, hframed⟩ := h.session _ _ _ hs
  have hnonce : (SealOp.ofOutbound role ref session payload frame).nonce
      = nonce role.sendDir (session.next + 1) := by
    rw [SealOp.ofOutbound, Session.sealedNext, hrole]
  refine ⟨?_, ?_, ?_⟩
  · intro role' ref' s hs'
    rw [getElem?_write hs] at hs'
    rw [numbers_append, numbers_singleton]
    split at hs'
    · rename_i heq
      obtain ⟨rfl, rfl⟩ := heq
      cases hs'
      rw [if_pos ⟨rfl, rfl⟩]
      exact ⟨hrole, hframed.next⟩
    · rename_i hne
      rw [if_neg (fun heq => hne ⟨heq.1.symm, heq.2.symm⟩), List.append_nil]
      exact h.session role' ref' s hs'
  · intro x hx
    rcases List.mem_append.mp hx with hx | hx
    · have hkey : ({ session with next := session.next + 1 } : Session).key = session.key := rfl
      exact h.made_write hs hkey x hx
    · rw [List.mem_singleton.mp hx]
      refine ⟨{ session with next := session.next + 1 }, ?_, rfl, hnonce⟩
      exact (getElem?_write hs _ _ _).trans (if_pos ⟨rfl, rfl⟩)
  · rw [List.map_append, List.map_singleton, List.nodup_append_singleton]
    refine ⟨fun hmem => ?_, h.nodup⟩
    obtain ⟨x, hx, heq⟩ := List.mem_map.mp hmem
    obtain ⟨s, hs', hk, hn⟩ := h.made x hx
    rw [Prod.mk.injEq, hnonce] at heq
    obtain ⟨hdir, hnum⟩ := nonce_inj (hn.symm.trans heq.2)
    -- the directions agree, so it is the same side
    have hside : x.role = role := by
      revert hdir
      cases x.role <;> cases role <;> simp [Role.sendDir, dirInitiator, dirResponder]
    rw [hside] at hs'
    -- the keys agree, so it is the same session
    have hsame : x.ref = ref := by
      have hx' : (keysOf (heap role))[x.ref]? = some session.key.1 := by
        rw [keysOf, List.getElem?_map, hs', Option.map_some, ← hk, heq.1]
        rfl
      have hr' : (keysOf (heap role))[ref]? = some session.key.1 := by
        rw [keysOf, List.getElem?_map, hs, Option.map_some]
      have hlt := (List.getElem?_eq_some_iff.mp hx').1
      exact (List.getElem?_inj hlt hkeys).mp (hx'.trans hr'.symm)
    -- and the session does not use a number twice
    have hnew := hframed.next.nodup (by simpa using hfew)
    refine (List.nodup_append_singleton.mp hnew).1 ?_
    refine List.mem_map.mpr ⟨x, List.mem_filter.mpr ⟨hx, ?_⟩, hnum⟩
    simp [hside, hsame]

end SealInv

/-! ## All together -/

variable {S : Setting} {s s' : State}

/-- What is assumed of a run: keys that were derived from different public keys or for different
sessions are different, no public key is drawn twice, and no session seals `2 ^ 64` packets. -/
structure Ideal (s : State) : Prop where
  keys : ∀ role role', ∀ d ∈ s.derivations role, ∀ d' ∈ s.derivations role', d.key = d'.key →
    d.clientEph = d'.clientEph ∧ d.gatewayEph = d'.gatewayEph ∧ d.id = d'.id
  ephemerals : s.ephemerals.Nodup
  few : ∀ role ref, (numbers s.seals role ref).length < 2 ^ 64

lemma Ideal.separate (h : Ideal s) (role : Role) : Separate (s.derivations role) :=
  fun d hd d' hd' heq => h.keys role role d hd d' hd' heq

/-- What the observer noted stays noted. -/
lemma Step.grows (h : Step S s s') : (∀ role, s.derivations role <+: s'.derivations role) ∧
    s.ephemerals <+: s'.ephemerals ∧ s.seals <+: s'.seals := by
  have hderive : ∀ (x : State) (role' : Role) (d : Derivation) (role : Role),
      x.derivations role <+: (x.derive role' d).derivations role := by
    intro x role' d role
    by_cases hr : role = role'
    · subst hr
      simp [State.derive]
    · simp [State.derive, hr]
  cases h with
  | begin => exact ⟨fun _ => List.prefix_refl _, List.prefix_append _ _, List.prefix_refl _⟩
  | complete => exact ⟨hderive _ _ _, List.prefix_refl _, List.prefix_refl _⟩
  | register => exact ⟨hderive _ _ _, List.prefix_append _ _, List.prefix_refl _⟩
  | outbound => exact ⟨fun _ => List.prefix_refl _, List.prefix_refl _, List.prefix_append _ _⟩
  | _ => exact ⟨fun _ => List.prefix_refl _, List.prefix_refl _, List.prefix_refl _⟩

/-- An assumption about a run is one about its beginning. -/
lemma Ideal.of_step (h : Step S s s') (hi : Ideal s') : Ideal s := by
  obtain ⟨hd, he, hs⟩ := h.grows
  refine ⟨?_, hi.ephemerals.sublist he.sublist, ?_⟩
  · intro role role' d hmem d' hmem' heq
    exact hi.keys role role' d ((hd role).subset hmem) d' ((hd role').subset hmem') heq
  · intro role ref
    refine lt_of_le_of_lt ?_ (hi.few role ref)
    exact ((hs.sublist.filter _).map _).length_le

/-- What holds in every state of a run. -/
structure Inv (S : Setting) (s : State) : Prop where
  client : ClientInv S.crypto s.hsReg s.completing (s.derivations .initiator)
    (keysOf (s.heap .initiator)) s.ephemerals
  plane : PlaneInv s.store.keys s.sessions s.lock (s.derivations .responder)
    (keysOf (s.heap .responder)) s.ephemerals
  seals : SealInv s.heap s.seals

/-- No two sessions of one side have the same key. -/
lemma Inv.keys_nodup (h : Inv S s) (hi : Ideal s) (role : Role) :
    (keysOf (s.heap role)).Nodup := by
  cases role with
  | responder => exact h.plane.heap_nodup
  | initiator =>
    have hephs : ((s.derivations .initiator).map Derivation.clientEph).Nodup :=
      (List.nodup_append.mp h.client.nodup).2.1
    rw [h.client.keys_eq, List.Nodup, List.pairwise_map]
    rw [List.Nodup, List.pairwise_map] at hephs
    refine hephs.imp_of_mem fun hd hd' hne heq => hne ?_
    exact (hi.separate .initiator _ hd _ hd' heq).1

/-- A change of a session leaves its key alone, so the invariants of the two sides hold on. -/
lemma Inv.write (h : Inv S s) {role : Role} {ref : ℕ} {session session' : Session}
    {seals : List SealOp} (hseals : SealInv (s.write role ref session').heap seals)
    (hs : (s.heap role)[ref]? = some session) (hkey : session'.key = session.key) :
    Inv S { s.write role ref session' with seals := seals } := by
  have hkeys := keysOf_write hs hkey
  refine ⟨?_, ?_, hseals⟩
  · simp only [hkeys]
    exact h.client
  · simp only [hkeys]
    exact h.plane

/-- **Every section of every call keeps the invariant.** -/
lemma Inv.step (h : Inv S s) (hstep : Step S s s') (hi : Ideal s') : Inv S s' := by
  have hi₀ := Ideal.of_step hstep hi
  cases hstep with
  | @begin _ _ _ _ _ _ hs hbegin =>
    have hnew : State.ephemeralPub S.crypto hs ∉ s.ephemerals :=
      (List.nodup_append_singleton.mp hi.ephemerals).1
    exact ⟨h.client.add hnew, h.plane.draw _, h.seals⟩
  | take htake => exact ⟨h.client.take htake, h.plane, h.seals⟩
  | @complete before after hs _ _ hello session htaken hhello hcomplete =>
    obtain ⟨-, -, -, -, -, -, -, -, hrole, hnext⟩ := ClientHandshake.complete_ok hcomplete
    refine ⟨?_, ?_, ?_⟩
    · have hc := h.client
      rw [htaken] at hc
      simpa [State.alloc, State.derive, keysOf] using hc.complete
        (d := ⟨State.ephemeralPub S.crypto hs, hello.ephemeralPub, hs.sessionID, session.key.1⟩) rfl
    · simpa [State.alloc, State.derive] using h.plane
    · exact h.seals.alloc hrole hnext
  | drop htaken =>
    have hc := h.client
    rw [htaken] at hc
    exact ⟨hc.drop, h.plane, h.seals⟩
  | @register hello k store hreg =>
    obtain ⟨-, hstore, -⟩ := hreg.spec
    have hnew : k.gatewayEphPub ∉ s.ephemerals :=
      (List.nodup_append_singleton.mp hi.ephemerals).1
    have hsep : Separate (s.derivations .responder ++
        [⟨hello.ephemeralPub, k.gatewayEphPub, k.id, k.key⟩]) := by
      simpa [State.derive] using hi.separate .responder
    refine ⟨?_, ?_, h.seals⟩
    · simpa [State.derive] using h.client.draw k.gatewayEphPub
    · simpa [State.derive, hstore] using h.plane.register hsep hnew
  | answer => exact ⟨h.client, h.plane, h.seals⟩
  | unwind => exact ⟨h.client, h.plane.forget _ (Or.inl rfl), h.seals⟩
  | miss hfree hnone hkey =>
    have hp := h.plane
    rw [hfree] at hp
    exact ⟨h.client, hp.miss hkey hnone, h.seals⟩
  | @build id key session hlock hnew =>
    obtain ⟨-, -, hrole, hkey, hnext, -⟩ := newSession_ok hnew
    have hp := h.plane
    rw [hlock] at hp
    refine ⟨by simpa [State.alloc] using h.client, ?_, h.seals.alloc hrole hnext⟩
    simpa [State.alloc, keysOf, hkey] using hp.build (hi₀.separate .responder)
  | buildFails => exact ⟨h.client, h.plane.release, h.seals⟩
  | forgetKey => exact ⟨h.client, h.plane.forget _ (Or.inr rfl), h.seals⟩
  | forgetSession hlock =>
    have hp := h.plane
    rw [hlock] at hp
    exact ⟨h.client, hp.forgetSession, h.seals⟩
  | @outbound role ref session session' payload frame hs hout =>
    obtain ⟨-, rfl⟩ := Session.outbound_ok hout
    have hfew : (numbers s.seals role ref).length < 2 ^ 64 := hi₀.few role ref
    have hsealed := h.seals.outbound hs (h.keys_nodup hi₀ role) hfew payload frame
    exact Inv.write h hsealed hs rfl
  | @inbound role ref session wire hs =>
    obtain ⟨window, hw⟩ := Session.inboundClassified_snd S.cipher session wire
    rw [hw]
    have hseals : SealInv (s.write role ref { session with window := window }).heap s.seals :=
      h.seals.inbound hs rfl rfl rfl
    exact h.write hseals hs rfl

/-- Every step logs the seal operation of the frame that it makes. -/
lemma framed_of_step (h : Step S s s') (hs : ∀ x ∈ s.seals, x.Framed S.cipher) :
    ∀ x ∈ s'.seals, x.Framed S.cipher := by
  cases h with
  | @outbound role ref session session' payload frame _ hout =>
    intro x hx
    rcases List.mem_append.mp hx with hx | hx
    · exact hs x hx
    · rw [List.mem_singleton.mp hx]
      exact SealOp.framed_ofOutbound hout role ref
  | _ => exact hs

/-- **No nonce is used twice.**  In every interleaving of handshakes, of traffic and of
forgetting, no two seal operations anywhere use the same key with the same nonce, and every frame
that was made is what its seal operation gives. -/
theorem no_nonce_reuse (S : Setting) {s : State} (hrun : Reaches S start s) (hideal : Ideal s) :
    (s.seals.map fun x => (x.key, x.nonce)).Nodup ∧ ∀ x ∈ s.seals, x.Framed S.cipher := by
  have hinv : Inv S s := by
    induction hrun with
    | refl => exact ⟨ClientInv.start _, PlaneInv.start, SealInv.start⟩
    | tail _ hstep ih => exact (ih (Ideal.of_step hstep hideal)).step hstep hideal
  refine ⟨hinv.seals.nodup, ?_⟩
  clear hinv hideal
  induction hrun with
  | refl => exact List.forall_mem_nil _
  | tail _ hstep ih => exact framed_of_step hstep ih

section Sample

set_option maxRecDepth 8000

/-- What a client keeps whose ephemeral key is all twos. -/
def sampleHandshake : ClientHandshake := ⟨sampleID, List.replicate 32 2, List.replicate 32 7⟩

/-- What the gateway derives with an ephemeral key of threes. -/
def sampleKeyed : Admitter.Keyed :=
  ⟨sampleID, [], List.replicate 32 6, List.replicate 32 3⟩

/-- A client and the gateway derive the same key, and each seals a packet with the number one. -/
theorem no_nonce_reuse_pair :
    ∃ s, Reaches openSetting start s ∧
      s.seals.map (fun x => (x.key, x.number))
        = [(List.replicate 32 6, 1), (List.replicate 32 6, 1)] ∧
      (s.seals.map fun x => (x.key, x.nonce)).Nodup ∧
      ∀ x ∈ s.seals, x.Framed openSetting.cipher := by
  have hbegin : beginClientHandshake openSetting.crypto (List.replicate 32 7) [] (.ok sampleID)
      (.ok ⟨List.replicate 32 2, rfl⟩) 0 = .ok (helloFrom 1, sampleHandshake) := rfl
  have hkeyed : openSetting.admitter.handshakeKey openSetting.crypto 0
      (.ok ⟨List.replicate 32 3, rfl⟩) (helloFrom 1) = .ok sampleKeyed := rfl
  obtain ⟨client, hclient, hckey, hcnext⟩ : ∃ client, sampleHandshake.complete openSetting.crypto
      (helloWith 3 (ByteArrayN.zero _)) 64 = .ok client ∧ client.key.1 = List.replicate 32 6 ∧
        client.next = 0 :=
    ⟨_, rfl, rfl, rfl⟩
  obtain ⟨gateway, hgateway⟩ : ∃ gateway, newSession sampleID sampleKeyed.key .responder
      openSetting.capacity = .ok gateway := ⟨_, rfl⟩
  obtain ⟨-, -, -, hgkey, hgnext, -⟩ := newSession_ok hgateway
  have hempty : ([] : Bytes).length ≤ maxPayload := by decide
  -- the client begins, the gateway registers the key, the client completes and seals
  have h₁ := Relation.ReflTransGen.single (Step.begin (s := start) hbegin)
  have h₂ := h₁.tail (.register (.intro 0 rfl hkeyed rfl))
  have h₃ := h₂.tail (@Step.take openSetting _ 1 sampleHandshake _ rfl)
  have h₄ := h₃.tail (@Step.complete openSetting _ [] [] _ _ _ _ _ rfl rfl hclient)
  have h₅ := h₄.tail (@Step.outbound openSetting _ .initiator 0 _ _ _ _ rfl
    (Session.outbound_of_le openSetting.cipher client hempty))
  -- the gateway builds its session and seals
  have h₆ := h₅.tail (@Step.miss openSetting _ sampleID sampleKeyed.key rfl rfl rfl)
  have h₇ := h₆.tail (.build rfl hgateway)
  have h₈ := h₇.tail (@Step.outbound openSetting _ .responder 0 _ _ _ _ rfl
    (Session.outbound_of_le openSetting.cipher gateway hempty))
  refine ⟨_, h₈, ?_, no_nonce_reuse openSetting h₈ ⟨?_, ?_, ?_⟩⟩
  · simp [SealOp.ofOutbound, Session.sealedNext, Session.nextID, hckey, hcnext, hgkey, hgnext,
      start, State.write, State.alloc, State.derive, sampleKeyed]
  · -- both derived the key from the same public keys
    have hsame : ∀ role, ∀ d ∈ (Function.update (Function.update (fun _ => []) Role.responder
        [⟨List.replicate 32 2, List.replicate 32 3, sampleID, List.replicate 32 6⟩]) .initiator
        [⟨List.replicate 32 2, List.replicate 32 3, sampleID, client.key.1⟩] :
          Role → List Derivation) role,
        d.clientEph = List.replicate 32 2 ∧ d.gatewayEph = List.replicate 32 3 ∧
          d.id = sampleID := by
      rintro (_ | _) d hd
      · simp only [Function.update_self, List.mem_singleton] at hd
        simp [hd]
      · simp only [ne_eq, reduceCtorEq, not_false_eq_true, Function.update_of_ne,
          Function.update_self, List.mem_singleton] at hd
        simp [hd]
    intro role role' d hd d' hd' _
    obtain ⟨h1, h2, h3⟩ := hsame role d hd
    obtain ⟨h1', h2', h3'⟩ := hsame role' d' hd'
    exact ⟨h1.trans h1'.symm, h2.trans h2'.symm, h3.trans h3'.symm⟩
  · show ([List.replicate 32 2, List.replicate 32 3] : List Bytes).Nodup
    decide
  · intro role ref
    rw [numbers, List.length_map]
    exact lt_of_le_of_lt (List.length_filter_le _ _) (by simp [start, State.write, State.alloc,
      State.derive])

end Sample

end Concurrent
end Gemina
