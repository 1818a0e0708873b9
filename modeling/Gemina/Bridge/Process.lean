/-
# The calls of the bridge, interleaved

The host may call the bridge from several threads.  Each operation on a registry holds its mutex,
and a call makes up to two of them, or one and then one on a session that it found; here each is
one step, and the steps of the threads interleave freely.

The registry maps handles to pointers, so sessions live in a heap and are named by their position
in it: a call that has found its session goes on with it even if the handle is freed meanwhile.
The steps of one call after another, without interleaving, are the calls of `Bridge`.
-/
import Gemina.Bridge

namespace Gemina
namespace Bridge

/-- A call, with its arguments and what it draws from the system. -/
inductive Call where
  | beginHandshake (gatewayPub token : Bytes) (outCap : ℕ) (random : Except GoError SessionID)
      (seed : KeySeed) (unixNow : Int64)
  | completeHandshake (hsHandle : UInt64) (serverHello : Bytes) (dedupCapacity : ℤ) (ipCap : ℕ)
  | cancelHandshake (hsHandle : UInt64)
  | createSession (id key : Bytes) (role : Role) (capacity : ℤ)
  | outboundInto (handle : UInt64) (payload : Bytes) (outCap : ℕ)
  | inboundInto (handle : UInt64) (wire : Bytes) (outCap : ℕ)
  | sessionFree (handle : UInt64)

/-- What is left of a call after its first operation on a registry. -/
inductive Rest where
  /-- The handshake was taken. -/
  | complete (hsHandle : UInt64) (hs : ClientHandshake) (serverHello : Bytes) (dedupCapacity : ℤ)
      (ipCap : ℕ)
  /-- The session was found. -/
  | outbound (handle : UInt64) (ref : ℕ) (payload : Bytes) (outCap : ℕ)
  | inbound (handle : UInt64) (ref : ℕ) (wire : Bytes) (outCap : ℕ)

/-- The session that the rest of a call works on, with the handle under which it was found. -/
def Rest.uses : Rest → Option (UInt64 × ℕ)
  | .complete .. => none
  | .outbound handle ref _ _ => some (handle, ref)
  | .inbound handle ref _ _ => some (handle, ref)

/-- What a step returns to the host. -/
inductive Output where
  /-- The call has not returned yet. -/
  | running
  | began (n : ℤ) (hsHandle : UInt64) (hello : Bytes)
  /-- The handle of the new session, if there is one, and the bytes of its address. -/
  | completed (hsHandle : UInt64) (handle : Option UInt64) (ip : Bytes)
  | cancelled
  | created (handle : Option UInt64)
  | outbound (n : ℤ) (framed : Bytes)
  | inbound (n : ℤ) (deliver : Bool) (payload : Bytes)
  | freed
deriving DecidableEq

/-- The bridge in its process. -/
structure Process where
  hsReg : HSRegistry
  /-- The counter of `reg`. -/
  next : UInt64
  /-- The map of `reg`, to positions in the heap. -/
  sessions : UInt64 → Option ℕ
  heap : List Session
  /-- What the threads are doing. -/
  calls : ℕ → Option Rest

/-- A thread makes a call, or goes on with the one it has made. -/
inductive Action where
  | call (thread : ℕ) (c : Call)
  | resume (thread : ℕ)

namespace Process

/-- Before the first call. -/
def init : Process where
  hsReg := newHSRegistry
  next := 0
  sessions := fun _ => none
  heap := []
  calls := fun _ => none

/-- `registry.add`, for a session that was just allocated. -/
def add (p : Process) (s : Session) : UInt64 × Process :=
  (p.next + 1, { p with
    next := p.next + 1
    sessions := Function.update p.sessions (p.next + 1) (some p.heap.length)
    heap := p.heap ++ [s] })

/-- The thread goes on with this, or has nothing left to do. -/
def setCall (p : Process) (thread : ℕ) (rest : Option Rest) : Process :=
  { p with calls := Function.update p.calls thread rest }

/-- A session is changed by a call on it. -/
def write (p : Process) (ref : ℕ) (s : Session) : Process := { p with heap := p.heap.set ref s }

/-- The bridge as its calls see it, when no other runs. -/
def view (p : Process) : Bridge where
  hsReg := p.hsReg
  reg := ⟨p.next, fun h => (p.sessions h).bind fun ref => p.heap[ref]?⟩

/-- A call, up to its first operation on a registry. -/
def start (C : Crypto) (p : Process) (thread : ℕ) : Call → Output × Process
  | .beginHandshake gatewayPub token outCap random seed unixNow =>
    let (r, b) := p.view.beginHandshake C gatewayPub token outCap random seed unixNow
    (.began r.1 r.2.1 r.2.2, { p with hsReg := b.hsReg })
  | .completeHandshake hsHandle serverHello dedupCapacity ipCap =>
    match p.hsReg.take hsHandle with
    | (none, _) => (.completed hsHandle none [], p)
    | (some hs, hsReg) =>
      (.running, { p with hsReg := hsReg }.setCall thread
        (some (.complete hsHandle hs serverHello dedupCapacity ipCap)))
  | .cancelHandshake hsHandle => (.cancelled, { p with hsReg := (p.hsReg.take hsHandle).2 })
  | .createSession id key role capacity =>
    match newSessionID id with
    | .error _ => (.created none, p)
    | .ok sid =>
      match newSession sid key role capacity with
      | .error _ => (.created none, p)
      | .ok s => (.created (some (p.add s).1), (p.add s).2)
  | .outboundInto handle payload outCap =>
    match p.sessions handle with
    | none => (.outbound (-errCodeBadHandle) [], p)
    | some ref => (.running, p.setCall thread (some (.outbound handle ref payload outCap)))
  | .inboundInto handle wire outCap =>
    match p.sessions handle with
    | none => (.inbound (-errCodeBadHandle) false [], p)
    | some ref => (.running, p.setCall thread (some (.inbound handle ref wire outCap)))
  | .sessionFree handle =>
    (.freed, { p with sessions := Function.update p.sessions handle none })

/-- The rest of a call. -/
def finish (C : Crypto) (E : Cipher) (p : Process) : Rest → Output × Process
  | .complete hsHandle hs serverHello dedupCapacity ipCap =>
    match hs.complete C serverHello dedupCapacity with
    | .error _ => (.completed hsHandle none [], p)
    | .ok s =>
      (.completed hsHandle (some (p.add s).1) (if 4 ≤ ipCap then s.assignedIPv4.1 else []),
        (p.add s).2)
  | .outbound _ ref payload outCap =>
    match p.heap[ref]? with
    | none => (.outbound (-errCodeBadHandle) [], p) -- there are no dangling pointers
    | some s =>
      match s.outbound E payload with
      | (.error _, s) => (.outbound (-errCodeCore) [], p.write ref s)
      | (.ok framed, s) =>
        if outCap < framed.length then (.outbound (-errCodeBufferSize) [], p.write ref s)
        else (.outbound framed.length framed, p.write ref s)
  | .inbound _ ref wire outCap =>
    match p.heap[ref]? with
    | none => (.inbound (-errCodeBadHandle) false [], p)
    | some s =>
      match s.inbound E wire with
      | (.error _, s) => (.inbound (-errCodeCore) false [], p.write ref s)
      | (.ok (payload, first), s) =>
        if outCap < payload.length then (.inbound (-errCodeBufferSize) false [], p.write ref s)
        else (.inbound payload.length first payload, p.write ref s)

/-- One step of one thread.  A thread makes one call at a time. -/
def step (C : Crypto) (E : Cipher) (p : Process) : Action → Output × Process
  | .call thread c =>
    match p.calls thread with
    | some _ => (.running, p)
    | none => p.start C thread c
  | .resume thread =>
    match p.calls thread with
    | none => (.running, p)
    | some rest => (p.setCall thread none).finish C E rest

end Process

/-! ## What a step can do -/

/-- The handle of a handshake that a step has begun. -/
def Output.begun : Output → Option UInt64
  | .began n hsHandle _ => if 0 ≤ n then some hsHandle else none
  | _ => none

/-- The handle of a session that a step has registered. -/
def Output.registered : Output → Option UInt64
  | .completed _ handle _ => handle
  | .created handle => handle
  | _ => none

/-- The step has issued no handle. -/
def Output.Quiet (o : Output) : Prop := o.begun = none ∧ o.registered = none

namespace Process

/-- What a step can do. -/
inductive Effect (p : Process) : Action → Output → Process → Prop
  /-- The call fails, or the thread cannot do this. -/
  | nothing {a : Action} {o : Output} (ho : o.Quiet) : Effect p a o p
  | began {a : Action} {n : ℤ} {hello : Bytes} (hs : ClientHandshake) (hn : 0 ≤ n) :
      Effect p a (.began n (p.hsReg.next + 1) hello) { p with hsReg := (p.hsReg.add hs).2 }
  | took {thread : ℕ} {h : UInt64} {hs : ClientHandshake} {serverHello : Bytes}
      {dedupCapacity : ℤ} {ipCap : ℕ} (hpending : p.hsReg.pending h ≠ none) :
      Effect p (.call thread (.completeHandshake h serverHello dedupCapacity ipCap)) .running
        ({ p with hsReg := (p.hsReg.take h).2 }.setCall thread
          (some (.complete h hs serverHello dedupCapacity ipCap)))
  | cancelled {thread : ℕ} {h : UInt64} :
      Effect p (.call thread (.cancelHandshake h)) .cancelled
        { p with hsReg := (p.hsReg.take h).2 }
  | created {a : Action} (s : Session) :
      Effect p a (.created (some (p.next + 1))) (p.add s).2
  /-- A call found its session. -/
  | found {thread : ℕ} {c : Call} {h : UInt64} {ref : ℕ} {rest : Rest}
      (hget : p.sessions h = some ref) (huses : rest.uses = some (h, ref)) :
      Effect p (.call thread c) .running (p.setCall thread (some rest))
  | freed {thread : ℕ} {h : UInt64} :
      Effect p (.call thread (.sessionFree h)) .freed
        { p with sessions := Function.update p.sessions h none }
  /-- A call returns, and nothing else. -/
  | stopped {thread : ℕ} {o : Output} (ho : o.Quiet) :
      Effect p (.resume thread) o (p.setCall thread none)
  | completed {thread : ℕ} {h : UInt64} {hs : ClientHandshake} {serverHello ip : Bytes}
      {dedupCapacity : ℤ} {ipCap : ℕ} (s : Session)
      (hcall : p.calls thread = some (.complete h hs serverHello dedupCapacity ipCap)) :
      Effect p (.resume thread) (.completed h (some (p.next + 1)) ip)
        ((p.setCall thread none).add s).2
  /-- A call used its session. -/
  | used {thread : ℕ} {rest : Rest} {h : UInt64} {ref : ℕ} {o : Output} (s : Session)
      (hcall : p.calls thread = some rest) (huses : rest.uses = some (h, ref)) (ho : o.Quiet) :
      Effect p (.resume thread) o ((p.setCall thread none).write ref s)

lemma effect_start (C : Crypto) (p : Process) (thread : ℕ) (c : Call) :
    Effect p (.call thread c) (p.start C thread c).1 (p.start C thread c).2 := by
  cases c with
  | beginHandshake gatewayPub token outCap random seed unixNow =>
    simp only [start, beginHandshake, view]
    split
    · exact .nothing ⟨rfl, rfl⟩
    split
    · exact .nothing ⟨rfl, rfl⟩
    split
    · exact .nothing ⟨rfl, rfl⟩
    · exact .began _ (Int.natCast_nonneg _)
  | completeHandshake h serverHello dedupCapacity ipCap =>
    simp only [start, HSRegistry.take]
    rcases hp : p.hsReg.pending h with _ | hs
    · exact .nothing ⟨rfl, rfl⟩
    · have htook := @Effect.took p thread h hs serverHello dedupCapacity ipCap (by simp [hp])
      simpa only [HSRegistry.take, hp] using htook
  | cancelHandshake h => exact .cancelled
  | createSession id key role capacity =>
    simp only [start]
    split
    · exact .nothing ⟨rfl, rfl⟩
    split
    · exact .nothing ⟨rfl, rfl⟩
    · exact .created _
  | outboundInto handle payload outCap =>
    simp only [start]
    split
    · exact .nothing ⟨rfl, rfl⟩
    · exact .found ‹_› rfl
  | inboundInto handle wire outCap =>
    simp only [start]
    split
    · exact .nothing ⟨rfl, rfl⟩
    · exact .found ‹_› rfl
  | sessionFree handle => exact .freed

lemma effect_finish (C : Crypto) (E : Cipher) {p : Process} {thread : ℕ} {rest : Rest}
    (hcall : p.calls thread = some rest) :
    Effect p (.resume thread) ((p.setCall thread none).finish C E rest).1
      ((p.setCall thread none).finish C E rest).2 := by
  cases rest with
  | complete h hs serverHello dedupCapacity ipCap =>
    simp only [finish]
    split
    · exact .stopped ⟨rfl, rfl⟩
    · exact .completed _ hcall
  | outbound h ref payload outCap =>
    simp only [finish]
    split
    · exact .stopped ⟨rfl, rfl⟩
    split
    · exact .used _ hcall rfl ⟨rfl, rfl⟩
    split
    · exact .used _ hcall rfl ⟨rfl, rfl⟩
    · exact .used _ hcall rfl ⟨rfl, rfl⟩
  | inbound h ref wire outCap =>
    simp only [finish]
    split
    · exact .stopped ⟨rfl, rfl⟩
    split
    · exact .used _ hcall rfl ⟨rfl, rfl⟩
    split
    · exact .used _ hcall rfl ⟨rfl, rfl⟩
    · exact .used _ hcall rfl ⟨rfl, rfl⟩

/-- **Every step is one of these.** -/
theorem effect_step (C : Crypto) (E : Cipher) (p : Process) (a : Action) :
    Effect p a (p.step C E a).1 (p.step C E a).2 := by
  cases a with
  | call thread c =>
    rcases hcall : p.calls thread with _ | rest
    · simpa only [step, hcall] using effect_start C p thread c
    · simpa only [step, hcall] using Effect.nothing ⟨rfl, rfl⟩
  | resume thread =>
    rcases hcall : p.calls thread with _ | rest
    · simpa only [step, hcall] using Effect.nothing ⟨rfl, rfl⟩
    · simpa only [step, hcall] using effect_finish C E hcall

/-! ## Calls without interleaving -/

end Process

/-- A call of the bridge. -/
def call (C : Crypto) (E : Cipher) (b : Bridge) : Call → Output × Bridge
  | .beginHandshake gatewayPub token outCap random seed unixNow =>
    let (r, b) := b.beginHandshake C gatewayPub token outCap random seed unixNow
    (.began r.1 r.2.1 r.2.2, b)
  | .completeHandshake hsHandle serverHello dedupCapacity ipCap =>
    let (r, b) := b.completeHandshake C hsHandle serverHello dedupCapacity ipCap
    (.completed hsHandle (if r.1 = 0 then none else some r.1) r.2, b)
  | .cancelHandshake hsHandle => (.cancelled, b.cancelHandshake hsHandle)
  | .createSession id key role capacity =>
    let (h, b) := b.createSession id key role capacity
    (.created (if h = 0 then none else some h), b)
  | .outboundInto handle payload outCap =>
    let (r, b) := b.outboundInto E handle payload outCap
    (.outbound r.1 r.2, b)
  | .inboundInto handle wire outCap =>
    let (r, b) := b.inboundInto E handle wire outCap
    (.inbound r.1 r.2.1 r.2.2, b)
  | .sessionFree handle => (.freed, b.sessionFree handle)

namespace Process

/-- A call, from its first step to its last. -/
def whole (C : Crypto) (E : Cipher) (p : Process) (thread : ℕ) (c : Call) : Output × Process :=
  let (o, p) := p.step C E (.call thread c)
  match p.calls thread with
  | none => (o, p)
  | some _ => p.step C E (.resume thread)

/-- Every registered session is in the heap, and each under one handle. -/
structure Sound (p : Process) : Prop where
  lt : ∀ {h ref}, p.sessions h = some ref → ref < p.heap.length
  inj : ∀ {h h' ref}, p.sessions h = some ref → p.sessions h' = some ref → h = h'

variable {p : Process}

lemma view_get {h : UInt64} {ref : ℕ} (hreg : p.sessions h = some ref) :
    p.view.reg.get h = p.heap[ref]? := by
  simp [view, Registry.get, hreg]

lemma view_get_none {h : UInt64} (hreg : p.sessions h = none) : p.view.reg.get h = none := by
  simp [view, Registry.get, hreg]

lemma view_add (hp : p.Sound) (s : Session) :
    (p.add s).2.view = { p.view with reg := (p.view.reg.add s).2 } := by
  have hsessions : (p.add s).2.view.reg.sessions = (p.view.reg.add s).2.sessions := by
    funext h
    by_cases hh : h = p.next + 1
    · simp [view, add, Registry.add, hh]
    · rcases hreg : p.sessions h with _ | ref
      · simp [view, add, Registry.add, hh, hreg]
      · simp [view, add, Registry.add, hh, hreg, List.getElem?_append_left (hp.lt hreg)]
  show (⟨p.hsReg, ⟨p.next + 1, (p.add s).2.view.reg.sessions⟩⟩ : Bridge) = _
  rw [hsessions]
  rfl

lemma view_write (hp : p.Sound) {h : UInt64} {ref : ℕ} (hreg : p.sessions h = some ref)
    (s : Session) : (p.write ref s).view = p.view.setSession h s := by
  have hsessions : (p.write ref s).view.reg.sessions = (p.view.setSession h s).reg.sessions := by
    funext h'
    by_cases hh : h' = h
    · simp [view, write, setSession, hh, hreg, hp.lt hreg]
    · rcases hreg' : p.sessions h' with _ | ref'
      · simp [view, write, setSession, hh, hreg']
      · have hne : ref ≠ ref' := by
          rintro rfl
          exact hh (hp.inj hreg' hreg)
        simp [view, write, setSession, hh, hreg', List.getElem?_set_ne hne]
  show (⟨p.hsReg, ⟨p.next, (p.write ref s).view.reg.sessions⟩⟩ : Bridge) = _
  rw [hsessions]
  rfl

lemma Sound.setCall (hp : p.Sound) (thread : ℕ) (rest : Option Rest) :
    (p.setCall thread rest).Sound :=
  ⟨hp.lt, hp.inj⟩

lemma whole_of_started {C : Crypto} {E : Cipher} {thread : ℕ} {c : Call} {p' : Process}
    {rest : Rest} (hidle : p.calls thread = none)
    (hstart : p.start C thread c = (.running, p'.setCall thread (some rest))) :
    p.whole C E thread c = (p'.setCall thread none).finish C E rest := by
  simp [whole, step, hidle, hstart, Process.setCall]

lemma whole_of_returned {C : Crypto} {E : Cipher} {thread : ℕ} {c : Call}
    (hidle : p.calls thread = none) (hreturned : (p.start C thread c).2.calls thread = none) :
    p.whole C E thread c = p.start C thread c := by
  simp [whole, step, hidle, hreturned]

/-- The session of a handle, as a call finds it that has left the registry, and what the call
writes back. -/
lemma Sound.session_of_handle (hp : p.Sound) {h : UInt64} {ref : ℕ}
    (hreg : p.sessions h = some ref) (thread : ℕ) :
    ∃ s, p.view.reg.get h = some s ∧ (p.setCall thread none).heap[ref]? = some s ∧
      ∀ s', ((p.setCall thread none).write ref s').view = p.view.setSession h s' := by
  obtain ⟨s, hs⟩ : ∃ s, p.heap[ref]? = some s := ⟨_, List.getElem?_eq_getElem (hp.lt hreg)⟩
  exact ⟨s, (view_get hreg).trans hs, hs, view_write (hp.setCall thread none) hreg⟩

/-- **A call that is not interrupted is the call of the bridge.** -/
theorem whole_eq_call (C : Crypto) (E : Cipher) (hp : p.Sound) {thread : ℕ}
    (hidle : p.calls thread = none) (hnext : p.next + 1 ≠ 0) (c : Call) :
    ((p.whole C E thread c).1, (p.whole C E thread c).2.view) = p.view.call C E c := by
  cases c with
  | beginHandshake gatewayPub token outCap random seed unixNow =>
    have hreturned : (p.start C thread (.beginHandshake gatewayPub token outCap random seed
        unixNow)).2.calls thread = none := hidle
    rw [whole_of_returned hidle hreturned]
    simp only [start, call, view, beginHandshake]
    split_ifs
    · rfl
    split
    · rfl
    split_ifs
    · rfl
    · rfl
  | completeHandshake h serverHello dedupCapacity ipCap =>
    rcases hpending : p.hsReg.pending h with _ | hs
    · have hstart : p.start C thread (.completeHandshake h serverHello dedupCapacity ipCap)
          = (.completed h none [], p) := by
        simp [start, HSRegistry.take, hpending]
      rw [whole_of_returned hidle (by rw [hstart]; exact hidle), hstart]
      simp [call, completeHandshake, view, HSRegistry.take, hpending]
    · have hstart : p.start C thread (.completeHandshake h serverHello dedupCapacity ipCap)
          = (.running, { p with hsReg := (p.hsReg.take h).2 }.setCall thread
            (some (.complete h hs serverHello dedupCapacity ipCap))) := by
        simp [start, HSRegistry.take, hpending]
      have hp' : ({ p with hsReg := (p.hsReg.take h).2 }.setCall thread none : Process).Sound :=
        ⟨hp.lt, hp.inj⟩
      rw [whole_of_started hidle hstart]
      rcases hcomplete : hs.complete C serverHello dedupCapacity with e | s
      · simp [finish, hcomplete, call, completeHandshake, view, HSRegistry.take, hpending,
          Process.setCall]
      · have hview := view_add hp' s
        simp only [finish, hcomplete, hview]
        simp [call, completeHandshake, HSRegistry.take, hpending, hcomplete, view, Registry.add,
          hnext, add, Process.setCall]
  | cancelHandshake h =>
    have hreturned : (p.start C thread (.cancelHandshake h)).2.calls thread = none := hidle
    rw [whole_of_returned hidle hreturned]
    rfl
  | createSession id key role capacity =>
    rcases hid : newSessionID id with e | sid
    · have hstart :
          p.start C thread (.createSession id key role capacity) = (.created none, p) := by
        simp [start, hid]
      rw [whole_of_returned hidle (by rw [hstart]; exact hidle), hstart]
      simp [call, createSession, hid]
    · rcases hs : newSession sid key role capacity with e | s
      · have hstart : p.start C thread (.createSession id key role capacity)
            = (.created none, p) := by
          simp [start, hid, hs]
        rw [whole_of_returned hidle (by rw [hstart]; exact hidle), hstart]
        simp [call, createSession, hid, hs]
      · have hstart : p.start C thread (.createSession id key role capacity)
            = (.created (some (p.add s).1), (p.add s).2) := by
          simp [start, hid, hs]
        rw [whole_of_returned hidle (by rw [hstart]; exact hidle), hstart, view_add hp s]
        simp [call, createSession, hid, hs, Registry.add, add, view, hnext]
  | outboundInto h payload outCap =>
    rcases hreg : p.sessions h with _ | ref
    · have hstart : p.start C thread (.outboundInto h payload outCap)
          = (.outbound (-errCodeBadHandle) [], p) := by
        simp [start, hreg]
      rw [whole_of_returned hidle (by rw [hstart]; exact hidle), hstart]
      simp [call, outboundInto, view_get_none hreg]
    · have hstart : p.start C thread (.outboundInto h payload outCap)
          = (.running, p.setCall thread (some (.outbound h ref payload outCap))) := by
        simp [start, hreg]
      obtain ⟨s, hget, hs', hview⟩ := hp.session_of_handle hreg thread
      rw [whole_of_started hidle hstart]
      rcases hout : s.outbound E payload with ⟨e | framed, s'⟩
      · simp [finish, hs', hout, hview, call, outboundInto, hget]
      · simp only [finish, hs', hout, call, outboundInto, hget]
        split_ifs
        · simp [hview]
        · simp [hview]
  | inboundInto h wire outCap =>
    rcases hreg : p.sessions h with _ | ref
    · have hstart : p.start C thread (.inboundInto h wire outCap)
          = (.inbound (-errCodeBadHandle) false [], p) := by
        simp [start, hreg]
      rw [whole_of_returned hidle (by rw [hstart]; exact hidle), hstart]
      simp [call, inboundInto, view_get_none hreg]
    · have hstart : p.start C thread (.inboundInto h wire outCap)
          = (.running, p.setCall thread (some (.inbound h ref wire outCap))) := by
        simp [start, hreg]
      obtain ⟨s, hget, hs', hview⟩ := hp.session_of_handle hreg thread
      rw [whole_of_started hidle hstart]
      rcases hin : s.inbound E wire with ⟨e | ⟨payload, first⟩, s'⟩
      · simp [finish, hs', hin, hview, call, inboundInto, hget]
      · simp only [finish, hs', hin, call, inboundInto, hget]
        split_ifs
        · simp [hview]
        · simp [hview]
  | sessionFree h =>
    have hreturned : (p.start C thread (.sessionFree h)).2.calls thread = none := hidle
    rw [whole_of_returned hidle hreturned]
    simp only [start, call, sessionFree, view, Registry.remove, Prod.mk.injEq, Bridge.mk.injEq,
      Registry.mk.injEq, true_and]
    funext h'
    by_cases hh : h' = h
    · simp [hh]
    · simp [hh]

end Process
end Bridge
end Gemina
