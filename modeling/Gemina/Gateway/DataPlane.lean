/-
# The data plane

The gateway's end of the sessions (`dataplane.go` of `internal/gateway`): it builds one
responder session for each session id that has a key, and keeps it.
-/
import Gemina.ClientCore.Session
import Gemina.Gateway.Admission

namespace Gemina

def errUnknownSession : GoError := ⟨"no key for session"⟩

/-- `KeyResolver`: what `SessionKey` answers at the moment. -/
abbrev KeyResolver : Type := SessionID → Option Bytes

/-- `DataPlane`, without its mutex; the resolver is an argument of the operations. -/
structure DataPlane where
  capacity : ℤ
  sessions : SessionID → Option Session

/-- `NewDataPlane`. -/
def newDataPlane (dedupCapacity : ℤ) : DataPlane := ⟨dedupCapacity, fun _ => none⟩

namespace DataPlane

/-- The data plane with one session replaced, as a call on the session leaves it. -/
def put (d : DataPlane) (id : SessionID) (s : Session) : DataPlane :=
  { d with sessions := Function.update d.sessions id (some s) }

/-- `DataPlane.sessionFor`. -/
def sessionFor (resolver : KeyResolver) (d : DataPlane) (id : SessionID) :
    Except GoError Session × DataPlane :=
  match d.sessions id with
  | some s => (.ok s, d)
  | none =>
    match resolver id with
    | none => (.error errUnknownSession, d)
    | some key =>
      match newSession id key .responder d.capacity with
      | .error e => (.error e, d)
      | .ok s => (.ok s, d.put id s)

/-- `DataPlane.HandleClassified`. -/
def handleClassified (E : Cipher) (resolver : KeyResolver) (d : DataPlane) (datagram : Bytes) :
    Except GoError (Bytes × ReplayDecision) × DataPlane :=
  match sessionIDFromDatagram datagram with
  | .error e => (.error e, d)
  | .ok id =>
    match d.sessionFor resolver id with
    | (.error e, d) => (.error e, d)
    | (.ok session, d) =>
      let (result, session) := session.inboundClassified E datagram
      (result, d.put id session)

/-- `DataPlane.Handle`. -/
def handle (E : Cipher) (resolver : KeyResolver) (d : DataPlane) (datagram : Bytes) :
    Except GoError (Bytes × Bool) × DataPlane :=
  match sessionIDFromDatagram datagram with
  | .error e => (.error e, d)
  | .ok id =>
    match d.sessionFor resolver id with
    | (.error e, d) => (.error e, d)
    | (.ok session, d) =>
      let (result, session) := session.inbound E datagram
      (result, d.put id session)

/-- `DataPlane.FrameReturn`. -/
def frameReturn (E : Cipher) (resolver : KeyResolver) (d : DataPlane) (id : SessionID)
    (payload : Bytes) : Except GoError Bytes × DataPlane :=
  match d.sessionFor resolver id with
  | (.error e, d) => (.error e, d)
  | (.ok session, d) =>
    let (result, session) := session.outbound E payload
    (result, d.put id session)

/-- `DataPlane.Forget`, over a `SessionStore`. -/
def forget (store : SessionStore) (d : DataPlane) (id : SessionID) : SessionStore × DataPlane :=
  (store.forget id, { d with sessions := Function.update d.sessions id none })

@[simp] lemma put_capacity (d : DataPlane) (id : SessionID) (s : Session) :
    (d.put id s).capacity = d.capacity := rfl

@[simp] lemma put_sessions_self (d : DataPlane) (id : SessionID) (s : Session) :
    (d.put id s).sessions id = some s := by
  simp [put]

lemma put_sessions_of_ne (d : DataPlane) {id id' : SessionID} (s : Session) (h : id' ≠ id) :
    (d.put id s).sessions id' = d.sessions id' := by
  simp [put, h]

@[simp] lemma put_put (d : DataPlane) (id : SessionID) (s s' : Session) :
    (d.put id s).put id s' = d.put id s' := by
  simp [put]

/-! ## The session a call works on -/

/-- The session that a call for `id` works on: the one that is kept, or a new one. -/
def current (resolver : KeyResolver) (d : DataPlane) (id : SessionID) : Except GoError Session :=
  match d.sessions id with
  | some s => .ok s
  | none =>
    match resolver id with
    | none => .error errUnknownSession
    | some key => newSession id key .responder d.capacity

variable {E : Cipher} {resolver : KeyResolver} {d : DataPlane} {id : SessionID} {s : Session}

lemma current_of_some (h : d.sessions id = some s) : d.current resolver id = .ok s := by
  simp [current, h]

/-- `sessionFor` returns the current session and keeps it. -/
lemma sessionFor_eq (resolver : KeyResolver) (d : DataPlane) (id : SessionID) :
    d.sessionFor resolver id = match d.current resolver id with
      | .error e => (.error e, d)
      | .ok s => (.ok s, d.put id s) := by
  simp only [sessionFor, current]
  rcases hs : d.sessions id with _ | s
  · rcases hk : resolver id with _ | key
    · rfl
    · rcases hn : newSession id key .responder d.capacity with e | s <;> simp
  · have hput : d.put id s = d := by
      obtain ⟨cap, sessions⟩ := d
      simp only [put, mk.injEq, true_and]
      exact Function.update_eq_self_iff.mpr hs.symm
    simp [hput]

/-- A datagram is handled by the current session of the id that it carries. -/
lemma handleClassified_eq {datagram : Bytes} (hid : sessionIDFromDatagram datagram = .ok id) :
    d.handleClassified E resolver datagram = match d.current resolver id with
      | .error e => (.error e, d)
      | .ok s =>
        ((s.inboundClassified E datagram).1, d.put id (s.inboundClassified E datagram).2) := by
  simp only [handleClassified, hid, sessionFor_eq]
  rcases d.current resolver id with e | s <;> simp

lemma frameReturn_eq {payload : Bytes} :
    d.frameReturn E resolver id payload = match d.current resolver id with
      | .error e => (.error e, d)
      | .ok s => ((s.outbound E payload).1, d.put id (s.outbound E payload).2) := by
  simp only [frameReturn, sessionFor_eq]
  rcases d.current resolver id with e | s <;> simp

/-- The session belongs to `id`: it is its responder, with the key that the resolver has. -/
structure Belongs (resolver : KeyResolver) (id : SessionID) (s : Session) : Prop where
  id_eq : s.id = id
  id_ne : id.isZero = false
  role : s.role = .responder
  key : resolver id = some s.key.1

/-- Every session that is kept belongs to the id that it is kept under. -/
def Agrees (resolver : KeyResolver) (d : DataPlane) : Prop :=
  ∀ id s, d.sessions id = some s → Belongs resolver id s

lemma agrees_new (resolver : KeyResolver) (capacity : ℤ) :
    Agrees resolver (newDataPlane capacity) := by
  simp [Agrees, newDataPlane]

/-- The current session belongs to its id. -/
lemma Agrees.current (h : Agrees resolver d) (hs : d.current resolver id = .ok s) :
    Belongs resolver id s := by
  rcases hd : d.sessions id with _ | s'
  · simp only [DataPlane.current, hd] at hs
    rcases hk : resolver id with _ | key
    · simp [hk] at hs
    · simp only [hk] at hs
      obtain ⟨hz, hid, hrole, hkey, -⟩ := newSession_ok hs
      exact ⟨hid, hz, hrole, by rw [hk, hkey]⟩
  · rw [current_of_some hd] at hs
    cases hs
    exact h id s hd

/-- A call leaves a session that differs from the current one in its counter and window only. -/
lemma Agrees.put (h : Agrees resolver d) {s' : Session} (hs : d.current resolver id = .ok s)
    (hid : s'.id = s.id) (hrole : s'.role = s.role) (hkey : s'.key = s.key) :
    Agrees resolver (d.put id s') := by
  intro id' s'' hs''
  by_cases hne : id' = id
  · subst hne
    rw [put_sessions_self, Option.some.injEq] at hs''
    subst hs''
    have hb := h.current hs
    exact ⟨hid.trans hb.id_eq, hb.id_ne, hrole.trans hb.role, hkey ▸ hb.key⟩
  · rw [put_sessions_of_ne _ _ hne] at hs''
    exact h id' s'' hs''

/-- Registering a key for an id that had none changes no session. -/
lemma Agrees.register (h : Agrees resolver d) {key : Bytes} (hnone : resolver id = none) :
    Agrees (Function.update resolver id (some key)) d := by
  intro id' s hs
  have hb := h id' s hs
  refine ⟨hb.id_eq, hb.id_ne, hb.role, ?_⟩
  have hne : id' ≠ id := by
    rintro rfl
    have hkey := hb.key
    rw [hnone] at hkey
    cases hkey
  rw [Function.update_of_ne hne]
  exact hb.key

end DataPlane
end Gemina
