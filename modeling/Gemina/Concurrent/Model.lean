/-
# Clients and gateway, step by step

The calls of the bridge and of the gateway run concurrently, each as a sequence of sections
under a mutex.  Here every section is one step, and the steps of different calls interleave
freely.  Sessions are shared, so they live in a heap and are named by their position in it.

A call that fails before its first section, or that only reads, changes nothing and is not a
step.
-/
import Gemina.Bridge
import Gemina.Gateway.DataPlane

namespace Gemina
namespace Concurrent

/-- The mutex of the data plane, and how far the call that holds it has come. -/
inductive PlaneLock where
  | free
  /-- `sessionFor` found no session for the id and read this key from the store. -/
  | building (id : SessionID) (key : Bytes)
  /-- `Forget` removed the key of the id from the store. -/
  | forgetting (id : SessionID)

/-- A key that was derived: from the public keys of both ends, and the session id. -/
structure Derivation where
  clientEph : Bytes
  gatewayEph : Bytes
  id : SessionID
  key : Bytes

/-- A seal operation of the session at `ref` in the heap of one side, and the frame that
`Outbound` returned. -/
structure SealOp where
  role : Role
  ref : ℕ
  number : PacketNumber
  key : Bytes
  nonce : Bytes
  aad : Bytes
  plaintext : Bytes
  frame : Bytes

namespace SealOp

/-- The seal operation of a session that framed a payload. -/
def ofOutbound (role : Role) (ref : ℕ) (session : Session) (payload frame : Bytes) : SealOp where
  role := role
  ref := ref
  number := session.nextID.number
  key := (session.sealedNext payload).key
  nonce := (session.sealedNext payload).nonce
  aad := (session.sealedNext payload).aad
  plaintext := (session.sealedNext payload).plaintext
  frame := frame

/-- The frame is made by the seal operation: it is the header, and what the cipher returns for the
key and the nonce. -/
def Framed (E : Cipher) (x : SealOp) : Prop :=
  x.frame = x.aad ++ E.aeadSeal x.key x.nonce x.plaintext x.aad

lemma framed_ofOutbound {E : Cipher} {session session' : Session} {payload frame : Bytes}
    (hout : session.outbound E payload = (.ok frame, session')) (role : Role) (ref : ℕ) :
    (ofOutbound role ref session payload frame).Framed E := by
  obtain ⟨hframe, -⟩ := Session.outbound_ok hout
  rw [Session.frame_eq] at hframe
  exact hframe

end SealOp

/-- The clients and the gateway. -/
structure State where
  /-- The keys of the admitted sessions. -/
  store : SessionStore
  /-- `DataPlane.sessions`. -/
  sessions : SessionID → Option ℕ
  /-- `DataPlane.mu`. -/
  lock : PlaneLock
  /-- The `Handshake` calls that have registered their key and not returned yet. -/
  admitting : List SessionID
  /-- The handshakes of the clients that are in flight. -/
  hsReg : HSRegistry
  /-- The handshakes that `completeHandshake` or `cancelHandshake` has taken. -/
  completing : List ClientHandshake
  /-- The sessions, of the clients and of the gateway. -/
  heap : Role → List Session
  /-- For the observer: the public keys drawn for handshakes. -/
  ephemerals : List Bytes
  /-- For the observer: the keys derived by the clients and by the gateway. -/
  derivations : Role → List Derivation
  /-- For the observer: the seal operations. -/
  seals : List SealOp

/-- What the calls depend on, and does not change. -/
structure Setting where
  crypto : Crypto
  tokens : TokenLib
  cipher : Cipher
  admitter : Admitter
  /-- The dedup capacity of the gateway. -/
  capacity : ℤ

/-- Before the first call. -/
def start : State where
  store := SessionStore.new
  sessions := fun _ => none
  lock := .free
  admitting := []
  hsReg := newHSRegistry
  completing := []
  heap := fun _ => []
  ephemerals := []
  derivations := fun _ => []
  seals := []

namespace State

/-- The public key that belongs to a handshake of a client. -/
def ephemeralPub (C : Crypto) (hs : ClientHandshake) : Bytes := C.publicKey hs.ephemeralPriv

/-- A new session in the heap. -/
def alloc (s : State) (role : Role) (session : Session) : State :=
  { s with heap := Function.update s.heap role (s.heap role ++ [session]) }

/-- A session in the heap is changed by a call on it. -/
def write (s : State) (role : Role) (ref : ℕ) (session : Session) : State :=
  { s with heap := Function.update s.heap role ((s.heap role).set ref session) }

/-- The observer notes a derivation. -/
def derive (s : State) (role : Role) (d : Derivation) : State :=
  { s with derivations := Function.update s.derivations role (s.derivations role ++ [d]) }

end State

/-- One section of one call. -/
inductive Step (S : Setting) : State → State → Prop
  /-- `beginHandshake`: the handshake is added to the registry. -/
  | begin {s : State} {gatewayPub token hello : Bytes} {random : Except GoError SessionID}
      {seed : KeySeed} {unixNow : Int64} {hs : ClientHandshake}
      (hbegin : beginClientHandshake S.crypto gatewayPub token random seed unixNow
        = .ok (hello, hs)) :
      Step S s { s with
        hsReg := (s.hsReg.add hs).2
        ephemerals := s.ephemerals ++ [State.ephemeralPub S.crypto hs] }
  /-- `completeHandshake` or `cancelHandshake`: the handshake is taken from the registry. -/
  | take {s : State} {handle : UInt64} {hs : ClientHandshake} {reg : HSRegistry}
      (htake : s.hsReg.take handle = (some hs, reg)) :
      Step S s { s with hsReg := reg, completing := s.completing ++ [hs] }
  /-- `completeHandshake`: `Complete` succeeds and there is a new session. -/
  | complete {s : State} {before after : List ClientHandshake} {hs : ClientHandshake}
      {serverHello : Bytes} {dedupCapacity : ℤ} {hello : ServerHello} {session : Session}
      (htaken : s.completing = before ++ hs :: after)
      (hhello : decodeServerHello serverHello = .ok hello)
      (hcomplete : hs.complete S.crypto serverHello dedupCapacity = .ok session) :
      Step S s ((({ s with completing := before ++ after } : State).alloc .initiator
        session).derive .initiator ⟨State.ephemeralPub S.crypto hs, hello.ephemeralPub,
          hs.sessionID, session.key.1⟩)
  /-- `completeHandshake`: `Complete` fails; or the handshake was cancelled. -/
  | drop {s : State} {before after : List ClientHandshake} {hs : ClientHandshake}
      (htaken : s.completing = before ++ hs :: after) :
      Step S s { s with completing := before ++ after }
  /-- `Admitter.Handshake`: the key is derived and `Admit` registers it. -/
  | register {s : State} {hello : ClientHello} {k : Admitter.Keyed} {store : SessionStore}
      (hreg : S.admitter.RegistersKey S.crypto S.tokens s.store hello k store) :
      Step S s (({ s with
        store := store
        admitting := s.admitting ++ [k.id]
        ephemerals := s.ephemerals ++ [k.gatewayEphPub] } : State).derive .responder
          ⟨hello.ephemeralPub, k.gatewayEphPub, k.id, k.key⟩)
  /-- `Admitter.Handshake` returns its answer. -/
  | answer {s : State} {before after : List SessionID} {id : SessionID}
      (hadmitting : s.admitting = before ++ id :: after) :
      Step S s { s with admitting := before ++ after }
  /-- `Admitter.Handshake` fails after it registered the key, and takes it back. -/
  | unwind {s : State} {before after : List SessionID} {id : SessionID}
      (hadmitting : s.admitting = before ++ id :: after) :
      Step S s { s with store := s.store.forget id, admitting := before ++ after }
  /-- `sessionFor` finds no session, and reads the key. -/
  | miss {s : State} {id : SessionID} {key : Bytes} (hfree : s.lock = .free)
      (hnone : s.sessions id = none) (hkey : s.store.sessionKey id = some key) :
      Step S s { s with lock := .building id key }
  /-- `sessionFor` builds a session and keeps it. -/
  | build {s : State} {id : SessionID} {key : Bytes} {session : Session}
      (hlock : s.lock = .building id key)
      (hnew : newSession id key .responder S.capacity = .ok session) :
      Step S s (({ s with
        sessions := Function.update s.sessions id (some (s.heap .responder).length)
        lock := .free } : State).alloc .responder session)
  /-- `sessionFor` cannot build a session. -/
  | buildFails {s : State} {id : SessionID} {key : Bytes} {e : GoError}
      (hlock : s.lock = .building id key)
      (hnew : newSession id key .responder S.capacity = .error e) :
      Step S s { s with lock := .free }
  /-- `DataPlane.Forget` removes the key. -/
  | forgetKey {s : State} {id : SessionID} (hfree : s.lock = .free) :
      Step S s { s with store := s.store.forget id, lock := .forgetting id }
  /-- `DataPlane.Forget` removes the session. -/
  | forgetSession {s : State} {id : SessionID} (hlock : s.lock = .forgetting id) :
      Step S s { s with sessions := Function.update s.sessions id none, lock := .free }
  /-- `Session.Outbound`, of a client's session or in `FrameReturn`. -/
  | outbound {s : State} {role : Role} {ref : ℕ} {session session' : Session}
      {payload frame : Bytes} (hsession : (s.heap role)[ref]? = some session)
      (hout : session.outbound S.cipher payload = (.ok frame, session')) :
      Step S s { s.write role ref session' with
        seals := s.seals ++ [.ofOutbound role ref session payload frame] }
  /-- `Session.InboundClassified`, of a client's session or in `Handle`. -/
  | inbound {s : State} {role : Role} {ref : ℕ} {session : Session} {wire : Bytes}
      (hsession : (s.heap role)[ref]? = some session) :
      Step S s (s.write role ref (session.inboundClassified S.cipher wire).2)

/-- The states that some interleaving of calls reaches. -/
def Reaches (S : Setting) (s s' : State) : Prop := Relation.ReflTransGen (Step S) s s'

/-- A gateway in open mode, with primitives that can be evaluated. -/
def openSetting : Setting :=
  ⟨sumCrypto, plainTokenLib, checksumCipher, openAdmitter, 64⟩

/-! ## The keys of the sessions -/

/-- The keys of the sessions of one side. -/
def keysOf (sessions : List Session) : List Bytes := sessions.map fun x => x.key.1

lemma keysOf_set {l : List Session} {ref : ℕ} {session session' : Session}
    (hs : l[ref]? = some session) (hkey : session'.key = session.key) :
    keysOf (l.set ref session') = keysOf l := by
  obtain ⟨hlt, rfl⟩ := List.getElem?_eq_some_iff.mp hs
  refine List.ext_getElem? fun i => ?_
  by_cases hi : i = ref
  · subst hi
    simp [keysOf, hlt, hkey]
  · simp [keysOf, Ne.symm hi]

/-- A change of a session leaves all keys alone. -/
lemma keysOf_write {s : State} {role : Role} {ref : ℕ} {session session' : Session}
    (hs : (s.heap role)[ref]? = some session) (hkey : session'.key = session.key) (role' : Role) :
    keysOf ((s.write role ref session').heap role') = keysOf (s.heap role') := by
  by_cases hr : role' = role
  · subst hr
    simp only [State.write, Function.update_self]
    exact keysOf_set hs hkey
  · simp [State.write, hr]

end Concurrent
end Gemina
