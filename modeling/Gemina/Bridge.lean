/-
# The bridge to the host

The host drives the core through opaque handles (`registry.go` and `handshake.go` of
`bridge/geminacore`).  A handshake is begun under one handle and completed under it at most
once; the session that it yields has a handle of its own.  Handles are drawn from a counter of
64 bits that starts at one.
-/
import Gemina.ClientCore.Handshake

namespace Gemina

def errCodeBadHandle : ℤ := 1
def errCodeBufferSize : ℤ := 2
def errCodeCore : ℤ := 3
def errCodeBadArgs : ℤ := 4

/-! ## The registries -/

/-- `hsRegistry`, without its mutex: the handshakes in flight. -/
structure HSRegistry where
  next : UInt64
  pending : UInt64 → Option ClientHandshake

/-- `newHSRegistry`. -/
def newHSRegistry : HSRegistry := ⟨0, fun _ => none⟩

namespace HSRegistry

/-- `hsRegistry.add`. -/
def add (r : HSRegistry) (hs : ClientHandshake) : UInt64 × HSRegistry :=
  (r.next + 1, ⟨r.next + 1, Function.update r.pending (r.next + 1) (some hs)⟩)

/-- `hsRegistry.take`: a handshake can be taken once. -/
def take (r : HSRegistry) (h : UInt64) : Option ClientHandshake × HSRegistry :=
  match r.pending h with
  | none => (none, r)
  | some hs => (some hs, { r with pending := Function.update r.pending h none })

/-- Nothing is left under a handle that was taken. -/
lemma take_snd (r : HSRegistry) (h : UInt64) :
    (r.take h).2 = { r with pending := Function.update r.pending h none } := by
  rcases hp : r.pending h with _ | hs
  · rw [take, hp]
    simp only
    rw [← hp, Function.update_eq_self]
  · rw [take, hp]

end HSRegistry

/-- `registry`, without its mutex: the live sessions. -/
structure Registry where
  next : UInt64
  sessions : UInt64 → Option Session

/-- `newRegistry`. -/
def newRegistry : Registry := ⟨0, fun _ => none⟩

namespace Registry

/-- `registry.add`. -/
def add (r : Registry) (s : Session) : UInt64 × Registry :=
  (r.next + 1, ⟨r.next + 1, Function.update r.sessions (r.next + 1) (some s)⟩)

/-- `registry.get`. -/
def get (r : Registry) (h : UInt64) : Option Session := r.sessions h

/-- `registry.remove`. -/
def remove (r : Registry) (h : UInt64) : Registry :=
  { r with sessions := Function.update r.sessions h none }

end Registry

/-- The process-wide registries `hsReg` and `reg`. -/
structure Bridge where
  hsReg : HSRegistry
  reg : Registry

/-! ## The calls -/

namespace Bridge

/-- The registry holds pointers: a session that changes is changed under its handle. -/
def setSession (b : Bridge) (h : UInt64) (s : Session) : Bridge :=
  { b with reg := { b.reg with sessions := Function.update b.reg.sessions h (some s) } }

/-- `beginHandshake`, into a buffer of `outCap` bytes: the length or the negated error code, the
handle, and the bytes written. -/
def beginHandshake (C : Crypto) (b : Bridge) (gatewayPub token : Bytes) (outCap : ℕ)
    (random : Except GoError SessionID) (seed : KeySeed) (unixNow : Int64) :
    (ℤ × UInt64 × Bytes) × Bridge :=
  if gatewayPub.length ≠ publicKeySize then ((-errCodeBadArgs, 0, []), b)
  else match beginClientHandshake C gatewayPub token random seed unixNow with
    | .error _ => ((-errCodeCore, 0, []), b)
    | .ok (hello, hs) =>
      if outCap < hello.length then ((-errCodeBufferSize, 0, []), b)
      else
        let (h, hsReg) := b.hsReg.add hs
        ((hello.length, h, hello), { b with hsReg := hsReg })

/-- `completeHandshake`: the handle of the session, or zero, and the bytes written to
`assignedIPv4Out`, which has room for `ipCap`. -/
def completeHandshake (C : Crypto) (b : Bridge) (hsHandle : UInt64) (serverHello : Bytes)
    (dedupCapacity : ℤ) (ipCap : ℕ) : (UInt64 × Bytes) × Bridge :=
  match b.hsReg.take hsHandle with
  | (none, hsReg) => ((0, []), { b with hsReg := hsReg })
  | (some hs, hsReg) =>
    match hs.complete C serverHello dedupCapacity with
    | .error _ => ((0, []), { b with hsReg := hsReg })
    | .ok session =>
      let (h, reg) := b.reg.add session
      ((h, if 4 ≤ ipCap then session.assignedIPv4.1 else []), ⟨hsReg, reg⟩)

/-- `cancelHandshake`. -/
def cancelHandshake (b : Bridge) (hsHandle : UInt64) : Bridge :=
  { b with hsReg := (b.hsReg.take hsHandle).2 }

/-- `createSession`: the handle, or zero. -/
def createSession (b : Bridge) (id key : Bytes) (role : Role) (capacity : ℤ) : UInt64 × Bridge :=
  match newSessionID id with
  | .error _ => (0, b)
  | .ok sid =>
    match newSession sid key role capacity with
    | .error _ => (0, b)
    | .ok s =>
      let (h, reg) := b.reg.add s
      (h, { b with reg := reg })

/-- `outboundInto`, into a buffer of `outCap` bytes: the length or the negated error code, and
the bytes written. -/
def outboundInto (E : Cipher) (b : Bridge) (handle : UInt64) (payload : Bytes) (outCap : ℕ) :
    (ℤ × Bytes) × Bridge :=
  match b.reg.get handle with
  | none => ((-errCodeBadHandle, []), b)
  | some s =>
    match s.outbound E payload with
    | (.error _, s) => ((-errCodeCore, []), b.setSession handle s)
    | (.ok framed, s) =>
      let b := b.setSession handle s
      if outCap < framed.length then ((-errCodeBufferSize, []), b)
      else ((framed.length, framed), b)

/-- `inboundInto`, into a buffer of `outCap` bytes: the length or the negated error code,
`*deliver`, and the bytes written. -/
def inboundInto (E : Cipher) (b : Bridge) (handle : UInt64) (wire : Bytes) (outCap : ℕ) :
    (ℤ × Bool × Bytes) × Bridge :=
  match b.reg.get handle with
  | none => ((-errCodeBadHandle, false, []), b)
  | some s =>
    match s.inbound E wire with
    | (.error _, s) => ((-errCodeCore, false, []), b.setSession handle s)
    | (.ok (payload, first), s) =>
      -- the window has seen the packet, whether there is room for it or not
      let b := b.setSession handle s
      if outCap < payload.length then ((-errCodeBufferSize, false, []), b)
      else ((payload.length, first, payload), b)

/-- `cc_session_free`. -/
def sessionFree (b : Bridge) (handle : UInt64) : Bridge := { b with reg := b.reg.remove handle }

end Bridge
end Gemina
