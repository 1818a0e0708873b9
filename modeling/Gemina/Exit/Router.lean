/-
# The exit router

The router writes the inner packets of admitted sessions to the TUN device, after the
reverse-path filter, and sends the packets that come back to every fresh endpoint of the
session that leases their destination (`ipv4.go` and `router.go` of `internal/exit`).

The device, the framer and the sink are interfaces.  Their outcomes are arguments here, and
what the router hands to them is part of the result.
-/
import Gemina.Exit.Allocator
import Gemina.Exit.PathSet

namespace Gemina

/-! ## Inner packets -/

def ipv4HeaderMinLen : ℕ := 20

/-- `parseIPv4`: the source and the destination address. -/
def parseIPv4 (packet : Bytes) : Option (Addr × Addr) :=
  if packet.length < ipv4HeaderMinLen then none
  else if packet.getD 0 0 >>> 4 ≠ 4 then none
  else
    let ihl := (packet.getD 0 0 &&& 0x0f).toNat * 4
    if ihl < ipv4HeaderMinLen ∨ packet.length < ihl then none
    else some (Addr.from4 (ByteArrayN.copy 4 (packet.slice 12 16)),
      Addr.from4 (ByteArrayN.copy 4 (packet.slice 16 20)))

/-! ## The router -/

def errReversePath : GoError :=
  ⟨"reverse-path filter: inner src does not match session lease"⟩
def errNoLease : GoError := ⟨"no tunnel ip lease for session"⟩
def errNotIPv4 : GoError := ⟨"inner packet is not a valid ipv4 datagram"⟩

/-- The calls that the router makes on its `Metrics`. -/
inductive Metric where
  | forwarded (bytes : ℕ)
  | dropped (reason : String)
  | returned (bytes : ℕ)
deriving DecidableEq, Repr

/-- `Router`, as far as it has state. -/
structure Router where
  alloc : Allocator
  paths : PathSet

/-- What one call of `Egress` does. -/
structure EgressResult where
  err : Option GoError
  /-- The packet handed to the device, if any. -/
  write : Option Bytes
  metric : Metric

/-- What one turn of `ServeReturn` does. -/
structure ReturnResult where
  /-- The datagrams handed to the sink, each with its endpoint. -/
  sends : List (Bytes × AddrPort)
  metrics : List Metric

namespace Router

/-- `Router.Lease`. -/
def lease (r : Router) (id : SessionID) : Except GoError Addr × Router :=
  let (addr, alloc) := r.alloc.allocate id
  (addr, { r with alloc := alloc })

/-- `Router.RecordPath`. -/
def recordPath (r : Router) (now : ℤ) (id : SessionID) (addr : AddrPort) : Router :=
  { r with paths := r.paths.record now id addr }

/-- `Router.Egress`; `devErr` is what the device answers to a write. -/
def egress (r : Router) (id : SessionID) (innerPacket : Bytes) (devErr : Option GoError) :
    EgressResult :=
  match r.alloc.leaseOf id with
  | none => ⟨some errNoLease, none, .dropped "no-lease"⟩
  | some leased =>
    match parseIPv4 innerPacket with
    | none => ⟨some errNotIPv4, none, .dropped "bad-inner-packet"⟩
    | some (src, _) =>
      if src ≠ leased then ⟨some errReversePath, none, .dropped "reverse-path"⟩
      else match devErr with
        | some err => ⟨some err, some innerPacket, .dropped "tun-write-error"⟩
        | none => ⟨none, some innerPacket, .forwarded innerPacket.length⟩

/-- The loop over the fresh endpoints: each is sent to, and a failure is not an obstacle for
the others. -/
def sendAll (sendTo : Bytes → AddrPort → Option GoError) (framed : Bytes) :
    List AddrPort → ReturnResult
  | [] => ⟨[], []⟩
  | ep :: dsts =>
    let rest := sendAll sendTo framed dsts
    ⟨(framed, ep) :: rest.sends,
      match sendTo framed ep with
      | none => .returned framed.length :: rest.metrics
      | some _ => rest.metrics⟩

/-- One turn of the loop of `ServeReturn`, for a packet read from the device.  The framer has
a state of its own. -/
def serveReturn {F : Type} (frameReturn : F → SessionID → Bytes → Except GoError Bytes × F)
    (sendTo : Bytes → AddrPort → Option GoError) (r : Router) (f : F) (now : ℤ)
    (packet : Bytes) : ReturnResult × Router × F :=
  match parseIPv4 packet with
  | none => (⟨[], [.dropped "bad-return-packet"]⟩, r, f)
  | some (_, dst) =>
    match r.alloc.lookup dst with
    | none => (⟨[], [.dropped "unknown-dst"]⟩, r, f)
    | some id =>
      match frameReturn f id packet with
      | (.error _, f) => (⟨[], [.dropped "frame-error"]⟩, r, f)
      | (.ok framed, f) =>
        let (dsts, paths) := r.paths.fresh now id
        (sendAll sendTo framed dsts, { r with paths := paths }, f)

/-! ## What the router lets through -/

variable {r : Router} {id : SessionID} {packet : Bytes} {devErr : Option GoError}

/-- **The reverse-path filter**: a packet reaches the device exactly when the session has a
lease and the packet is IPv4 from that address. -/
lemma egress_write {w : Bytes} :
    (r.egress id packet devErr).write = some w ↔ w = packet ∧
      ∃ leased dst, r.alloc.leaseOf id = some leased ∧ parseIPv4 packet = some (leased, dst) := by
  simp only [egress]
  rcases hl : r.alloc.leaseOf id with _ | leased
  · simp
  · rcases hp : parseIPv4 packet with _ | ⟨src, dst⟩
    · simp
    · by_cases hsrc : src = leased
      · subst hsrc
        rcases devErr with _ | e <;> simp [eq_comm]
      · simp [hsrc]

/-- Every endpoint is sent to, whatever the sink answers. -/
lemma sendAll_sends (sendTo : Bytes → AddrPort → Option GoError) (framed : Bytes)
    (dsts : List AddrPort) :
    (sendAll sendTo framed dsts).sends = dsts.map fun ep => (framed, ep) := by
  induction dsts with
  | nil => rfl
  | cons ep dsts ih => simp [sendAll, ih]

/-- A router over a pool with one usable address. -/
def oneAddress : Router :=
  ⟨⟨fun _ => none, fun _ => none, [.v4 0x0a4d0002#32]⟩, newPathSet 0⟩

end Router
end Gemina
