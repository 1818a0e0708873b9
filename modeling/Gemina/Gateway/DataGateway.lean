/-
# The gateway

The gateway dispatches what it receives to admission, to the data plane or to the ping reply,
and with the exit path enabled it forwards what it delivers and routes what comes back
(`datagateway.go` of `internal/gateway`).
-/
import Gemina.ClientCore.Classify
import Gemina.Exit.Router
import Gemina.Gateway.DataPlane

namespace Gemina

/-- The kinds of a `DataRecord`. -/
inductive RecordKind where
  | clientHello
  | data
  | ping
  | unknown
deriving DecidableEq, Repr

/-- `DataRecord`: what the gateway decided about a datagram. -/
structure DataRecord where
  kind : RecordKind
  admitted : Bool := false
  deliver : Bool := false
  payload : Bytes := []
  /-- The session that the datagram belongs to, or zero. -/
  sessionID : SessionID := ByteArrayN.zero _
  /-- The leased address, for an admitted hello with the exit path on. -/
  tunnelIP : Addr := .invalid
deriving DecidableEq

/-- `DataGateway`, without its metrics and its logger.  The store is shared by the admitter
and the data plane. -/
structure DataGateway where
  identityPriv : Bytes
  admitter : Admitter
  store : SessionStore
  dataPlane : DataPlane
  /-- The exit path, when it is enabled. -/
  exit : Option Router

/-- `NewDataGateway`. -/
def newDataGateway (identityPriv : Bytes) (service : Service) (dedupCapacity : ℤ) : DataGateway :=
  ⟨identityPriv, newAdmitter service, SessionStore.new, newDataPlane dedupCapacity, none⟩

/-- What one call depends on besides its argument: the clock, the one that the entitlement service
reads when it checks the token of a handshake, and the ephemeral key that a handshake draws. -/
structure Ambient where
  now : ℤ
  tokenNow : ℤ
  seed : KeySeed

namespace DataGateway

/-- `DataGateway.EnableExit`. -/
def enableExit (g : DataGateway) (r : Router) : DataGateway := { g with exit := some r }

/-- The call of `Admitter.Handshake`, with the router's `Lease` as leaser when the exit path
is enabled. -/
def admitHello (C : Crypto) (T : TokenLib) (g : DataGateway) (amb : Ambient) (datagram : Bytes) :
    Except GoError Admitter.Answer × DataGateway :=
  match g.exit with
  | none =>
    let (answer, store, _) := g.admitter.handshake C T (none : Option (Leaser Unit))
      g.identityPriv g.store () amb.now amb.tokenNow amb.seed datagram
    (answer, { g with store := store })
  | some r =>
    let (answer, store, r) := g.admitter.handshake C T (some Router.lease)
      g.identityPriv g.store r amb.now amb.tokenNow amb.seed datagram
    (answer, { g with store := store, exit := some r })

/-- `DataGateway.handleHandshake`. -/
def handleHandshake (C : Crypto) (T : TokenLib) (g : DataGateway) (amb : Ambient)
    (datagram : Bytes) : Option Bytes × DataRecord × DataGateway :=
  match g.admitHello C T amb datagram with
  | (.error _, g) => (none, { kind := .clientHello }, g)
  | (.ok answer, g) =>
    (some answer.serverHello,
      { kind := .clientHello, admitted := true, sessionID := answer.id,
        tunnelIP := if answer.tunnelIP.isValid then answer.tunnelIP else .invalid }, g)

/-- `DataGateway.handleData`. -/
def handleData (E : Cipher) (g : DataGateway) (datagram : Bytes) : DataRecord × DataGateway :=
  let id := match sessionIDFromDatagram datagram with
    | .ok id => id
    | .error _ => ByteArrayN.zero _
  match g.dataPlane.handleClassified E g.store.sessionKey datagram with
  | (.error _, d) => ({ kind := .data }, { g with dataPlane := d })
  | (.ok (payload, decision), d) =>
    (match decision with
      | .firstCopy => { kind := .data, deliver := true, payload := payload, sessionID := id }
      | .stale => { kind := .data, sessionID := id }
      | _ => { kind := .data, sessionID := id }, { g with dataPlane := d })

/-- `DataGateway.HandleDatagram`: the reply, if any, and the record. -/
def handleDatagram (C : Crypto) (T : TokenLib) (E : Cipher) (g : DataGateway) (amb : Ambient)
    (datagram : Bytes) : Option Bytes × DataRecord × DataGateway :=
  match classifyDatagram datagram with
  | .clientHello => g.handleHandshake C T amb datagram
  | .data =>
    let (rec, g) := g.handleData E datagram
    (none, rec, g)
  | .ping =>
    match decodePing datagram with
    | .ok (false, nonce) => (some (encodePong nonce), { kind := .ping }, g)
    | _ => (none, { kind := .ping }, g)
  | _ => (none, { kind := .unknown }, g)

/-- `DataGateway.FrameReturn`. -/
def frameReturn (E : Cipher) (g : DataGateway) (id : SessionID) (payload : Bytes) :
    Except GoError Bytes × DataGateway :=
  let (framed, d) := g.dataPlane.frameReturn E g.store.sessionKey id payload
  (framed, { g with dataPlane := d })

/-- The length of the buffer that `Serve` reads into; UDP cuts a longer datagram off. -/
def bufSize : ℕ := 2048

/-- One datagram that `Serve` reads, with its UDP source, and what the turn depends on. -/
structure Input extends Ambient where
  datagram : Bytes
  /-- The source endpoint; `none` for an address that is not UDP. -/
  src : Option AddrPort
  /-- What the TUN device answers to a write. -/
  devErr : Option GoError

/-- What one turn of `Serve` does. -/
structure Served where
  reply : Option Bytes
  record : DataRecord
  /-- The endpoint that was recorded for a session. -/
  recorded : Option (SessionID × AddrPort)
  /-- The packet that was handed to the TUN device. -/
  tunWrite : Option Bytes
deriving DecidableEq

/-- `RecordPath` for the source of a datagram, if it is UDP. -/
def recordSource (r : Router) (now : ℤ) (id : SessionID) (src : Option AddrPort) : Router :=
  match src with
  | some ap => r.recordPath now id ap
  | none => r

@[simp] lemma recordSource_alloc (r : Router) (now : ℤ) (id : SessionID) (src : Option AddrPort) :
    (recordSource r now id src).alloc = r.alloc := by
  cases src <;> rfl

/-- What `Serve` does with a record: with the exit path on, an accepted data datagram has its
source recorded, and its payload forwarded if it is to be delivered. -/
def forward (g : DataGateway) (i : Input) (reply : Option Bytes) (rec : DataRecord) :
    Served × DataGateway :=
  match g.exit with
  | none => (⟨reply, rec, none, none⟩, g)
  | some r =>
    if rec.kind = .data ∧ rec.sessionID.isZero = false then
      let r := recordSource r i.now rec.sessionID i.src
      let write := if rec.deliver then (r.egress rec.sessionID rec.payload i.devErr).write else none
      (⟨reply, rec, i.src.map fun ap => (rec.sessionID, ap), write⟩, { g with exit := some r })
    else (⟨reply, rec, none, none⟩, g)

/-- One turn of the loop of `Serve`. -/
def serve (C : Crypto) (T : TokenLib) (E : Cipher) (g : DataGateway) (i : Input) :
    Served × DataGateway :=
  match g.handleDatagram C T E i.toAmbient (i.datagram.take bufSize) with
  | (reply, rec, g) => g.forward i reply rec

/-- One turn of `ServeReturn`, for a packet read from the TUN device. -/
def serveReturn (E : Cipher) (g : DataGateway) (now : ℤ)
    (sendTo : Bytes → AddrPort → Option GoError) (packet : Bytes) : ReturnResult × DataGateway :=
  match g.exit with
  | none => (⟨[], []⟩, g)
  | some r =>
    let (result, r, d) := r.serveReturn
      (fun d id payload => d.frameReturn E g.store.sessionKey id payload) sendTo g.dataPlane now
      packet
    (result, { g with dataPlane := d, exit := some r })

end DataGateway
end Gemina
