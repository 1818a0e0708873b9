/-
# The gateway with its metrics and its log

`datagateway.go` again, now with what it tells its operator: the counters and the gauge that it
registers, the calls on them in the handlers and in the methods through which the router reports to
it, and the records of its debug log.  A panic of the registry is `none`.

The functions here are those of `Gemina.Gateway.DataGateway` line by line, with these calls in
between; `Gemina.Gateway.Turns` shows that they do the same.
-/
import Gemina.Gateway.Traffic
import Gemina.Metrics.Counting

namespace Gemina
namespace DataGateway

/-! ## The metrics -/

/-- The metrics that `NewDataGateway` registers. -/
def registrations : List Metrics.Registration :=
  [.counter (ascii "gemina_handshakes_total") (ascii "Handshakes by result.") [ascii "result"],
    .counter (ascii "gemina_data_packets_total") (ascii "Data datagrams by decision.")
      [ascii "decision"],
    .gauge (ascii "gemina_active_sessions") (ascii "Sessions currently admitted on the gateway.")
      [],
    .counter (ascii "gemina_exit_forwarded_total")
      (ascii "Inner packets forwarded to the internet.") [],
    .counter (ascii "gemina_exit_forwarded_bytes_total")
      (ascii "Inner bytes forwarded to the internet.") [],
    .counter (ascii "gemina_exit_returned_total")
      (ascii "Return datagrams sent back to clients.") [],
    .counter (ascii "gemina_exit_returned_bytes_total")
      (ascii "Return bytes sent back to clients.") [],
    .counter (ascii "gemina_exit_dropped_total") (ascii "Exit-path drops by reason.")
      [ascii "reason"]]

/-- `g.handshakes.Inc`. -/
def incHandshakes (result : String) : Metrics.Call := .counterInc 0 [ascii result]

/-- `g.dataPackets.Inc`. -/
def incDataPackets (decision : String) : Metrics.Call := .counterInc 1 [ascii decision]

/-- `g.activeSession.Set`. -/
def setActiveSession (n : ℕ) : Metrics.Call := .gaugeSet 0 (Int64.ofInt n) []

/-- `DataGateway.Forwarded`, `DataGateway.Dropped` and `DataGateway.Returned`. -/
def exitCalls : Metric → List Metrics.Call
  | .forwarded bytes => [.counterInc 2 [], .counterAdd 3 (Int64.ofInt bytes) []]
  | .returned bytes => [.counterInc 4 [], .counterAdd 5 (Int64.ofInt bytes) []]
  | .dropped reason => [.counterInc 6 [ascii reason]]

/-! ## The handlers -/

/-- A record of the debug log: the message and the reason. -/
structure DebugRecord where
  msg : String
  reason : String
deriving DecidableEq

/-- The gateway with its metrics, and whether debug records are wanted.  `sessions` are the ids in
the map of the store, in the order in which they came; their number is `store.len()`. -/
structure Observed where
  gateway : DataGateway
  sessions : List SessionID
  debug : Bool
  metrics : Metrics.Registry

namespace Observed

/-- `NewDataGateway`, and `EnableExit` if there is a router. -/
def new (identityPriv : Bytes) (service : Service) (dedupCapacity : ℤ) (debug : Bool)
    (exit : Option Router) : Observed :=
  ⟨{ newDataGateway identityPriv service dedupCapacity with exit := exit }, [], debug,
    Metrics.registered registrations⟩

/-- `g.logger.Debug`, if the level is enabled. -/
def logDebug (o : Observed) (msg : String) (err : GoError) : List DebugRecord :=
  if o.debug then [⟨msg, err.text⟩] else []

/-- The debug record of `Serve` for what `Egress` answers. -/
def logDropped (o : Observed) : Option GoError → List DebugRecord
  | some err => o.logDebug "egress dropped" err
  | none => []

/-- `DataGateway.handleHandshake`. -/
def handleHandshake (C : Crypto) (T : TokenLib) (o : Observed) (amb : Ambient)
    (datagram : Bytes) : Option (Option Bytes × DataRecord × List DebugRecord × Observed) :=
  match o.gateway.admitHello C T amb datagram with
  | (.error err, g) => do
    let metrics ← o.metrics.call (incHandshakes "rejected")
    return (none, { kind := .clientHello }, o.logDebug "handshake rejected" err,
      { o with gateway := g, metrics := metrics })
  | (.ok answer, g) => do
    let sessions := o.sessions ++ [answer.id]
    let metrics ← o.metrics.call (incHandshakes "admitted")
    let metrics ← metrics.call (setActiveSession sessions.length)
    return (some answer.serverHello,
      { kind := .clientHello, admitted := true, sessionID := answer.id,
        tunnelIP := if answer.tunnelIP.isValid then answer.tunnelIP else .invalid }, [],
      ⟨g, sessions, o.debug, metrics⟩)

/-- `DataGateway.handleData`. -/
def handleData (E : Cipher) (o : Observed) (datagram : Bytes) : Option (DataRecord × Observed) :=
  let id := match sessionIDFromDatagram datagram with
    | .ok id => id
    | .error _ => ByteArrayN.zero _
  match o.gateway.dataPlane.handleClassified E o.gateway.store.sessionKey datagram with
  | (.error _, d) => do
    let metrics ← o.metrics.call (incDataPackets "rejected")
    return ({ kind := .data },
      { o with gateway := { o.gateway with dataPlane := d }, metrics := metrics })
  | (.ok (payload, .firstCopy), d) => do
    let metrics ← o.metrics.call (incDataPackets "first-copy")
    return ({ kind := .data, deliver := true, payload := payload, sessionID := id },
      { o with gateway := { o.gateway with dataPlane := d }, metrics := metrics })
  | (.ok (_, .stale), d) => do
    let metrics ← o.metrics.call (incDataPackets "stale")
    return ({ kind := .data, sessionID := id },
      { o with gateway := { o.gateway with dataPlane := d }, metrics := metrics })
  | (.ok _, d) => do
    let metrics ← o.metrics.call (incDataPackets "duplicate")
    return ({ kind := .data, sessionID := id },
      { o with gateway := { o.gateway with dataPlane := d }, metrics := metrics })

/-- `DataGateway.HandleDatagram`. -/
def handleDatagram (C : Crypto) (T : TokenLib) (E : Cipher) (o : Observed) (amb : Ambient)
    (datagram : Bytes) : Option (Option Bytes × DataRecord × List DebugRecord × Observed) :=
  match classifyDatagram datagram with
  | .clientHello => o.handleHandshake C T amb datagram
  | .data => do
    let r ← o.handleData E datagram
    return (none, r.1, [], r.2)
  | .ping =>
    match decodePing datagram with
    | .ok (false, nonce) => some (some (encodePong nonce), { kind := .ping }, [], o)
    | _ => some (none, { kind := .ping }, [], o)
  | _ => do
    let metrics ← o.metrics.call (incDataPackets "rejected")
    return (none, { kind := .unknown }, [], { o with metrics := metrics })

/-- What `Serve` does with a record, after so many debug records. -/
def forward (o : Observed) (i : Input) (reply : Option Bytes) (rec : DataRecord)
    (log : List DebugRecord) : Option (Served × List DebugRecord × Observed) :=
  match o.gateway.exit with
  | none => some (⟨reply, rec, none, none⟩, log, o)
  | some r =>
    if rec.kind = .data ∧ rec.sessionID.isZero = false then
      let r := recordSource r i.now rec.sessionID i.src
      let recorded := i.src.map fun ap => (rec.sessionID, ap)
      let o := { o with gateway := { o.gateway with exit := some r } }
      if rec.deliver then do
        let e := r.egress rec.sessionID rec.payload i.devErr
        let metrics ← o.metrics.calls (exitCalls e.metric)
        return (⟨reply, rec, recorded, e.write⟩, log ++ o.logDropped e.err,
          { o with metrics := metrics })
      else some (⟨reply, rec, recorded, none⟩, log, o)
    else some (⟨reply, rec, none, none⟩, log, o)

/-- One turn of the loop of `Serve`. -/
def serve (C : Crypto) (T : TokenLib) (E : Cipher) (o : Observed) (i : Input) :
    Option (Served × List DebugRecord × Observed) := do
  let r ← o.handleDatagram C T E i.toAmbient (i.datagram.take bufSize)
  r.2.2.2.forward i r.1 r.2.1 r.2.2.1

/-- One turn of `ServeReturn`. -/
def serveReturn (E : Cipher) (o : Observed) (now : ℤ)
    (sendTo : Bytes → AddrPort → Option GoError) (packet : Bytes) :
    Option (ReturnResult × Observed) := do
  let r := o.gateway.serveReturn E now sendTo packet
  let metrics ← o.metrics.calls (r.1.metrics.flatMap exitCalls)
  return (r.1, { o with gateway := r.2, metrics := metrics })

end Observed

end DataGateway
end Gemina
