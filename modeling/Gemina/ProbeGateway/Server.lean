/-
# The probe gateway

The server of the first stage (`server.go` of `internal/gateway`): it decodes probe datagrams,
deduplicates them in a window, and counts and logs what it decided.  The state is the window, the
three atomic counters and the metrics registry; what is passed to the logger is the output.  A nil
logger discards it.

A call of a metric with the wrong number of label values is a panic, so handling a datagram may
fail here, by `none`.
-/
import Gemina.Probe
import Gemina.Dedup.WindowSpec
import Gemina.Metrics.Exposition

namespace Gemina

/-! ## Path tags -/

def pathUnknown : PathTag := 0
def pathWiFi : PathTag := 1
def pathAndroidUSBTether : PathTag := 2

/-- `PathTag.String`. -/
def PathTag.string (tag : PathTag) : Bytes :=
  if tag = pathWiFi then ascii "wi-fi"
  else if tag = pathAndroidUSBTether then ascii "android-usb-tether"
  else ascii "unknown"

namespace ProbeGateway

/-- `maxDatagram`. -/
def maxDatagram : ℕ := 1500

/-- `summaryEvery`. -/
def summaryEvery : UInt64 := 1000

/-- `gateway.Decision`. -/
inductive Decision where
  | rejected
  | firstCopy
  | duplicate
deriving DecidableEq, Repr

/-- `Decision.String`. -/
def Decision.string : Decision → Bytes
  | .firstCopy => ascii "first-copy"
  | .duplicate => ascii "duplicate"
  | .rejected => ascii "rejected"

/-- `gateway.Record`. -/
structure Record where
  decision : Decision
  path : PathTag
  firstPath : PathTag
  copyCount : ℤ
deriving DecidableEq

/-- `Record{Decision: DecisionRejected}`. -/
def Record.rejected : Record := ⟨.rejected, 0, 0, 0⟩

/-- `gateway.Stats`. -/
structure Stats where
  firstCopies : UInt64
  duplicates : UInt64
  rejected : UInt64
deriving DecidableEq

/-- The level of a log record. -/
inductive Level where
  | debug
  | info
deriving DecidableEq, Repr

/-- The value of an attribute of a log record. -/
inductive Value where
  | string (s : Bytes)
  | int (n : ℤ)
  | uint64 (n : UInt64)
deriving DecidableEq

/-- A record that is passed to the logger. -/
structure LogRecord where
  level : Level
  msg : Bytes
  attrs : List (Bytes × Value)
deriving DecidableEq

/-- `slog.Logger`, as far as the server asks it: whether debug records are wanted.  What the handler
does with the records that it is passed is left out. -/
structure Logger where
  debugEnabled : Bool

/-- `slog.New(slog.DiscardHandler)`: it wants no debug records, and drops what it is passed. -/
def Logger.discard : Logger := ⟨false⟩

/-- The debug record of a datagram that is no probe. -/
def Logger.probeRejected (l : Logger) (err : GoError) : List LogRecord :=
  if l.debugEnabled then
    [⟨.debug, ascii "probe rejected", [(ascii "decision", .string Decision.rejected.string),
      (ascii "reason", .string (ascii err.text))]⟩]
  else []

/-- The debug record of a probe. -/
def Logger.probe (l : Logger) (record : Record) : List LogRecord :=
  if l.debugEnabled then
    [⟨.debug, ascii "probe", [(ascii "decision", .string record.decision.string),
      (ascii "path", .string record.path.string),
      (ascii "first_path", .string record.firstPath.string),
      (ascii "copy_count", .int record.copyCount)]⟩]
  else []

/-- `gateway.Server`. -/
structure Server where
  window : Window
  logger : Logger
  firstCopies : UInt64
  duplicates : UInt64
  rejected : UInt64
  metrics : Metrics.Registry

/-- The metrics that `NewServer` registers. -/
def registrations : List Metrics.Registration :=
  [.counter (ascii "gemina_packets_total") (ascii "Probe datagrams handled, by decision and path.")
      [ascii "decision", ascii "path"],
    .counter (ascii "gemina_rejected_total") (ascii "Datagrams rejected before dedup, by reason.")
      [ascii "reason"]]

/-- `NewServer`. -/
def newServer (capacity : ℤ) (logger : Option Logger) : Except GoError Server := do
  let window ← newWindow capacity
  return ⟨window, logger.getD .discard, 0, 0, 0, Metrics.registered registrations⟩

/-- `rejectReason`. -/
def rejectReason (err : GoError) : Bytes :=
  if err = errShortProbe then ascii "short"
  else if err = errProbeMagic then ascii "bad-magic"
  else if err = errUnsupportedVersion then ascii "unsupported-version"
  else if err = errInvalidProbe then ascii "invalid-identity"
  else ascii "other"

/-- `firstPathTag`. -/
def firstPathTag (path : PathID) : PathTag :=
  (([pathWiFi, pathAndroidUSBTether] : List PathTag).find?
    fun tag => tag.string = path).getD pathUnknown

namespace Server

/-- `s.packets.Inc`. -/
def incPackets (s : Server) (decision path : Bytes) : Option Server := do
  return { s with metrics := ← s.metrics.call (.counterInc 0 [decision, path]) }

/-- `s.rejects.Inc`. -/
def incRejects (s : Server) (reason : Bytes) : Option Server := do
  return { s with metrics := ← s.metrics.call (.counterInc 1 [reason]) }

/-- `Server.Stats`. -/
def stats (s : Server) : Stats := ⟨s.firstCopies, s.duplicates, s.rejected⟩

/-- `Server.Handle`. -/
def handle (s : Server) (datagram : Bytes) : Option (Record × List LogRecord × Server) :=
  match unmarshalProbe datagram with
  | .error err => do
    let s := { s with rejected := s.rejected + 1 }
    let s ← s.incPackets Decision.rejected.string pathUnknown.string
    let s ← s.incRejects (rejectReason err)
    return (.rejected, s.logger.probeRejected err, s)
  | .ok probe =>
    let (result, window) := s.window.observe probe.id probe.path.string
    let s := { s with window := window }
    match result.decision with
    | .firstCopy => do
      let s := { s with firstCopies := s.firstCopies + 1 }
      let record : Record := ⟨.firstCopy, probe.path, probe.path, result.copyCount⟩
      let s ← s.incPackets Decision.firstCopy.string probe.path.string
      return (record, s.logger.probe record, s)
    | .duplicate => do
      let s := { s with duplicates := s.duplicates + 1 }
      let record : Record :=
        ⟨.duplicate, probe.path, firstPathTag result.firstPath, result.copyCount⟩
      let s ← s.incPackets Decision.duplicate.string probe.path.string
      return (record, s.logger.probe record, s)
    | .invalid => do
      let s := { s with rejected := s.rejected + 1 }
      let s ← s.incPackets Decision.rejected.string pathUnknown.string
      let s ← s.incRejects (ascii "invalid-identity")
      return (.rejected, [], s)

end Server

/-! ## The receive loop -/

/-- `Server.logSummary`, of the counters that it loads. -/
def logSummary (reason : Bytes) (st : Stats) : LogRecord :=
  ⟨.info, ascii "probe summary", [(ascii "reason", .string reason),
    (ascii "first_copies", .uint64 st.firstCopies), (ascii "duplicates", .uint64 st.duplicates),
    (ascii "rejected", .uint64 st.rejected)]⟩

/-- What a read from the socket returns: a datagram, or an error. -/
inductive Read where
  | datagram (b : Bytes)
  /-- `stopped`: the context is done, or the error is `net.ErrClosed`. -/
  | failed (stopped : Bool) (err : GoError)

/-- The loop of `Serve` between two reads, with what was decided and logged so far. -/
structure Loop where
  server : Server
  processed : UInt64
  records : List Record
  log : List LogRecord

/-- One pass of the loop, over a datagram that was read into the buffer. -/
def Loop.pass (l : Loop) (b : Bytes) : Option Loop := do
  let (record, log, s) ← l.server.handle (b.take maxDatagram)
  let processed := l.processed + 1
  let summary :=
    if processed % summaryEvery = 0 then [logSummary (ascii "interval") s.stats] else []
  return ⟨s, processed, l.records ++ [record], l.log ++ log ++ summary⟩

/-- The passes over some datagrams. -/
def Loop.passes (l : Loop) (ds : List Bytes) : Option Loop := ds.foldlM Loop.pass l

/-- What `Serve` has returned, if it has: an error or `nil`. -/
inductive Returned where
  | running
  | done (err : Option GoError)

/-- `Server.Serve`, over what the reads return. -/
def Loop.serve (l : Loop) : List Read → Option (Loop × Returned)
  | [] => some (l, .running)
  | .failed stopped err :: _ => some (l, .done (if stopped then none else some err))
  | .datagram b :: reads => do (← l.pass b).serve reads

/-- The loop at the start of `Serve`. -/
def Server.start (s : Server) : Loop := ⟨s, 0, [], []⟩

end ProbeGateway
end Gemina
