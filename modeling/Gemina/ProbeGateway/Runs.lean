/-
# Runs of the probe gateway

What the probe gateway should decide about a datagram is a function of the datagrams before it:
the window's answer, read off its history.  This file proves that the receive loop decides so over
every sequence of reads, never panics, and that its counters, its log and the text of its metrics
all report exactly these decisions.

* `specRecord`: the decision about a datagram after others;
* `Server.Follows`: the relation between the datagrams so far and the server, kept by `Handle`;
* `serve_reports_decisions`: the result over whole runs.
-/
import Gemina.Rndis.Probe
import Gemina.Metrics.Counting
import Gemina.ProbeGateway.Server

namespace Gemina

/-! ## The history that a window should have -/

namespace Window

/-- The history of a window of the given capacity, from the specification alone. -/
def specHistory (capacity : ℕ) (os : List Observation) : History :=
  os.foldl (fun h o => (o, specResult capacity h o.id o.path) :: h) []

lemma specHistory_concat (capacity : ℕ) (os : List Observation) (o : Observation) :
    specHistory capacity (os ++ [o]) =
      (o, specResult capacity (specHistory capacity os) o.id o.path) ::
        specHistory capacity os := by
  simp [specHistory]

/-- A valid observation is a duplicate or a first copy. -/
lemma specResult_of_valid {id : PacketID} {path : PathID} (hvalid : (id.valid && path.valid) = true)
    (capacity : ℕ) (h : History) :
    (specResult capacity h id path).decision = .duplicate ∨
      specResult capacity h id path = ⟨.firstCopy, id, path, path, 1⟩ := by
  rw [specResult, if_neg (by simp [hvalid])]
  rcases sinceFirstCopy id h with _ | ⟨firstPath, since⟩
  · exact Or.inr rfl
  · by_cases hlt : (firstCopies since).length < capacity
    · exact Or.inl (by simp [hlt])
    · exact Or.inr (by simp [hlt])

end Window

namespace ProbeGateway

/-! ## The specification -/

/-- What the window observes of a datagram. -/
def observation (b : Bytes) : Option Window.Observation :=
  match unmarshalProbe b with
  | .error _ => none
  | .ok probe => some ⟨probe.id, probe.path.string⟩

/-- The history of the window after the given datagrams. -/
def windowHistory (capacity : ℕ) (ds : List Bytes) : Window.History :=
  Window.specHistory capacity (ds.filterMap observation)

/-- The decision about a datagram after others. -/
def specRecord (capacity : ℕ) (earlier : List Bytes) (b : Bytes) : Record :=
  match unmarshalProbe b with
  | .error _ => .rejected
  | .ok probe =>
    let result :=
      Window.specResult capacity (windowHistory capacity earlier) probe.id probe.path.string
    if result.decision = .duplicate then
      ⟨.duplicate, probe.path, firstPathTag result.firstPath, result.copyCount⟩
    else ⟨.firstCopy, probe.path, probe.path, 1⟩

/-- The decisions about some datagrams, each after those before it. -/
def specRecords (capacity : ℕ) (ds : List Bytes) : List Record :=
  (List.range ds.length).map fun i => specRecord capacity (ds.take i) (ds.getD i [])

/-- The counts of the decisions, as 64-bit integers. -/
def tally (records : List Record) : Stats where
  firstCopies := UInt64.ofNat (records.countP fun r => r.decision = .firstCopy)
  duplicates := UInt64.ofNat (records.countP fun r => r.decision = .duplicate)
  rejected := UInt64.ofNat (records.countP fun r => r.decision = .rejected)

/-- What is logged about one datagram. -/
def debugLog (logger : Logger) (b : Bytes) (record : Record) : List LogRecord :=
  match unmarshalProbe b with
  | .error err => logger.probeRejected err
  | .ok _ => logger.probe record

/-- The log after some datagrams: their debug records, and a summary after every thousandth. -/
def specLog (capacity : ℕ) (logger : Logger) (ds : List Bytes) : List LogRecord :=
  (List.range ds.length).flatMap fun i =>
    debugLog logger (ds.getD i []) (specRecord capacity (ds.take i) (ds.getD i [])) ++
      if UInt64.ofNat (i + 1) % summaryEvery = 0 then
        [logSummary (ascii "interval") (tally (specRecords capacity (ds.take (i + 1))))]
      else []

/-- The labels of a decision. -/
def packetLabels (r : Record) : List Bytes := [r.decision.string, r.path.string]

/-- The labels of a datagram that is no probe. -/
def rejectLabels (b : Bytes) : Option (List Bytes) :=
  match unmarshalProbe b with
  | .error err => some [rejectReason err]
  | .ok _ => none

/-- The datagrams that are read before an error. -/
def handled : List Read → List Bytes
  | .datagram b :: reads => b :: handled reads
  | _ => []

/-- What `Serve` returns: the first error, unless the server was stopped. -/
def returned : List Read → Returned
  | [] => .running
  | .datagram _ :: reads => returned reads
  | .failed stopped err :: _ => .done (if stopped then none else some err)

/-! ## Lists that grow at the end -/

section Concat

variable (capacity : ℕ) (ds : List Bytes) (b : Bytes)

variable {b} in
lemma windowHistory_concat_error {err : GoError} (h : unmarshalProbe b = .error err) :
    windowHistory capacity (ds ++ [b]) = windowHistory capacity ds := by
  rw [windowHistory, List.filterMap_append]
  simp [observation, h, windowHistory]

variable {b} in
lemma windowHistory_concat_ok {probe : ProbePacket} (h : unmarshalProbe b = .ok probe) :
    windowHistory capacity (ds ++ [b]) =
      (⟨probe.id, probe.path.string⟩, Window.specResult capacity (windowHistory capacity ds)
        probe.id probe.path.string) :: windowHistory capacity ds := by
  have hobs : observation b = some ⟨probe.id, probe.path.string⟩ := by simp [observation, h]
  rw [windowHistory, List.filterMap_append, List.filterMap_cons_some hobs, List.filterMap_nil,
    Window.specHistory_concat]
  rfl

/-- The datagrams before the last. -/
lemma take_concat {i : ℕ} (hi : i < ds.length) : (ds ++ [b]).take i = ds.take i :=
  List.take_append_of_le_length hi.le

lemma getD_concat {i : ℕ} (hi : i < ds.length) : (ds ++ [b]).getD i [] = ds.getD i [] := by
  rw [List.getD_append _ _ _ _ hi]

lemma specRecords_concat :
    specRecords capacity (ds ++ [b]) = specRecords capacity ds ++ [specRecord capacity ds b] := by
  rw [specRecords, List.length_append, List.length_singleton, List.range_succ, List.map_append]
  congr 1
  · refine List.map_congr_left ?_
    intro i hi
    rw [List.mem_range] at hi
    rw [take_concat ds b hi, getD_concat ds b hi]
  · simp

lemma length_specRecords : (specRecords capacity ds).length = ds.length := by
  simp [specRecords]

end Concat

lemma specLog_concat (capacity : ℕ) (logger : Logger) (ds : List Bytes) (b : Bytes) :
    specLog capacity logger (ds ++ [b]) = specLog capacity logger ds ++
      (debugLog logger b (specRecord capacity ds b) ++
        if UInt64.ofNat (ds.length + 1) % summaryEvery = 0 then
          [logSummary (ascii "interval") (tally (specRecords capacity (ds ++ [b])))]
        else []) := by
  rw [specLog, List.length_append, List.length_singleton, List.range_succ, List.flatMap_append]
  congr 1
  · refine List.flatMap_congr ?_
    intro i hi
    rw [List.mem_range] at hi
    rw [take_concat ds b hi, getD_concat ds b hi, List.take_append_of_le_length hi]
  · have hall : (ds ++ [b]).take (ds.length + 1) = ds ++ [b] :=
      List.take_of_length_le (by simp)
    simp [hall]

lemma tally_concat (records : List Record) (r : Record) :
    tally (records ++ [r]) =
      ⟨(tally records).firstCopies + (if r.decision = .firstCopy then 1 else 0),
        (tally records).duplicates + (if r.decision = .duplicate then 1 else 0),
        (tally records).rejected + (if r.decision = .rejected then 1 else 0)⟩ := by
  rcases h : r.decision <;> simp [tally, h, UInt64.ofNat_add]

/-- Every decision is counted once. -/
lemma tally_sum (records : List Record) :
    (tally records).firstCopies + (tally records).duplicates + (tally records).rejected =
      UInt64.ofNat records.length := by
  simp only [tally, ← UInt64.ofNat_add]
  congr 1
  induction records with
  | nil => rfl
  | cons r records ih => rcases h : r.decision <;> simp [h, ← ih] <;> omega

/-! ## Texts -/

lemma PathTag.string_valid (tag : PathTag) : PathID.valid tag.string = true := by
  rw [PathTag.string]
  split_ifs <;> decide

/-- The texts that become label values have no NUL byte. -/
lemma PathTag.noNul (tag : PathTag) : 0 ∉ tag.string := by
  rw [PathTag.string]
  split_ifs <;> decide

lemma Decision.noNul (d : Decision) : 0 ∉ d.string := by
  cases d <;> decide

lemma rejectReason_noNul (err : GoError) : 0 ∉ rejectReason err := by
  rw [rejectReason]
  split_ifs <;> decide

/-! ## One datagram -/

/-- What the metrics are told about a datagram. -/
def metricCalls (b : Bytes) (r : Record) : List Metrics.Call :=
  .counterInc 0 (packetLabels r) :: ((rejectLabels b).map (Metrics.Call.counterInc 1)).toList

/-- What the metrics are told about some datagrams. -/
def allCalls (capacity : ℕ) (ds : List Bytes) : List Metrics.Call :=
  (List.range ds.length).flatMap fun i =>
    metricCalls (ds.getD i []) (specRecord capacity (ds.take i) (ds.getD i []))

lemma allCalls_concat (capacity : ℕ) (ds : List Bytes) (b : Bytes) :
    allCalls capacity (ds ++ [b]) =
      allCalls capacity ds ++ metricCalls b (specRecord capacity ds b) := by
  rw [allCalls, List.length_append, List.length_singleton, List.range_succ, List.flatMap_append]
  congr 1
  · refine List.flatMap_congr ?_
    intro i hi
    rw [List.mem_range] at hi
    rw [take_concat ds b hi, getD_concat ds b hi]
  · simp

/-- The registry of a new server, after some calls. -/
abbrev Counted (cs : List Metrics.Call) (r : Metrics.Registry) : Prop :=
  Metrics.Registry.Follows (Metrics.registered registrations) cs r

lemma Counted.packets {cs : List Metrics.Call} {r : Metrics.Registry} (h : Counted cs r)
    (d : Decision) (path : PathTag) :
    ∃ r', r.call (.counterInc 0 [d.string, path.string]) = some r' ∧
      Counted (cs ++ [.counterInc 0 [d.string, path.string]]) r' :=
  h.call (c := .counterInc 0 [d.string, path.string])
    (m := ⟨_, _, [ascii "decision", ascii "path"], ∅⟩) rfl
    ⟨rfl, by simpa [Metrics.Call.labelValues] using ⟨d.noNul, PathTag.noNul path⟩⟩

lemma Counted.rejects {cs : List Metrics.Call} {r : Metrics.Registry} (h : Counted cs r)
    (err : GoError) :
    ∃ r', r.call (.counterInc 1 [rejectReason err]) = some r' ∧
      Counted (cs ++ [.counterInc 1 [rejectReason err]]) r' :=
  h.call (c := .counterInc 1 [rejectReason err]) (m := ⟨_, _, [ascii "reason"], ∅⟩) rfl
    ⟨rfl, by simpa [Metrics.Call.labelValues] using rejectReason_noNul err⟩

namespace Server

variable {s : Server}

/-- The server after some datagrams: its window follows their history, its counters count the
decisions, and its metrics were told about them. -/
structure Follows (capacity : ℕ) (logger : Logger) (ds : List Bytes) (s : Server) : Prop where
  window : Window.Tracks (windowHistory capacity ds) s.window
  capacity_eq : s.window.capacity = capacity
  logger_eq : s.logger = logger
  stats_eq : s.stats = tally (specRecords capacity ds)
  metrics : Counted (allCalls capacity ds) s.metrics

variable {capacity : ℕ} {logger : Logger} {ds : List Bytes} {b : Bytes}

/-- A datagram that is no probe. -/
lemma Follows.handle_error (h : Follows capacity logger ds s) {err : GoError}
    (hb : unmarshalProbe b = .error err) :
    ∃ s', s.handle b =
        some (specRecord capacity ds b, debugLog logger b (specRecord capacity ds b), s') ∧
      Follows capacity logger (ds ++ [b]) s' := by
  have hrecord : specRecord capacity ds b = .rejected := by simp [specRecord, hb]
  obtain ⟨r, hr, hcounted⟩ := h.metrics.packets .rejected pathUnknown
  obtain ⟨r', hr', hcounted'⟩ := hcounted.rejects err
  refine ⟨{ s with rejected := s.rejected + 1, metrics := r' }, ?_, ?_, h.capacity_eq,
    h.logger_eq, ?_, ?_⟩
  · simp [handle, hb, incPackets, incRejects, hr, hr', hrecord, debugLog, h.logger_eq]
  · rw [windowHistory_concat_error capacity ds hb]
    exact h.window
  · rw [specRecords_concat, tally_concat, ← h.stats_eq, hrecord]
    simp [stats, Record.rejected]
  · rw [List.append_assoc] at hcounted'
    rw [allCalls_concat, hrecord, metricCalls, rejectLabels, hb]
    exact hcounted'

/-- A probe: the window takes it for a first copy or for a duplicate. -/
lemma Follows.handle_ok (h : Follows capacity logger ds s) {probe : ProbePacket}
    (hb : unmarshalProbe b = .ok probe) :
    ∃ s', s.handle b =
        some (specRecord capacity ds b, debugLog logger b (specRecord capacity ds b), s') ∧
      Follows capacity logger (ds ++ [b]) s' := by
  obtain ⟨hresult, hcap, htracks⟩ := h.window.observe ⟨probe.id, probe.path.string⟩
  rw [h.capacity_eq] at hresult hcap
  have hvalid : (probe.id.valid && PathID.valid probe.path.string) = true := by
    rw [(Rndis.unmarshalProbe_ok hb).1, PathTag.string_valid, Bool.and_self]
  have htracks' : Window.Tracks (windowHistory capacity (ds ++ [b]))
      (s.window.observe probe.id probe.path.string).2 := by
    rw [windowHistory_concat_ok capacity ds hb, ← hresult]
    exact htracks
  simp only at hresult hcap
  rcases Window.specResult_of_valid hvalid capacity (windowHistory capacity ds) with hdup | hfirst
  · have hrecord : specRecord capacity ds b = ⟨.duplicate, probe.path,
        firstPathTag (s.window.observe probe.id probe.path.string).1.firstPath,
        (s.window.observe probe.id probe.path.string).1.copyCount⟩ := by
      simp [specRecord, hb, hdup, hresult]
    obtain ⟨r, hr, hcounted⟩ := h.metrics.packets .duplicate probe.path
    refine ⟨⟨(s.window.observe probe.id probe.path.string).2, s.logger, s.firstCopies,
      s.duplicates + 1, s.rejected, r⟩, ?_, htracks', hcap, h.logger_eq, ?_, ?_⟩
    · simp [handle, hb, hresult, hdup, incPackets, hr, hrecord, debugLog, h.logger_eq]
    · rw [specRecords_concat, tally_concat, ← h.stats_eq, hrecord]
      simp [stats]
    · rw [allCalls_concat, hrecord, metricCalls, rejectLabels, hb]
      exact hcounted
  · have hrecord : specRecord capacity ds b = ⟨.firstCopy, probe.path, probe.path, 1⟩ := by
      simp [specRecord, hb, hfirst]
    obtain ⟨r, hr, hcounted⟩ := h.metrics.packets .firstCopy probe.path
    refine ⟨⟨(s.window.observe probe.id probe.path.string).2, s.logger, s.firstCopies + 1,
      s.duplicates, s.rejected, r⟩, ?_, htracks', hcap, h.logger_eq, ?_, ?_⟩
    · simp [handle, hb, hresult, hfirst, incPackets, hr, hrecord, debugLog, h.logger_eq]
    · rw [specRecords_concat, tally_concat, ← h.stats_eq, hrecord]
      simp [stats]
    · rw [allCalls_concat, hrecord, metricCalls, rejectLabels, hb]
      exact hcounted

/-- **One datagram.**  `Handle` does not panic, decides as specified, and the server follows the
datagrams on. -/
lemma Follows.handle (h : Follows capacity logger ds s) (b : Bytes) :
    ∃ s', s.handle b =
        some (specRecord capacity ds b, debugLog logger b (specRecord capacity ds b), s') ∧
      Follows capacity logger (ds ++ [b]) s' := by
  rcases hb : unmarshalProbe b with err | probe
  · exact h.handle_error hb
  · exact h.handle_ok hb

/-- A new server has seen no datagram. -/
lemma follows_new {capacity : ℤ} (hpos : 1 ≤ capacity) (logger : Option Logger) :
    ∃ s, newServer capacity logger = .ok s ∧
      Follows capacity.toNat (logger.getD .discard) [] s := by
  obtain ⟨w, hnew, hcap, htracks⟩ := Window.newWindow_ok hpos
  refine ⟨⟨w, logger.getD .discard, 0, 0, 0, Metrics.registered registrations⟩, ?_, htracks, hcap,
    rfl, rfl, Metrics.follows_registered _⟩
  rw [newServer, hnew]
  rfl

end Server

/-! ## The receive loop -/

/-- A read into a buffer of `maxDatagram` bytes loses nothing that the decoder reads. -/
lemma unmarshalProbe_take (b : Bytes) : unmarshalProbe (b.take maxDatagram) = unmarshalProbe b := by
  have hslice : ∀ i j : ℕ, j ≤ maxDatagram → (b.take maxDatagram).slice i j = b.slice i j := by
    intro i j hj
    simp only [List.slice, List.drop_take, List.take_take]
    congr 1
    omega
  have hget : ∀ i : ℕ, i < maxDatagram → (b.take maxDatagram).getD i 0 = b.getD i 0 := by
    intro i hi
    simp [List.getD_eq_getElem?_getD, hi]
  have hnumber : uint64 ((b.take maxDatagram).drop (probeSessionOffset + sessionIDSize)) =
      uint64 (b.drop (probeSessionOffset + sessionIDSize)) := by
    simp [uint64, List.drop_take, List.take_take, probeSessionOffset, sessionIDSize, maxDatagram]
  have hlen : ((b.take maxDatagram).length < probeWireSize) ↔ (b.length < probeWireSize) := by
    simp only [List.length_take, probeWireSize, probeSessionOffset, sessionIDSize, maxDatagram]
    omega
  simp only [unmarshalProbe, hlen, hslice 0 4 (by decide), hget 4 (by decide), hget 5 (by decide),
    hslice _ (probeSessionOffset + sessionIDSize) (by decide), hnumber]

lemma Server.handle_take (s : Server) (b : Bytes) :
    s.handle (b.take maxDatagram) = s.handle b := by
  rw [handle, unmarshalProbe_take, handle]

/-- The loop after some datagrams. -/
structure Loop.Follows (capacity : ℕ) (logger : Logger) (ds : List Bytes) (l : Loop) : Prop where
  server : l.server.Follows capacity logger ds
  processed_eq : l.processed = UInt64.ofNat ds.length
  records_eq : l.records = specRecords capacity ds
  log_eq : l.log = specLog capacity logger ds

namespace Loop

variable {capacity : ℕ} {logger : Logger} {ds : List Bytes} {l : Loop}

/-- **One pass** of the loop. -/
lemma Follows.pass (h : l.Follows capacity logger ds) (b : Bytes) :
    ∃ l', l.pass b = some l' ∧ l'.Follows capacity logger (ds ++ [b]) := by
  obtain ⟨s', hhandle, hserver⟩ := h.server.handle b
  have hprocessed : l.processed + 1 = UInt64.ofNat (ds.length + 1) := by
    rw [h.processed_eq, UInt64.ofNat_add]
    rfl
  refine ⟨_, by rw [Loop.pass, Server.handle_take, hhandle]; rfl, hserver, ?_, ?_, ?_⟩
  · rw [List.length_append, List.length_singleton, ← hprocessed]
  · rw [specRecords_concat, ← h.records_eq]
  · rw [specLog_concat, ← h.log_eq, hprocessed, hserver.stats_eq, List.append_assoc]

/-- **The receive loop**, over everything that it reads. -/
lemma Follows.serve (h : l.Follows capacity logger ds) (reads : List Read) :
    ∃ l', l.serve reads = some (l', returned reads) ∧
      l'.Follows capacity logger (ds ++ handled reads) := by
  induction reads generalizing l ds with
  | nil => exact ⟨l, rfl, by simpa [handled] using h⟩
  | cons read reads ih =>
    cases read with
    | failed stopped err => exact ⟨l, rfl, by simpa [handled] using h⟩
    | datagram b =>
      obtain ⟨l₁, hpass, h₁⟩ := h.pass b
      obtain ⟨l₂, hserve, h₂⟩ := ih h₁
      refine ⟨l₂, ?_, by simpa [handled] using h₂⟩
      rw [Loop.serve, hpass]
      exact hserve

end Loop

/-! ## What the metrics show -/

lemma history_packets (capacity : ℕ) (ds : List Bytes) :
    Metrics.history (.counter 0) (allCalls capacity ds) =
      Metrics.incremented ((specRecords capacity ds).map packetLabels) := by
  induction ds using List.reverseRecOn with
  | nil => rfl
  | append_singleton ds b ih =>
    rw [allCalls_concat, specRecords_concat, Metrics.history, List.filter_append, List.map_append,
      ← Metrics.history, ih, metricCalls, rejectLabels]
    rcases unmarshalProbe b with err | probe <;>
      simp [Metrics.incremented, Metrics.Call.target, Metrics.Call.labelValues,
        Metrics.Call.update]

lemma history_rejects (capacity : ℕ) (ds : List Bytes) :
    Metrics.history (.counter 1) (allCalls capacity ds) =
      Metrics.incremented (ds.filterMap rejectLabels) := by
  induction ds using List.reverseRecOn with
  | nil => rfl
  | append_singleton ds b ih =>
    rw [allCalls_concat, List.filterMap_append, Metrics.history, List.filter_append,
      List.map_append, ← Metrics.history, ih, metricCalls]
    rcases h : rejectLabels b with _ | labels <;>
      simp [h, Metrics.incremented, Metrics.Call.target, Metrics.Call.labelValues,
        Metrics.Call.update]

/-- `gemina_packets_total`. -/
def packetsTotal : Metrics.Metric :=
  ⟨ascii "gemina_packets_total", ascii "Probe datagrams handled, by decision and path.",
    [ascii "decision", ascii "path"], ∅⟩

/-- `gemina_rejected_total`. -/
def rejectedTotal : Metrics.Metric :=
  ⟨ascii "gemina_rejected_total", ascii "Datagrams rejected before dedup, by reason.",
    [ascii "reason"], ∅⟩

/-- The text of the metrics is that of the two counters. -/
lemma counts_of_counted {rt : Metrics.Runtime} (hrt : rt.Lawful) {capacity : ℕ} {ds : List Bytes}
    {r : Metrics.Registry} (h : Counted (allCalls capacity ds) r) (hfits : ds.length < 2 ^ 63) :
    ∃ packets rejects, r.render rt = packets ++ rejects ∧
      Metrics.Counts packetsTotal ((specRecords capacity ds).map packetLabels) packets ∧
      Metrics.Counts rejectedTotal (ds.filterMap rejectLabels) rejects := by
  obtain ⟨series₀, hfollows₀, htext₀⟩ := @Metrics.Registry.Follows.textOf _ _ _ h rt
    (.counter 0) packetsTotal rfl
  obtain ⟨series₁, hfollows₁, htext₁⟩ := @Metrics.Registry.Follows.textOf _ _ _ h rt
    (.counter 1) rejectedTotal rfl
  rw [history_packets] at hfollows₀
  rw [history_rejects] at hfollows₁
  refine ⟨r.textOf rt (.counter 0), r.textOf rt (.counter 1), ?_, ?_, ?_⟩
  · rw [Metrics.Registry.render_eq_assemble, h.counters, h.gauges]
    simp [Metrics.assemble, Metrics.registered, registrations, Metrics.Registry.register,
      Metrics.Registry.counter, Metrics.newRegistry, List.range_succ]
  · rw [htext₀]
    refine Metrics.counts_of_follows hrt hfollows₀ ?_
    rw [List.length_map, length_specRecords]
    exact hfits
  · rw [htext₁]
    exact Metrics.counts_of_follows hrt hfollows₁
      (lt_of_le_of_lt (List.length_filterMap_le _ _) hfits)

/-! ## The result -/

/-- **The probe gateway reports what it decided.**  For every capacity of at least one and every
logger, and over everything that `Serve` reads before its first error: it does not panic; it
returns that error, or `nil` if it was stopped; the decisions are those of the window's history;
the counters are the 64-bit counts of these decisions and add up to the number of datagrams; the
log has the debug records, if they are wanted, and after every thousandth datagram a summary with
the counts so far; and the text of the metrics, read back, has for every decision and path, and
for every reason of a rejection, how often it occurred. -/
theorem serve_reports_decisions (capacity : ℤ) (hpos : 1 ≤ capacity) (logger : Option Logger) :
    ∃ s, newServer capacity logger = .ok s ∧ ∀ reads : List Read,
      ∃ l : Loop, s.start.serve reads = some (l, returned reads) ∧
        l.records = specRecords capacity.toNat (handled reads) ∧
        l.server.stats = tally l.records ∧
        l.server.stats.firstCopies + l.server.stats.duplicates + l.server.stats.rejected =
          UInt64.ofNat (handled reads).length ∧
        l.log = specLog capacity.toNat (logger.getD .discard) (handled reads) ∧
        ∀ rt : Metrics.Runtime, rt.Lawful → (handled reads).length < 2 ^ 63 →
          ∃ packets rejects, l.server.metrics.render rt = packets ++ rejects ∧
            Metrics.Counts packetsTotal (l.records.map packetLabels) packets ∧
            Metrics.Counts rejectedTotal ((handled reads).filterMap rejectLabels) rejects := by
  obtain ⟨s, hnew, hfollows⟩ := Server.follows_new hpos logger
  refine ⟨s, hnew, fun reads => ?_⟩
  have hstart : s.start.Follows capacity.toNat (logger.getD .discard) [] :=
    ⟨hfollows, rfl, rfl, rfl⟩
  obtain ⟨l, hserve, hl⟩ := hstart.serve reads
  rw [List.nil_append] at hl
  refine ⟨l, hserve, hl.records_eq, ?_, ?_, hl.log_eq, ?_⟩
  · rw [hl.records_eq]
    exact hl.server.stats_eq
  · rw [hl.server.stats_eq, tally_sum, length_specRecords]
  · intro rt hrt hfits
    rw [hl.records_eq]
    exact counts_of_counted hrt hl.server.metrics hfits

/-- A probe over the given path. -/
def sampleProbe (path : PathTag) : Bytes :=
  probeMagic ++ [probeVersion, path] ++ List.replicate 16 7 ++ [0, 0, 0, 0, 0, 0, 0, 1]

/-- A probe, its copy over the other path, and a datagram that is too short. -/
theorem serve_reports_decisions_copies :
    ∃ s, newServer 2 none = .ok s ∧
      ∃ l : Loop, s.start.serve [.datagram (sampleProbe 1), .datagram (sampleProbe 2),
          .datagram [1], .failed true ⟨"closed"⟩, .datagram (sampleProbe 1)] =
            some (l, .done none) ∧
        l.records = [⟨.firstCopy, 1, 1, 1⟩, ⟨.duplicate, 2, 1, 2⟩, .rejected] ∧
        l.server.stats = ⟨1, 1, 1⟩ := by
  obtain ⟨s, hnew, hruns⟩ := serve_reports_decisions 2 (by norm_num) none
  obtain ⟨l, hserve, hrecords, hstats, -⟩ := hruns [.datagram (sampleProbe 1),
    .datagram (sampleProbe 2), .datagram [1], .failed true ⟨"closed"⟩, .datagram (sampleProbe 1)]
  have hspec : l.records = [⟨.firstCopy, 1, 1, 1⟩, ⟨.duplicate, 2, 1, 2⟩, .rejected] :=
    hrecords.trans (by decide +kernel)
  refine ⟨s, hnew, l, hserve, hspec, ?_⟩
  rw [hstats, hspec]
  decide

end ProbeGateway
end Gemina
