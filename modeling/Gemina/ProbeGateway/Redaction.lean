/-
# What the probe gateway reveals

A probe carries a random session id and a packet number.  The gateway tells copies of a probe from
other probes by them, but they must not show in what it reports.  This file proves that they do
not: if the identities of a run are renamed, in any way that keeps different ones different, then
the decisions, the counters, the log and the metrics stay the same.  So they depend on nothing but
on which of the probes were copies of each other, on their path tags, and on the error with which a
datagram that is no probe fails to decode.
-/
import Gemina.ProbeGateway.Runs

namespace Gemina

/-- A renaming of packet identities: different ones stay different, valid ones valid. -/
structure Renaming where
  rename : PacketID → PacketID
  injective : Function.Injective rename
  valid_eq : ∀ id, (rename id).valid = id.valid

/-! ## The window commutes with renaming -/

namespace Renaming

open Window

variable (φ : Renaming)

def observation (o : Observation) : Observation := ⟨φ.rename o.id, o.path⟩

def result (r : Result) : Result := { r with id := φ.rename r.id }

def event (e : Observation × Result) : Observation × Result := (φ.observation e.1, φ.result e.2)

lemma firstCopies_map (h : History) :
    firstCopies (h.map φ.event) = (firstCopies h).map φ.rename := by
  induction h with
  | nil => rfl
  | cons e h ih =>
    rw [List.map_cons, firstCopies_cons, firstCopies_cons, ih]
    simp only [event, result, observation]
    by_cases he : e.2.decision = .firstCopy <;> simp [he]

lemma observations_map (id : PacketID) (h : History) :
    observations (φ.rename id) (h.map φ.event) = observations id h := by
  rw [observations, observations, List.countP_map]
  refine List.countP_congr ?_
  intro e _
  simp [event, observation, Observation.valid, φ.valid_eq, φ.injective.eq_iff]

lemma sinceFirstCopy_map (id : PacketID) (h : History) :
    sinceFirstCopy (φ.rename id) (h.map φ.event) =
      (sinceFirstCopy id h).map fun p => (p.1, p.2.map φ.event) := by
  induction h with
  | nil => rfl
  | cons e h ih =>
    rw [List.map_cons, sinceFirstCopy, sinceFirstCopy, ih]
    simp only [event, result, observation, φ.injective.eq_iff]
    split
    · rfl
    · rw [Option.map_map, Option.map_map]
      rfl

/-- **The answer of the window commutes with renaming.** -/
lemma specResult_map (capacity : ℕ) (h : History) (id : PacketID) (path : PathID) :
    specResult capacity (h.map φ.event) (φ.rename id) path =
      φ.result (specResult capacity h id path) := by
  rw [specResult, specResult, φ.valid_eq, sinceFirstCopy_map]
  split
  · rfl
  · rcases sinceFirstCopy id h with _ | ⟨firstPath, since⟩
    · rfl
    · simp only [Option.map_some, firstCopies_map, List.length_map, observations_map]
      split <;> rfl

lemma specHistory_map (capacity : ℕ) (os : List Observation) :
    specHistory capacity (os.map φ.observation) = (specHistory capacity os).map φ.event := by
  induction os using List.reverseRecOn with
  | nil => rfl
  | append_singleton os o ih =>
    rw [List.map_append, List.map_singleton, specHistory_concat, specHistory_concat, ih,
      List.map_cons]
    simp only [event, observation, specResult_map]

end Renaming

namespace ProbeGateway

/-! ## Renamed datagrams -/

/-- The second datagram is the first with its identity renamed.  What follows a probe may be
anything, and what stands in a datagram that is no probe may be anything that fails to decode with
the same error. -/
inductive Renamed (φ : Renaming) (b b' : Bytes) : Prop where
  | rejected {err : GoError} (h : unmarshalProbe b = .error err)
      (h' : unmarshalProbe b' = .error err)
  | probe {p : ProbePacket} (h : unmarshalProbe b = .ok p)
      (h' : unmarshalProbe b' = .ok ⟨φ.rename p.id, p.path⟩)

/-- What is read, with the identities renamed. -/
inductive Read.Renamed (φ : Renaming) : Read → Read → Prop where
  | datagram {b b' : Bytes} (h : ProbeGateway.Renamed φ b b') :
      Renamed φ (.datagram b) (.datagram b')
  | failed (stopped : Bool) (err : GoError) : Renamed φ (.failed stopped err) (.failed stopped err)

section

variable {φ : Renaming} {b b' : Bytes} {ds ds' : List Bytes}

lemma Renamed.observation (h : Renamed φ b b') :
    observation b' = (ProbeGateway.observation b).map φ.observation := by
  cases h with
  | rejected h h' => simp [ProbeGateway.observation, h, h']
  | probe h h' => simp [ProbeGateway.observation, h, h', Renaming.observation]

lemma Renamed.rejectLabels (h : Renamed φ b b') :
    rejectLabels b' = ProbeGateway.rejectLabels b := by
  cases h with
  | rejected h h' => simp [ProbeGateway.rejectLabels, h, h']
  | probe h h' => simp [ProbeGateway.rejectLabels, h, h']

lemma Renamed.debugLog (h : Renamed φ b b') (logger : Logger) (r : Record) :
    debugLog logger b' r = ProbeGateway.debugLog logger b r := by
  cases h with
  | rejected h h' => simp [ProbeGateway.debugLog, h, h']
  | probe h h' => simp [ProbeGateway.debugLog, h, h']

lemma windowHistory_renamed (h : List.Forall₂ (Renamed φ) ds ds') (capacity : ℕ) :
    windowHistory capacity ds' = (windowHistory capacity ds).map φ.event := by
  have hobs : ds'.filterMap observation = (ds.filterMap observation).map φ.observation := by
    induction h with
    | nil => rfl
    | cons hb _ ih =>
      rw [List.filterMap_cons, List.filterMap_cons, hb.observation, ih]
      rcases ProbeGateway.observation _ with _ | o <;> rfl
  rw [windowHistory, hobs, Renaming.specHistory_map, windowHistory]

/-- The decision about a renamed datagram, after renamed datagrams. -/
lemma specRecord_renamed (h : List.Forall₂ (Renamed φ) ds ds') (hb : Renamed φ b b')
    (capacity : ℕ) : specRecord capacity ds' b' = specRecord capacity ds b := by
  cases hb with
  | rejected h h' => rw [specRecord, specRecord, h, h']
  | probe hb hb' =>
    simp only [specRecord, hb, hb', windowHistory_renamed h, Renaming.specResult_map,
      Renaming.result]

/-- What stands at one place of two related lists. -/
lemma forall₂_getD {R : Bytes → Bytes → Prop} (h : List.Forall₂ R ds ds') {i : ℕ}
    (hi : i < ds.length) : R (ds.getD i []) (ds'.getD i []) := by
  have hi' : i < ds'.length := h.length_eq ▸ hi
  rw [List.getD_eq_getElem _ _ hi, List.getD_eq_getElem _ _ hi']
  exact h.get hi hi'

lemma specRecords_renamed (h : List.Forall₂ (Renamed φ) ds ds') (capacity : ℕ) :
    specRecords capacity ds' = specRecords capacity ds := by
  rw [specRecords, specRecords, ← h.length_eq]
  refine List.map_congr_left ?_
  intro i hi
  exact specRecord_renamed (List.forall₂_take i h) (forall₂_getD h (List.mem_range.mp hi)) capacity

lemma specLog_renamed (h : List.Forall₂ (Renamed φ) ds ds') (capacity : ℕ) (logger : Logger) :
    specLog capacity logger ds' = specLog capacity logger ds := by
  rw [specLog, specLog, ← h.length_eq]
  refine List.flatMap_congr ?_
  intro i hi
  have hb := forall₂_getD h (List.mem_range.mp hi)
  rw [specRecord_renamed (List.forall₂_take i h) hb, hb.debugLog,
    specRecords_renamed (List.forall₂_take (i + 1) h)]

lemma allCalls_renamed (h : List.Forall₂ (Renamed φ) ds ds') (capacity : ℕ) :
    allCalls capacity ds' = allCalls capacity ds := by
  rw [allCalls, allCalls, ← h.length_eq]
  refine List.flatMap_congr ?_
  intro i hi
  have hb := forall₂_getD h (List.mem_range.mp hi)
  rw [specRecord_renamed (List.forall₂_take i h) hb, metricCalls, metricCalls, hb.rejectLabels]

variable {reads reads' : List Read}

lemma handled_renamed (h : List.Forall₂ (Read.Renamed φ) reads reads') :
    List.Forall₂ (Renamed φ) (handled reads) (handled reads') := by
  induction h with
  | nil => exact List.Forall₂.nil
  | cons hread _ ih =>
    cases hread with
    | datagram hb => exact List.Forall₂.cons hb ih
    | failed stopped err => exact List.Forall₂.nil

lemma returned_renamed (h : List.Forall₂ (Read.Renamed φ) reads reads') :
    returned reads' = returned reads := by
  induction h with
  | nil => rfl
  | cons hread _ ih =>
    cases hread with
    | datagram hb => exact ih
    | failed stopped err => rfl

end

/-! ## The vocabulary of the log -/

/-- Every message of a log record. -/
def messages : List Bytes := [ascii "probe rejected", ascii "probe", ascii "probe summary"]

/-- Every name of an attribute of a log record. -/
def attrNames : List Bytes :=
  [ascii "decision", ascii "reason", ascii "path", ascii "first_path", ascii "copy_count",
    ascii "first_copies", ascii "duplicates", ascii "rejected"]

/-- Every text that is the value of an attribute. -/
def vocabulary : List Bytes :=
  [ascii "first-copy", ascii "duplicate", ascii "rejected", ascii "wi-fi",
    ascii "android-usb-tether", ascii "unknown", ascii "interval", ascii errShortProbe.text,
    ascii errProbeMagic.text, ascii errUnsupportedVersion.text, ascii errInvalidProbe.text]

/-- All that is text in a log record is fixed: its message, the names of its attributes and those of
their values that are no numbers. -/
structure LogRecord.Redacted (r : LogRecord) : Prop where
  msg : r.msg ∈ messages
  name : ∀ attr ∈ r.attrs, attr.1 ∈ attrNames
  text : ∀ name text, (name, Value.string text) ∈ r.attrs → text ∈ vocabulary

/-- The errors of the decoder. -/
lemma unmarshalProbe_error {b : Bytes} {err : GoError} (h : unmarshalProbe b = .error err) :
    err ∈ [errShortProbe, errProbeMagic, errUnsupportedVersion, errInvalidProbe] := by
  simp only [unmarshalProbe] at h
  split_ifs at h <;> cases h <;> simp

lemma Decision.string_mem (d : Decision) : d.string ∈ vocabulary := by
  cases d <;> simp [Decision.string, vocabulary]

lemma PathTag.string_mem (tag : PathTag) : tag.string ∈ vocabulary := by
  rw [PathTag.string]
  split_ifs <;> simp [vocabulary]

lemma Logger.probeRejected_redacted (logger : Logger) {err : GoError}
    (herr : ascii err.text ∈ vocabulary) :
    ∀ entry ∈ logger.probeRejected err, entry.Redacted := by
  intro entry hentry
  rw [Logger.probeRejected] at hentry
  split at hentry
  · rw [List.mem_singleton] at hentry
    subst hentry
    refine ⟨by simp [messages], by simp [attrNames], ?_⟩
    intro name text htext
    simp only [List.mem_cons, Prod.mk.injEq, Value.string.injEq, List.not_mem_nil,
      or_false] at htext
    rcases htext with ⟨-, rfl⟩ | ⟨-, rfl⟩
    · exact Decision.string_mem _
    · exact herr
  · cases hentry

lemma Logger.probe_redacted (logger : Logger) (r : Record) :
    ∀ entry ∈ logger.probe r, entry.Redacted := by
  intro entry hentry
  rw [Logger.probe] at hentry
  split at hentry
  · rw [List.mem_singleton] at hentry
    subst hentry
    refine ⟨by simp [messages], by simp [attrNames], ?_⟩
    intro name text htext
    simp only [List.mem_cons, Prod.mk.injEq, Value.string.injEq, List.not_mem_nil,
      or_false, reduceCtorEq, and_false] at htext
    rcases htext with ⟨-, rfl⟩ | ⟨-, rfl⟩ | ⟨-, rfl⟩
    · exact Decision.string_mem _
    · exact PathTag.string_mem _
    · exact PathTag.string_mem _
  · cases hentry

lemma debugLog_redacted (logger : Logger) (b : Bytes) (r : Record) :
    ∀ entry ∈ debugLog logger b r, entry.Redacted := by
  rcases hb : unmarshalProbe b with err | probe
  · have herr : ascii err.text ∈ vocabulary := by
      have := unmarshalProbe_error hb
      simp only [List.mem_cons, List.not_mem_nil, or_false] at this
      rcases this with rfl | rfl | rfl | rfl <;> simp [vocabulary]
    simp only [debugLog, hb]
    exact logger.probeRejected_redacted herr
  · simp only [debugLog, hb]
    exact logger.probe_redacted r

lemma logSummary_redacted (st : Stats) : (logSummary (ascii "interval") st).Redacted := by
  refine ⟨by simp [logSummary, messages], by simp [logSummary, attrNames], ?_⟩
  intro name text htext
  simp only [logSummary, List.mem_cons, Prod.mk.injEq, Value.string.injEq, List.not_mem_nil,
    or_false, reduceCtorEq, and_false] at htext
  rw [htext.2]
  simp [vocabulary]

lemma specLog_redacted (capacity : ℕ) (logger : Logger) (ds : List Bytes) :
    ∀ entry ∈ specLog capacity logger ds, entry.Redacted := by
  intro entry hentry
  obtain ⟨i, -, hi⟩ := List.mem_flatMap.mp hentry
  rcases List.mem_append.mp hi with hi | hi
  · exact debugLog_redacted _ _ _ entry hi
  · split at hi
    · rw [List.mem_singleton.mp hi]
      exact logSummary_redacted _
    · cases hi

/-! ## The result -/

/-- **The probe gateway does not reveal identities.**  Take any two runs that read the same but for
a renaming of the packet identities, for what follows a probe, and for the contents of datagrams
that are no probes, which fail to decode with the same error in both runs.  They return the same,
decide the same about every datagram, have the same counters and the same text of metrics, and pass
the same records to the logger.  Besides, all that is text in these records is fixed: three
messages, eight names of attributes and eleven values. -/
theorem serve_reveals_no_identity (capacity : ℤ) (hpos : 1 ≤ capacity) (logger : Option Logger)
    (φ : Renaming) :
    ∃ s, newServer capacity logger = .ok s ∧ ∀ reads reads' : List Read,
      List.Forall₂ (Read.Renamed φ) reads reads' →
      ∃ (l l' : Loop) (ret : Returned), s.start.serve reads = some (l, ret) ∧
        s.start.serve reads' = some (l', ret) ∧
        l'.records = l.records ∧ l'.server.stats = l.server.stats ∧ l'.log = l.log ∧
        (∀ entry ∈ l.log, entry.Redacted) ∧
        ∀ rt : Metrics.Runtime, rt.Lawful →
          l'.server.metrics.render rt = l.server.metrics.render rt := by
  obtain ⟨s, hnew, hfollows⟩ := Server.follows_new hpos logger
  refine ⟨s, hnew, fun reads reads' hreads => ?_⟩
  have hstart : s.start.Follows capacity.toNat (logger.getD .discard) [] :=
    ⟨hfollows, rfl, rfl, rfl⟩
  obtain ⟨l, hserve, hl⟩ := hstart.serve reads
  obtain ⟨l', hserve', hl'⟩ := hstart.serve reads'
  rw [List.nil_append] at hl hl'
  have hds := handled_renamed hreads
  refine ⟨l, l', returned reads, hserve, ?_, ?_, ?_, ?_, ?_, ?_⟩
  · rw [hserve', returned_renamed hreads]
  · rw [hl'.records_eq, hl.records_eq, specRecords_renamed hds]
  · rw [hl'.server.stats_eq, hl.server.stats_eq, specRecords_renamed hds]
  · rw [hl'.log_eq, hl.log_eq, specLog_renamed hds]
  · rw [hl.log_eq]
    exact specLog_redacted _ _ _
  · intro rt hrt
    have hcalls := hl'.server.metrics
    rw [allCalls_renamed hds] at hcalls
    exact Metrics.render_reordered hrt hrt hl.server.metrics hcalls ⟨List.Perm.refl _, rfl⟩

/-- The identity of a sample probe. -/
def sampleID (number : UInt64) : PacketID :=
  ⟨ByteArrayN.copy sessionIDSize (List.replicate 16 7), number⟩

lemma sampleID_valid : (sampleID 1).valid = true ∧ (sampleID 2).valid = true := by decide

/-- The renaming that swaps two identities. -/
def swapIDs : Renaming where
  rename := Equiv.swap (sampleID 1) (sampleID 2)
  injective := (Equiv.swap (sampleID 1) (sampleID 2)).injective
  valid_eq := by
    intro id
    rw [Equiv.swap_apply_def]
    split_ifs with h₁ h₂
    · rw [h₁, sampleID_valid.1, sampleID_valid.2]
    · rw [h₂, sampleID_valid.1, sampleID_valid.2]
    · rfl

/-- Two probes, a datagram that is no probe, and a copy of the first probe over the other path. -/
def sampleReads (first second : PacketID) (trailing noise : Bytes) : List Read :=
  [.datagram (Rndis.wireBytes ⟨first, pathWiFi⟩ ++ trailing),
    .datagram (Rndis.wireBytes ⟨second, pathAndroidUSBTether⟩ ++ trailing), .datagram noise,
    .datagram (Rndis.wireBytes ⟨first, pathAndroidUSBTether⟩ ++ trailing)]

lemma sampleReads_renamed : List.Forall₂ (Read.Renamed swapIDs)
    (sampleReads (sampleID 1) (sampleID 2) [1, 2] [9])
    (sampleReads (sampleID 2) (sampleID 1) [3] (List.replicate 7 8)) := by
  have hprobe : ∀ {id : PacketID} (id' : PacketID) (path : PathTag), id.valid = true →
      swapIDs.rename id = id' →
      Read.Renamed swapIDs (.datagram (Rndis.wireBytes ⟨id, path⟩ ++ [1, 2]))
        (.datagram (Rndis.wireBytes ⟨id', path⟩ ++ [3])) := by
    rintro id _ path hid rfl
    exact .datagram (.probe (Rndis.unmarshalProbe_wireBytes hid _)
      (Rndis.unmarshalProbe_wireBytes (by rw [swapIDs.valid_eq, hid]) _))
  have hfirst := fun path =>
    hprobe (sampleID 2) path sampleID_valid.1 (Equiv.swap_apply_left _ _)
  have hsecond := hprobe (sampleID 1) pathAndroidUSBTether sampleID_valid.2
    (Equiv.swap_apply_right _ _)
  have hnoise : Read.Renamed swapIDs (.datagram [9]) (.datagram (List.replicate 7 8)) :=
    .datagram (@Renamed.rejected _ _ _ errShortProbe rfl rfl)
  exact .cons (hfirst _) (.cons hsecond (.cons hnoise (.cons (hfirst _) .nil)))

/-- The debug logger is passed the same four records for both runs, of which one reports a copy. -/
theorem serve_reveals_no_identity_swapped :
    ∃ s, newServer 2 (some ⟨true⟩) = .ok s ∧ ∃ (l l' : Loop) (ret : Returned),
      s.start.serve (sampleReads (sampleID 1) (sampleID 2) [1, 2] [9]) = some (l, ret) ∧
      s.start.serve (sampleReads (sampleID 2) (sampleID 1) [3] (List.replicate 7 8))
        = some (l', ret) ∧
      l'.records = l.records ∧ l'.server.stats = l.server.stats ∧ l'.log = l.log ∧
      l.records.map Record.decision = [.firstCopy, .firstCopy, .rejected, .duplicate] ∧
      l.log.map LogRecord.msg
        = [ascii "probe", ascii "probe", ascii "probe rejected", ascii "probe"] := by
  obtain ⟨s, hnew, hruns⟩ := serve_reveals_no_identity 2 (by norm_num) (some ⟨true⟩) swapIDs
  obtain ⟨l, l', ret, hserve, hserve', hrecords, hstats, hlog, -⟩ := hruns _ _ sampleReads_renamed
  have hrun : (newServer 2 (some ⟨true⟩)).map (fun s =>
      (s.start.serve (sampleReads (sampleID 1) (sampleID 2) [1, 2] [9])).map fun run =>
        (run.1.records.map Record.decision, run.1.log.map LogRecord.msg))
      = .ok (some ([.firstCopy, .firstCopy, .rejected, .duplicate],
          [ascii "probe", ascii "probe", ascii "probe rejected", ascii "probe"])) := by
    decide +kernel
  rw [hnew, Except.map, hserve, Option.map_some] at hrun
  obtain ⟨hdecisions, hmsgs⟩ := Prod.mk.inj (Option.some.inj (Except.ok.inj hrun))
  exact ⟨s, hnew, l, l', ret, hserve, hserve', hrecords, hstats, hlog, hdecisions, hmsgs⟩

end ProbeGateway
end Gemina
