/-
# A window that is large enough

As long as no more different identities arrive than the window has room for, nothing is evicted,
and the decisions have a simple meaning: the first arrival of an identity is a first copy, and
every later one is a duplicate of that arrival, numbered by the arrivals before it.
-/
import Gemina.ProbeGateway.Runs

namespace Gemina

namespace Window

/-- The ids that were observed. -/
def ids (os : List Observation) : List PacketID := os.map Observation.id

/-- The first observation of an id. -/
def firstOf (id : PacketID) (os : List Observation) : Option Observation :=
  os.find? fun o => o.id = id

/-- The history of a window that has evicted nothing: the first copies are the ids that were
observed, and what is known of an id is its first observation and how often it was observed. -/
structure Unevicted (os : List Observation) (h : History) : Prop where
  nodup : (firstCopies h).Nodup
  mem : ∀ id, id ∈ firstCopies h ↔ id ∈ ids os
  since : ∀ id path since, sinceFirstCopy id h = some (path, since) →
    (firstOf id os).map Observation.path = some path ∧
      observations id since + 1 = (ids os).count id

variable {os : List Observation} {h : History} {o : Observation} {capacity : ℕ}

lemma firstOf_concat_of_mem {id : PacketID} (hmem : id ∈ ids os) (o : Observation) :
    firstOf id (os ++ [o]) = firstOf id os := by
  obtain ⟨o', ho', hid⟩ := List.mem_map.mp hmem
  have hsome : (firstOf id os).isSome = true := by
    rw [firstOf, List.find?_isSome]
    exact ⟨o', ho', by simpa using hid⟩
  obtain ⟨first, hfirst⟩ := Option.isSome_iff_exists.mp hsome
  rw [firstOf] at hfirst
  rw [firstOf, List.find?_append, hfirst, firstOf, hfirst]
  rfl

lemma firstOf_concat_of_ne {id : PacketID} (hne : o.id ≠ id) :
    firstOf id (os ++ [o]) = firstOf id os := by
  rw [firstOf, List.find?_append, ← firstOf]
  simp [hne]

/-- An id that was not observed has no first copy. -/
lemma Unevicted.sinceFirstCopy_none (hu : Unevicted os h) {id : PacketID} (hid : id ∉ ids os) :
    sinceFirstCopy id h = none := by
  rcases hs : sinceFirstCopy id h with _ | ⟨path, since⟩
  · rfl
  · exact absurd ((hu.mem id).mp (idxOf_firstCopies hs).1) hid

/-- There were at most as many first copies as ids. -/
lemma Unevicted.length_le (hu : Unevicted os h) :
    (firstCopies h).length ≤ (ids os).toFinset.card := by
  rw [← List.toFinset_card_of_nodup hu.nodup]
  refine Finset.card_le_card ?_
  intro id hid
  rw [List.mem_toFinset] at hid ⊢
  exact (hu.mem id).mp hid

/-- **The answer of a window that is large enough.** -/
lemma Unevicted.specResult (hu : Unevicted os h) (hvalid : o.valid = true)
    (hfits : (ids os).toFinset.card ≤ capacity) :
    (∃ first, firstOf o.id os = some first ∧ specResult capacity h o.id o.path =
      ⟨.duplicate, o.id, o.path, first.path, goInt ((ids os).count o.id + 1)⟩) ∨
    (o.id ∉ ids os ∧ specResult capacity h o.id o.path =
      ⟨.firstCopy, o.id, o.path, o.path, 1⟩) := by
  have hvalid' : ¬ (o.id.valid && o.path.valid) = false := by
    rw [Bool.not_eq_false]
    exact hvalid
  by_cases hid : o.id ∈ ids os
  · left
    rcases hs : sinceFirstCopy o.id h with _ | ⟨path, since⟩
    · exact absurd ((hu.mem o.id).mpr hid) (Window.sinceFirstCopy_none hs)
    obtain ⟨hpath, hcount⟩ := hu.since o.id path since hs
    obtain ⟨first, hfirst, rfl⟩ := Option.map_eq_some_iff.mp hpath
    -- the first copies since then are fewer than all of them, hence than the capacity
    have hlt : (firstCopies since).length < capacity := by
      obtain ⟨hmem, hidx⟩ := idxOf_firstCopies hs
      have := List.idxOf_lt_length_of_mem hmem
      have := hu.length_le
      omega
    refine ⟨first, hfirst, ?_⟩
    rw [Window.specResult, if_neg hvalid', hs]
    simp only [hlt, if_true]
    rw [show (1 : ℤ) + (observations o.id since + 1) = (ids os).count o.id + 1 by omega]
  · right
    refine ⟨hid, ?_⟩
    rw [Window.specResult, if_neg hvalid', hu.sinceFirstCopy_none hid]

/-- One more observation. -/
lemma Unevicted.concat (hu : Unevicted os h) (hvalid : o.valid = true)
    (hfits : (ids os).toFinset.card ≤ capacity) :
    Unevicted (os ++ [o]) ((o, Window.specResult capacity h o.id o.path) :: h) := by
  have hids : ids (os ++ [o]) = ids os ++ [o.id] := by simp [ids]
  rcases hu.specResult (o := o) hvalid hfits with ⟨first, hfirst, hres⟩ | ⟨hid, hres⟩
  · -- a duplicate leaves the first copies as they are
    have hin : o.id ∈ ids os := by
      obtain ⟨hmem, hid⟩ := And.intro (List.mem_of_find?_eq_some hfirst) (List.find?_some hfirst)
      exact List.mem_map.mpr ⟨first, hmem, by simpa using hid⟩
    have hdec : (Window.specResult capacity h o.id o.path).decision ≠ .firstCopy := by simp [hres]
    have hcopies : firstCopies ((o, Window.specResult capacity h o.id o.path) :: h) =
        firstCopies h := by rw [firstCopies_cons, if_neg hdec]
    refine ⟨hcopies ▸ hu.nodup, fun id => ?_, fun id path since hs => ?_⟩
    · rw [hcopies, hu.mem, hids, List.mem_append, List.mem_singleton]
      refine ⟨Or.inl, ?_⟩
      rintro (h | rfl)
      · exact h
      · exact hin
    · rw [sinceFirstCopy_cons_of_ne hdec] at hs
      obtain ⟨⟨path', since'⟩, hs', heq⟩ := Option.map_eq_some_iff.mp hs
      obtain ⟨rfl, rfl⟩ := Prod.mk.inj heq
      obtain ⟨hpath, hcount⟩ := hu.since id path' since' hs'
      have hmem : id ∈ ids os := (hu.mem id).mp (idxOf_firstCopies hs').1
      refine ⟨by rw [firstOf_concat_of_mem hmem, hpath], ?_⟩
      rw [hids, List.count_append, ← hcount]
      by_cases hid : o.id = id
      · simp [observations, hid, hvalid]
      · simp [observations, hid]
  · -- a first copy is the first observation of its id
    have hdec : (Window.specResult capacity h o.id o.path).decision = .firstCopy := by rw [hres]
    have hcopies : firstCopies ((o, Window.specResult capacity h o.id o.path) :: h) =
        o.id :: firstCopies h := by rw [firstCopies_cons, if_pos hdec]
    refine ⟨?_, fun id => ?_, fun id path since hs => ?_⟩
    · rw [hcopies, List.nodup_cons]
      exact ⟨fun hin => hid ((hu.mem _).mp hin), hu.nodup⟩
    · rw [hcopies, List.mem_cons, hu.mem, hids, List.mem_append, List.mem_singleton, or_comm]
    · by_cases heq : o.id = id
      · subst heq
        rw [sinceFirstCopy, if_pos ⟨hdec, rfl⟩] at hs
        obtain ⟨rfl, rfl⟩ := Prod.mk.inj (Option.some.inj hs)
        have hnone : firstOf o.id os = none := by
          rw [firstOf, List.find?_eq_none]
          intro o' ho' heq
          exact hid (List.mem_map.mpr ⟨o', ho', by simpa using heq⟩)
        rw [firstOf] at hnone
        refine ⟨?_, ?_⟩
        · rw [firstOf, List.find?_append, hnone]
          simp
        · rw [hids, List.count_append, List.count_eq_zero_of_not_mem hid]
          simp [observations]
      · rw [sinceFirstCopy, if_neg (fun hc => heq hc.2)] at hs
        obtain ⟨⟨path', since'⟩, hs', hpair⟩ := Option.map_eq_some_iff.mp hs
        obtain ⟨rfl, rfl⟩ := Prod.mk.inj hpair
        obtain ⟨hpath, hcount⟩ := hu.since id path' since' hs'
        refine ⟨by rw [firstOf_concat_of_ne heq, hpath], ?_⟩
        rw [hids, List.count_append, ← hcount]
        simp [observations, heq]

/-- **Nothing is evicted** while the ids fit into the window. -/
lemma unevicted_specHistory (hvalid : ∀ o ∈ os, o.valid = true)
    (hfits : (ids os).toFinset.card ≤ capacity) : Unevicted os (specHistory capacity os) := by
  induction os using List.reverseRecOn with
  | nil => exact ⟨List.nodup_nil, by simp [ids, specHistory, firstCopies],
      by simp [specHistory, sinceFirstCopy]⟩
  | append_singleton os o ih =>
    have hsub : (ids os).toFinset.card ≤ capacity := by
      refine (Finset.card_le_card ?_).trans hfits
      intro id hid
      rw [List.mem_toFinset] at hid ⊢
      simpa [ids] using Or.inl (by simpa [ids] using hid)
    rw [specHistory_concat]
    exact (ih (fun o' ho' => hvalid o' (List.mem_append_left _ ho')) hsub).concat
      (hvalid o (by simp)) hsub

end Window

namespace ProbeGateway

/-! ## Decisions without evictions -/

/-- The probes among some datagrams. -/
def probes (ds : List Bytes) : List ProbePacket :=
  ds.filterMap fun b => (unmarshalProbe b).toOption

/-- The identities of the probes. -/
def identities (ds : List Bytes) : List PacketID := (probes ds).map ProbePacket.id

/-- A path tag as it is reported for the first copy: only the two named ones are told apart. -/
def reportedTag (tag : PathTag) : PathTag :=
  if tag = pathWiFi ∨ tag = pathAndroidUSBTether then tag else pathUnknown

/-- The decision of a window that has room for everything. -/
def plainRecord (earlier : List Bytes) (b : Bytes) : Record :=
  match unmarshalProbe b with
  | .error _ => .rejected
  | .ok probe =>
    match (probes earlier).find? fun p => p.id = probe.id with
    | none => ⟨.firstCopy, probe.path, probe.path, 1⟩
    | some first => ⟨.duplicate, probe.path, reportedTag first.path,
        goInt ((identities earlier).count probe.id + 1)⟩

/-- The decisions about some datagrams. -/
def plainRecords (ds : List Bytes) : List Record :=
  (List.range ds.length).map fun i => plainRecord (ds.take i) (ds.getD i [])

/-- The bytes of a probe are decoded to it. -/
lemma unmarshalProbe_of_valid {p : ProbePacket} (h : p.id.valid = true) :
    unmarshalProbe (Rndis.wireBytes p) = .ok p := by
  rw [← List.append_nil (Rndis.wireBytes p)]
  exact Rndis.unmarshalProbe_wireBytes h []

lemma firstPathTag_string (tag : PathTag) : firstPathTag tag.string = reportedTag tag := by
  have hwifi : ascii "wi-fi" ≠ ascii "android-usb-tether" := by decide
  have hunknown : ascii "wi-fi" ≠ ascii "unknown" := by decide
  have hunknown' : ascii "android-usb-tether" ≠ ascii "unknown" := by decide
  have htags : pathAndroidUSBTether ≠ pathWiFi := by decide
  by_cases h₁ : tag = pathWiFi
  · simp [firstPathTag, PathTag.string, reportedTag, h₁]
  · by_cases h₂ : tag = pathAndroidUSBTether
    · simp [firstPathTag, PathTag.string, reportedTag, h₂, htags, hwifi]
    · simp [firstPathTag, PathTag.string, reportedTag, h₁, h₂, htags, hunknown, hunknown']

/-- What the window observes of a probe. -/
def probeObservation (p : ProbePacket) : Window.Observation := ⟨p.id, p.path.string⟩

lemma filterMap_observation (ds : List Bytes) :
    ds.filterMap observation = (probes ds).map probeObservation := by
  rw [probes, List.map_filterMap]
  refine List.filterMap_congr ?_
  intro b _
  rw [observation]
  rcases unmarshalProbe b with err | p <;> rfl

lemma ids_observation (ds : List Bytes) :
    Window.ids ((probes ds).map probeObservation) = identities ds := by
  simp [Window.ids, identities, probeObservation]

lemma mem_probes {ds : List Bytes} {p : ProbePacket} (h : p ∈ probes ds) : p.id.valid = true := by
  obtain ⟨b, -, hb⟩ := List.mem_filterMap.mp h
  rcases hdec : unmarshalProbe b with err | q
  · simp [hdec, Except.toOption] at hb
  · obtain rfl : q = p := by simpa [hdec, Except.toOption] using hb
    exact (Rndis.unmarshalProbe_ok hdec).1

lemma probeObservation_valid {p : ProbePacket} (h : p.id.valid = true) :
    (probeObservation p).valid = true := by
  rw [Window.Observation.valid, probeObservation, h, PathTag.string_valid, Bool.and_self]

/-- **One datagram** after others whose identities fit into the window. -/
lemma specRecord_eq_plainRecord {capacity : ℕ} {ds : List Bytes}
    (hfits : (identities ds).toFinset.card ≤ capacity) (b : Bytes) :
    specRecord capacity ds b = plainRecord ds b := by
  rcases hb : unmarshalProbe b with err | probe
  · simp only [specRecord, plainRecord, hb]
  have hvalid := probeObservation_valid (Rndis.unmarshalProbe_ok hb).1
  have hhist : Window.Unevicted ((probes ds).map probeObservation)
      (windowHistory capacity ds) := by
    rw [windowHistory, filterMap_observation]
    refine Window.unevicted_specHistory ?_ (by rwa [ids_observation])
    intro o ho
    obtain ⟨p, hp, rfl⟩ := List.mem_map.mp ho
    exact probeObservation_valid (mem_probes hp)
  have hfirst : Window.firstOf probe.id ((probes ds).map probeObservation) =
      ((probes ds).find? fun p => p.id = probe.id).map probeObservation := by
    rw [Window.firstOf, List.find?_map]
    rfl
  have hcases := @Window.Unevicted.specResult _ _ (probeObservation probe) capacity hhist hvalid
    (by rwa [ids_observation])
  simp only [probeObservation] at hcases
  simp only [specRecord, plainRecord, hb]
  rcases hcases with ⟨first, hsome, hres⟩ | ⟨hid, hres⟩
  · rw [hfirst] at hsome
    obtain ⟨p, hp, rfl⟩ := Option.map_eq_some_iff.mp hsome
    simp only [hres, hp, if_true, firstPathTag_string, probeObservation]
    rw [ids_observation]
  · have hnone : ((probes ds).find? fun p => p.id = probe.id) = none := by
      rw [List.find?_eq_none]
      intro p hp heq
      refine hid (List.mem_map.mpr ⟨probeObservation p, List.mem_map.mpr ⟨p, hp, rfl⟩, ?_⟩)
      simpa [probeObservation] using heq
    simp only [hres, hnone]
    rw [if_neg (by decide)]

lemma plainRecords_concat (ds : List Bytes) (b : Bytes) :
    plainRecords (ds ++ [b]) = plainRecords ds ++ [plainRecord ds b] := by
  rw [plainRecords, List.length_append, List.length_singleton, List.range_succ, List.map_append]
  congr 1
  · refine List.map_congr_left ?_
    intro i hi
    rw [List.mem_range] at hi
    rw [take_concat ds b hi, getD_concat ds b hi]
  · simp

lemma probes_concat (ds : List Bytes) (b : Bytes) :
    probes (ds ++ [b]) = probes ds ++ (unmarshalProbe b).toOption.toList := by
  rw [probes, List.filterMap_append]
  rcases h : (unmarshalProbe b).toOption with _ | p <;> simp [h, probes]

lemma card_identities_take_le (ds : List Bytes) (i : ℕ) :
    (identities (ds.take i)).toFinset.card ≤ (identities ds).toFinset.card := by
  refine Finset.card_le_card ?_
  intro id hid
  rw [List.mem_toFinset] at hid ⊢
  refine (List.Sublist.map _ ?_).subset hid
  exact (List.take_sublist i ds).filterMap _

/-- **The decisions of a window that is large enough.** -/
lemma specRecords_eq_plainRecords {capacity : ℕ} {ds : List Bytes}
    (hfits : (identities ds).toFinset.card ≤ capacity) :
    specRecords capacity ds = plainRecords ds := by
  rw [specRecords, plainRecords]
  refine List.map_congr_left ?_
  intro i _
  exact specRecord_eq_plainRecord ((card_identities_take_le ds i).trans hfits) _

/-- How often each decision is taken: once a first copy for every identity, and a duplicate for
every other probe. -/
lemma countP_plainRecords (ds : List Bytes) :
    ((plainRecords ds).countP fun r => r.decision = .firstCopy) = (identities ds).toFinset.card ∧
      ((plainRecords ds).countP fun r => r.decision = .duplicate) + (identities ds).toFinset.card =
        (probes ds).length ∧
      ((plainRecords ds).countP fun r => r.decision = .rejected) + (probes ds).length =
        ds.length := by
  induction ds using List.reverseRecOn with
  | nil => exact ⟨rfl, rfl, rfl⟩
  | append_singleton ds b ih =>
    obtain ⟨hfirst, hdup, hrej⟩ := ih
    simp only [plainRecords_concat, List.countP_append, List.length_append, List.length_singleton,
      identities, probes_concat, List.map_append, List.countP_singleton] at *
    rcases hb : unmarshalProbe b with err | probe
    · simp only [plainRecord, hb, Record.rejected, Except.toOption]
      simp
      omega
    · rcases hfind : (probes ds).find? fun p => p.id = probe.id with _ | q
      · have hnew : probe.id ∉ (probes ds).map ProbePacket.id := by
          intro hmem
          obtain ⟨p, hp, hid⟩ := List.mem_map.mp hmem
          exact (List.find?_eq_none.mp hfind p hp) (by simpa using hid)
        have hcard : ((probes ds).map ProbePacket.id ++ [probe.id]).toFinset.card =
            ((probes ds).map ProbePacket.id).toFinset.card + 1 := by
          rw [List.toFinset_append, Finset.union_comm, List.toFinset_cons, List.toFinset_nil,
            insert_empty_eq, ← Finset.insert_eq, Finset.card_insert_of_notMem (by simpa using hnew)]
        simp only [plainRecord, hb, hfind, Except.toOption, Option.toList, List.map_cons,
          List.map_nil, hcard, List.length_singleton]
        simp
        omega
      · have hold : ((probes ds).map ProbePacket.id ++ [probe.id]).toFinset =
            ((probes ds).map ProbePacket.id).toFinset := by
          have hmem : probe.id ∈ (probes ds).map ProbePacket.id :=
            List.mem_map.mpr ⟨q, List.mem_of_find?_eq_some hfind,
              by simpa using List.find?_some hfind⟩
          rw [List.toFinset_append, Finset.union_comm, List.toFinset_cons, List.toFinset_nil,
            insert_empty_eq, ← Finset.insert_eq, Finset.insert_eq_of_mem (by simpa using hmem)]
        simp only [plainRecord, hb, hfind, Except.toOption, Option.toList, List.map_cons,
          List.map_nil, hold, List.length_singleton]
        simp
        omega

/-- **A run of the server** over datagrams whose identities fit into its window. -/
lemma serve_plain {capacity : ℤ} (hpos : 1 ≤ capacity) (logger : Option Logger) :
    ∃ s, newServer capacity logger = .ok s ∧ ∀ reads : List Read,
      (identities (handled reads)).toFinset.card ≤ capacity.toNat →
      ∃ l : Loop, s.start.serve reads = some (l, returned reads) ∧
        l.records = plainRecords (handled reads) ∧
        l.server.stats = ⟨UInt64.ofNat (identities (handled reads)).toFinset.card,
          UInt64.ofNat ((probes (handled reads)).length -
            (identities (handled reads)).toFinset.card),
          UInt64.ofNat ((handled reads).length - (probes (handled reads)).length)⟩ := by
  obtain ⟨s, hnew, hfollows⟩ := Server.follows_new hpos logger
  refine ⟨s, hnew, fun reads hfits => ?_⟩
  have hstart : s.start.Follows capacity.toNat (logger.getD .discard) [] :=
    ⟨hfollows, rfl, rfl, rfl⟩
  obtain ⟨l, hserve, hl⟩ := hstart.serve reads
  rw [List.nil_append] at hl
  obtain ⟨hfirst, hdup, hrej⟩ := countP_plainRecords (handled reads)
  refine ⟨l, hserve, by rw [hl.records_eq, specRecords_eq_plainRecords hfits], ?_⟩
  rw [hl.server.stats_eq, specRecords_eq_plainRecords hfits, tally, hfirst,
    Nat.eq_sub_of_add_eq hdup, Nat.eq_sub_of_add_eq hrej]

end ProbeGateway
end Gemina
