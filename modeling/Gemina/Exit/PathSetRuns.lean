/-
# Runs of the path set

`Record` and `Fresh` are called in any order, for any sessions and endpoints, under a clock that
does not go back.  What `Fresh` returns is a function of the recorded arrivals alone: the
endpoints whose last arrival is younger than the TTL.  When the entries are purged does not
matter.
-/
import Gemina.Lib.Mealy
import Gemina.Exit.PathSet

namespace Gemina
namespace PathSet

/-! ## Calls -/

/-- A call on the path set, with the time that it reads from the clock. -/
inductive Call where
  | record (now : ℤ) (id : SessionID) (addr : AddrPort)
  | fresh (now : ℤ) (id : SessionID)

/-- The time of a call. -/
def Call.time : Call → ℤ
  | record now _ _ => now
  | fresh now _ => now

/-- The arrival that a call records. -/
def Call.arrival? : Call → Option Arrival
  | record now id addr => some ⟨id, addr, now⟩
  | fresh _ _ => none

/-- One call.  Only `Fresh` returns something. -/
def call (ps : PathSet) : Call → List AddrPort × PathSet
  | .record now id addr => ([], ps.record now id addr)
  | .fresh now id => ps.freshInPlace now id

/-- A new path set, after a sequence of calls. -/
def after (ttl : ℤ) (calls : List Call) : PathSet := Mealy.state call (newPathSet ttl) calls

/-- The clock does not go back. -/
def Timely (calls : List Call) : Prop := (calls.map Call.time).Pairwise (· ≤ ·)

/-- The arrivals recorded by a sequence of calls, oldest first. -/
def arrivals (calls : List Call) : List Arrival := calls.filterMap Call.arrival?

/-- When the endpoint was last recorded for the session. -/
def lastRecord (calls : List Call) (id : SessionID) (addr : AddrPort) : Option ℤ :=
  (((arrivals calls).filter fun a => a.session = id ∧ a.source = addr).map Arrival.time).getLast?

variable {ttl now : ℤ} {calls : List Call} {id : SessionID}

/-! ## The last arrival -/

lemma Timely.append_singleton {c : Call} :
    Timely (calls ++ [c]) ↔ Timely calls ∧ ∀ c' ∈ calls, c'.time ≤ c.time := by
  simp [Timely, List.pairwise_append]

/-- The arrivals are in the order of their times. -/
lemma Timely.arrivals_sorted (h : Timely calls) :
    ((arrivals calls).map Arrival.time).Pairwise (· ≤ ·) := by
  rw [List.pairwise_map, arrivals, List.pairwise_filterMap]
  rw [Timely, List.pairwise_map] at h
  refine h.imp ?_
  intro c c' hle a ha a' ha'
  cases c with
  | fresh => cases ha
  | record =>
    cases c' with
    | fresh => cases ha'
    | record =>
      cases ha
      cases ha'
      exact hle

/-- The last of the times in a sorted list is late enough if any of them is. -/
lemma getLast_gt_iff {times : List ℤ} (h : times.Pairwise (· ≤ ·)) (cutoff : ℤ) :
    (∃ t, times.getLast? = some t ∧ cutoff < t) ↔ ∃ t ∈ times, cutoff < t := by
  rcases List.eq_nil_or_concat times with rfl | ⟨init, last, rfl⟩
  · simp
  · rw [List.concat_eq_append] at h ⊢
    simp only [List.getLast?_concat, Option.some.injEq, exists_eq_left', List.mem_append,
      List.mem_singleton]
    constructor
    · exact fun hlt => ⟨last, Or.inr rfl, hlt⟩
    · rintro ⟨t, ht | rfl, hlt⟩
      · exact hlt.trans_le ((List.pairwise_append.mp h).2.2 t ht last (by simp))
      · exact hlt

/-- An endpoint was recorded late enough exactly if its last record is late enough. -/
lemma Timely.lastRecord_gt_iff (h : Timely calls) (id : SessionID) (addr : AddrPort)
    (cutoff : ℤ) :
    (∃ t, lastRecord calls id addr = some t ∧ cutoff < t) ↔
      ∃ t, ⟨id, addr, t⟩ ∈ arrivals calls ∧ cutoff < t := by
  have hsorted : (((arrivals calls).filter fun a => a.session = id ∧ a.source = addr).map
      Arrival.time).Pairwise (· ≤ ·) :=
    h.arrivals_sorted.sublist (List.filter_sublist.map _)
  rw [lastRecord, getLast_gt_iff hsorted]
  simp only [List.mem_map, List.mem_filter, decide_eq_true_eq]
  constructor
  · rintro ⟨t, ⟨a, ⟨ha, rfl, rfl⟩, rfl⟩, hlt⟩
    exact ⟨a.time, ha, hlt⟩
  · rintro ⟨t, ht, hlt⟩
    exact ⟨t, ⟨_, ⟨ht, rfl, rfl⟩, rfl⟩, hlt⟩

/-! ## The entries after a run -/

/-- The TTL does not change. -/
lemma ttl_after (httl : 0 < ttl) (calls : List Call) : (after ttl calls).ttl = ttl := by
  refine Mealy.invariant (P := fun _ ps => PathSet.ttl ps = ttl) ?_ ?_ calls
  · simp [newPathSet, httl.not_ge]
  · intro _ ps c hps
    cases c with
    | record now id addr => exact hps
    | fresh now id =>
      rw [call, freshInPlace_eq, fresh_eq]
      exact hps

/-- **The entries follow the recorded arrivals.**  The induction is on the last call; between
two calls time passes. -/
lemma follows_after (ttl : ℤ) (h : Timely calls) (hnow : ∀ c ∈ calls, c.time ≤ now) :
    Follows (arrivals calls) now (after ttl calls) := by
  induction calls using List.reverseRecOn generalizing now with
  | nil => exact follows_new ttl now
  | append_singleton calls c ih =>
    obtain ⟨htimely, hbefore⟩ := Timely.append_singleton.mp h
    have hf := ih htimely hbefore
    refine Follows.later ?_ (hnow c (by simp))
    rw [arrivals, List.filterMap_append, after, Mealy.state_concat]
    cases c with
    | record now id addr => exact hf.record id addr
    | fresh now id =>
      have hfresh := (hf.fresh id).2.2
      rw [← freshInPlace_eq] at hfresh
      rw [show [Call.fresh now id].filterMap Call.arrival? = [] from rfl, List.append_nil]
      exact hfresh

/-! ## The result -/

/-- **`Fresh` over every sequence of calls.**  Asked at time `now`, it returns without
repetition the endpoints whose most recent `Record` is younger than the TTL, and none if there
are none.  It leaves the answers for other sessions alone, and the endpoints that it returns
depend on the `Record` calls of the past only, not on the `Fresh` calls between them. -/
theorem fresh_spec {ttl now : ℤ} {calls : List Call} {id : SessionID} (httl : 0 < ttl)
    (hclock : Timely (calls ++ [.fresh now id])) :
    ((after ttl calls).freshInPlace now id).1.Nodup ∧
    (∀ addr, addr ∈ ((after ttl calls).freshInPlace now id).1 ↔
      ∃ t, lastRecord calls id addr = some t ∧ now - ttl < t) ∧
    (((after ttl calls).freshInPlace now id).1 = [] ↔
      ¬ ∃ addr t, lastRecord calls id addr = some t ∧ now - ttl < t) ∧
    (∀ now' id', id' ≠ id →
      (((after ttl calls).freshInPlace now id).2.freshInPlace now' id').1 =
        ((after ttl calls).freshInPlace now' id').1) ∧
    (∀ calls', Timely (calls' ++ [.fresh now id]) → arrivals calls' = arrivals calls →
      ∀ addr, addr ∈ ((after ttl calls').freshInPlace now id).1 ↔
        addr ∈ ((after ttl calls).freshInPlace now id).1) := by
  -- the endpoints in terms of the recorded arrivals, for any history
  have hmem : ∀ calls : List Call, Timely (calls ++ [.fresh now id]) → ∀ addr,
      addr ∈ ((after ttl calls).freshInPlace now id).1 ↔
        ∃ t, ⟨id, addr, t⟩ ∈ arrivals calls ∧ now - ttl < t := by
    intro calls hclock addr
    obtain ⟨htimely, hbefore⟩ := Timely.append_singleton.mp hclock
    have hf : Follows (arrivals calls) now (after ttl calls) := follows_after ttl htimely hbefore
    rw [freshInPlace_eq, (hf.fresh id).2.1 addr, ttl_after httl]
    refine exists_congr fun t => and_congr_right fun _ => ?_
    omega
  obtain ⟨htimely, hbefore⟩ := Timely.append_singleton.mp hclock
  have hf : Follows (arrivals calls) now (after ttl calls) := follows_after ttl htimely hbefore
  have hlast : ∀ addr, addr ∈ ((after ttl calls).freshInPlace now id).1 ↔
      ∃ t, lastRecord calls id addr = some t ∧ now - ttl < t :=
    fun addr => (hmem calls hclock addr).trans (htimely.lastRecord_gt_iff id addr _).symm
  refine ⟨?_, hlast, ?_, ?_, ?_⟩
  · rw [freshInPlace_eq]
    exact (hf.fresh id).1
  · rw [List.eq_nil_iff_forall_not_mem, not_exists]
    exact forall_congr' fun addr => not_congr (hlast addr)
  · intro now' id' hid
    simp [freshInPlace_eq, fresh_eq, hid]
  · intro calls' hclock' hsame addr
    rw [hmem calls' hclock' addr, hmem calls hclock addr, hsame]

/-- Three endpoints of one session under a TTL of ten: one is too old when `Fresh` is called at
time twenty, and one was too old when it was called before but has been seen again. -/
theorem fresh_spec_three :
    ((after 10 [.record 0 ⟨List.replicate 16 1, rfl⟩ ⟨.v4 1#32, 1⟩,
        .record 5 ⟨List.replicate 16 1, rfl⟩ ⟨.v4 2#32, 1⟩,
        .fresh 12 ⟨List.replicate 16 1, rfl⟩,
        .record 14 ⟨List.replicate 16 1, rfl⟩ ⟨.v4 3#32, 1⟩,
        .record 16 ⟨List.replicate 16 1, rfl⟩ ⟨.v4 1#32, 1⟩]).freshInPlace 20
          ⟨List.replicate 16 1, rfl⟩).1.Nodup :=
  (fresh_spec (by decide) (by simp [Timely, Call.time])).1

end PathSet
end Gemina
