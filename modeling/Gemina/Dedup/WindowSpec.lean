/-
# The dedup window refines its history

What the window should answer is a function of the observations before and of the answers given
to them.  The window keeps a bounded ring and a map of that history.  This file proves that
this is enough, over every sequence of observations, evictions and returns of evicted ids.

* `specResult`: the answer read off the history;
* `Tracks`: the relation between the history and the window, kept by every observation;
* `observe_eq_specResult`: the window of any capacity refines the history.
-/
import Gemina.Lib.Mealy
import Gemina.Dedup.Window
import Gemina.Lib.Slice

namespace Gemina
namespace Window

/-! ## The specification -/

/-- The arguments of one call of `Observe`. -/
structure Observation where
  id : PacketID
  path : PathID
deriving DecidableEq

/-- The id and the path are valid. -/
def Observation.valid (o : Observation) : Bool := o.id.valid && o.path.valid

/-- The observations so far with their results, newest first. -/
abbrev History : Type := List (Observation × Result)

/-- The ids that were answered as a first copy, newest first. -/
def firstCopies (h : History) : List PacketID :=
  (h.filter fun e => e.2.decision = .firstCopy).map fun e => e.1.id

/-- The most recent first copy of `id`: its path, and what was observed since. -/
def sinceFirstCopy (id : PacketID) : History → Option (PathID × History)
  | [] => none
  | e :: h =>
    if e.2.decision = .firstCopy ∧ e.1.id = id then some (e.1.path, [])
    else (sinceFirstCopy id h).map fun r => (r.1, e :: r.2)

/-- The number of valid observations of `id`. -/
def observations (id : PacketID) (h : History) : ℕ :=
  h.countP fun e => e.1.id = id ∧ e.1.valid = true

/-- The answer to an observation after the history `h`, for a window of the given capacity. -/
def specResult (capacity : ℕ) (h : History) (id : PacketID) (path : PathID) : Result :=
  if (id.valid && path.valid) = false then ⟨.invalid, id, path, [], 0⟩
  else
    match sinceFirstCopy id h with
    | none => ⟨.firstCopy, id, path, path, 1⟩
    | some (firstPath, since) =>
      if (firstCopies since).length < capacity then
        ⟨.duplicate, id, path, firstPath, goInt (1 + (observations id since + 1))⟩
      else ⟨.firstCopy, id, path, path, 1⟩

variable {w : Window} {h : History} {o : Observation} {r : Result} {id : PacketID} {path : PathID}

lemma firstCopies_cons (e : Observation × Result) (h : History) :
    firstCopies (e :: h) =
      if e.2.decision = .firstCopy then e.1.id :: firstCopies h else firstCopies h := by
  by_cases he : e.2.decision = .firstCopy <;> simp [firstCopies, he]

lemma firstCopies_append (h h' : History) :
    firstCopies (h ++ h') = firstCopies h ++ firstCopies h' := by
  simp [firstCopies]

/-- `sinceFirstCopy` cuts the history at the most recent first copy. -/
lemma sinceFirstCopy_some {since : History} (hs : sinceFirstCopy id h = some (path, since)) :
    ∃ e before, h = since ++ e :: before ∧ e.2.decision = .firstCopy ∧ e.1.id = id ∧
      e.1.path = path ∧ id ∉ firstCopies since := by
  induction h generalizing since with
  | nil => simp [sinceFirstCopy] at hs
  | cons e h ih =>
    rw [sinceFirstCopy] at hs
    split at hs
    · rename_i he
      simp only [Option.some.injEq, Prod.mk.injEq] at hs
      obtain ⟨rfl, rfl⟩ := hs
      exact ⟨e, h, rfl, he.1, he.2, rfl, by simp [firstCopies]⟩
    · rename_i he
      simp only [Option.map_eq_some_iff, Prod.mk.injEq, Prod.exists] at hs
      obtain ⟨_, since', hs, rfl, rfl⟩ := hs
      obtain ⟨e', before, rfl, hdec, hid, hpath, hnot⟩ := ih hs
      refine ⟨e', before, rfl, hdec, hid, hpath, ?_⟩
      rw [firstCopies_cons]
      split
      · rename_i hfirst
        simp only [List.mem_cons, not_or]
        exact ⟨fun heq => he ⟨hfirst, heq.symm⟩, hnot⟩
      · exact hnot

/-- An id without a first copy in the history is not among the first copies. -/
lemma sinceFirstCopy_none (hs : sinceFirstCopy id h = none) : id ∉ firstCopies h := by
  induction h with
  | nil => simp [firstCopies]
  | cons e h ih =>
    rw [sinceFirstCopy] at hs
    split at hs
    · cases hs
    · rename_i he
      rw [Option.map_eq_none_iff] at hs
      rw [firstCopies_cons]
      split
      · rename_i hfirst
        simp only [List.mem_cons, not_or]
        exact ⟨fun heq => he ⟨hfirst, heq.symm⟩, ih hs⟩
      · exact ih hs

/-- How many first copies came after the one of `id` is the position of `id` among them. -/
lemma idxOf_firstCopies {since : History} (hs : sinceFirstCopy id h = some (path, since)) :
    id ∈ firstCopies h ∧ (firstCopies h).idxOf id = (firstCopies since).length := by
  obtain ⟨e, before, rfl, hdec, hid, -, hnot⟩ := sinceFirstCopy_some hs
  rw [firstCopies_append, firstCopies_cons, if_pos hdec, hid]
  exact ⟨by simp, by rw [List.idxOf_append_of_notMem hnot, List.idxOf_cons_self, Nat.add_zero]⟩

/-! ## The window follows the history -/

/-- What the map should hold for an id: an entry as long as fewer than `capacity` first copies
came after its own. -/
def specRecord (capacity : ℕ) (h : History) (id : PacketID) : Option Record :=
  match sinceFirstCopy id h with
  | none => none
  | some (firstPath, since) =>
    if (firstCopies since).length < capacity then
      some ⟨firstPath, goInt (1 + observations id since)⟩
    else none

/-- Counting on from a count that was reduced. -/
lemma goInt_goInt_add_one (x : ℤ) : goInt (goInt x + 1) = goInt (x + 1) := by
  simp only [goInt]
  omega

/-- The answer to a valid observation depends on what the map should hold. -/
lemma specResult_eq (hvalid : (id.valid && path.valid) = true) (capacity : ℕ) (h : History) :
    specResult capacity h id path =
      match specRecord capacity h id with
      | none => ⟨.firstCopy, id, path, path, 1⟩
      | some rec => ⟨.duplicate, id, path, rec.firstPath, goInt (rec.copyCount + 1)⟩ := by
  rw [specResult, if_neg (by simp [hvalid]), specRecord]
  rcases sinceFirstCopy id h with _ | ⟨firstPath, since⟩
  · rfl
  · by_cases hlt : (firstCopies since).length < capacity
    · simp only [hlt, if_true, goInt_goInt_add_one, add_assoc]
    · simp only [hlt, if_false]

/-- The window follows the history: the ring holds the newest first copies, none of them twice,
and the map what the history says. -/
structure Tracks (h : History) (w : Window) : Prop where
  ring : w.RingOK
  contents_eq : w.contents = ((firstCopies h).take w.capacity).reverse
  nodup : w.contents.Nodup
  seen_eq : ∀ id, w.seen id = specRecord w.capacity h id

/-- The ids in the map are those in the ring. -/
lemma Tracks.mem_contents (ht : Tracks h w) (id : PacketID) :
    id ∈ w.contents ↔ w.seen id ≠ none := by
  rw [ht.contents_eq, List.mem_reverse, ht.seen_eq, specRecord]
  rcases hs : sinceFirstCopy id h with _ | ⟨path, since⟩
  · simpa using fun hmem => sinceFirstCopy_none hs (List.mem_of_mem_take hmem)
  · obtain ⟨hmem, hidx⟩ := idxOf_firstCopies hs
    rw [List.mem_take_iff_idxOf_lt hmem, hidx]
    by_cases hlt : (firstCopies since).length < w.capacity <;> simp [hlt]

/-- The ring holds as many ids as there are first copies, up to its capacity. -/
lemma Tracks.count_eq (ht : Tracks h w) :
    w.count = min w.capacity (firstCopies h).length := by
  rw [← w.length_contents, ht.contents_eq]
  simp

/-- An observation that is not a first copy leaves the position of every first copy. -/
lemma sinceFirstCopy_cons_of_ne (hdec : r.decision ≠ .firstCopy) (h : History)
    (id : PacketID) : sinceFirstCopy id ((o, r) :: h) =
      (sinceFirstCopy id h).map fun p => (p.1, (o, r) :: p.2) := by
  rw [sinceFirstCopy, if_neg (fun hc => hdec hc.1)]

/-- **An invalid observation** is followed by the unchanged window. -/
lemma Tracks.invalid (ht : Tracks h w) (hvalid : o.valid = false)
    (hdec : r.decision ≠ .firstCopy) : Tracks ((o, r) :: h) w := by
  have hcopies : ∀ h' : History, firstCopies ((o, r) :: h') = firstCopies h' :=
    fun h' => by rw [firstCopies_cons, if_neg hdec]
  refine ⟨ht.ring, by rw [hcopies, ht.contents_eq], ht.nodup, fun id => ?_⟩
  rw [ht.seen_eq, specRecord, specRecord, sinceFirstCopy_cons_of_ne hdec]
  rcases sinceFirstCopy id h with _ | ⟨path, since⟩
  · rfl
  · simp [hcopies, observations, hvalid]

/-- **A duplicate** is counted in the entry of its id. -/
lemma Tracks.duplicate (ht : Tracks h w) (hvalid : o.valid = true) {rec : Record}
    (hseen : w.seen o.id = some rec) (hdec : r.decision ≠ .firstCopy) :
    Tracks ((o, r) :: h) { w with
      seen := Function.update w.seen o.id
        (some ⟨rec.firstPath, goInt (rec.copyCount + 1)⟩) } := by
  have hcopies : ∀ h' : History, firstCopies ((o, r) :: h') = firstCopies h' :=
    fun h' => by rw [firstCopies_cons, if_neg hdec]
  refine ⟨⟨ht.ring.length_ring, ht.ring.head_lt, ht.ring.count_le⟩, ?_, ht.nodup, fun id => ?_⟩
  · rw [hcopies]
    exact ht.contents_eq
  · rw [specRecord, sinceFirstCopy_cons_of_ne hdec]
    by_cases hid : id = o.id
    · subst hid
      rw [ht.seen_eq, specRecord] at hseen
      rcases hs : sinceFirstCopy o.id h with _ | ⟨path, since⟩
      · simp [hs] at hseen
      · simp only [hs] at hseen
        split at hseen
        · rename_i hlt
          cases hseen
          have hobs : observations o.id ((o, r) :: since) = observations o.id since + 1 := by
            simp [observations, hvalid]
          simp [hcopies, hlt, hobs, goInt_goInt_add_one, add_assoc]
        · cases hseen
    · simp only [Function.update_of_ne hid, ht.seen_eq, specRecord]
      rcases sinceFirstCopy id h with _ | ⟨path, since⟩
      · rfl
      · simp [hcopies, observations, Ne.symm hid]

/-- The oldest id of a full window is the only one that the next first copy makes too old. -/
lemma Tracks.oldest (ht : Tracks h w) {oldest : PacketID} {rest : List PacketID}
    (hfull : w.count = w.capacity) (hcontents : w.contents = oldest :: rest) {since : History}
    (hs : sinceFirstCopy id h = some (path, since)) :
    ((firstCopies since).length + 1 < w.capacity ↔
      (firstCopies since).length < w.capacity ∧ id ≠ oldest) := by
  obtain ⟨hmem, hidx⟩ := idxOf_firstCopies hs
  have hcap : 0 < w.capacity := lt_of_le_of_lt (Nat.zero_le _) ht.ring.head_lt
  have hlen : w.capacity ≤ (firstCopies h).length := by
    have := ht.count_eq
    omega
  -- the oldest id stands last among the newest `capacity` first copies
  have htake : ((firstCopies h).take w.capacity).reverse = oldest :: rest :=
    ht.contents_eq.symm.trans hcontents
  have htake' : (firstCopies h).take w.capacity = rest.reverse ++ [oldest] := by
    rw [← List.reverse_inj, htake]
    simp
  have hrest : rest.length = w.capacity - 1 := by
    have := congrArg List.length htake'
    simp only [List.length_take, List.length_append, List.length_reverse,
      List.length_singleton] at this
    omega
  have hnodup : oldest ∉ rest.reverse := by
    have hn := ht.nodup
    rw [hcontents, List.nodup_cons] at hn
    simpa using hn.1
  have hsplit : firstCopies h = rest.reverse ++ oldest :: (firstCopies h).drop w.capacity := by
    conv_lhs => rw [← List.take_append_drop w.capacity (firstCopies h), htake']
    simp
  constructor
  · intro hlt
    refine ⟨by omega, ?_⟩
    rintro rfl
    rw [← hidx, hsplit, List.idxOf_append_of_notMem hnodup, List.idxOf_cons_self,
      List.length_reverse, hrest] at hlt
    omega
  · rintro ⟨hlt, hne⟩
    rw [← hidx] at hlt ⊢
    have hin : id ∈ (firstCopies h).take w.capacity := (List.mem_take_iff_idxOf_lt hmem).mpr hlt
    rw [htake', List.mem_append, List.mem_singleton, or_iff_left hne] at hin
    rw [hsplit, List.idxOf_append_of_mem hin]
    have := List.idxOf_lt_length_of_mem hin
    rw [List.length_reverse, hrest] at this
    omega

/-- After a first copy of another id, an entry stays unless it was the oldest of a full
window. -/
lemma Tracks.evictIfFull_seen (ht : Tracks h w) (hdec : r.decision = .firstCopy)
    (hid : id ≠ o.id) :
    w.evictIfFull.seen id = specRecord w.capacity ((o, r) :: h) id := by
  have hsince : sinceFirstCopy id ((o, r) :: h) =
      (sinceFirstCopy id h).map fun p => (p.1, (o, r) :: p.2) := by
    rw [sinceFirstCopy, if_neg (fun hc => hid hc.2.symm)]
  have hobs : ∀ since : History, observations id ((o, r) :: since) = observations id since := by
    intro since
    simp [observations, Ne.symm hid]
  have hcopies : ∀ h' : History, (firstCopies ((o, r) :: h')).length
      = (firstCopies h').length + 1 := fun h' => by simp [firstCopies_cons, hdec]
  rw [specRecord, hsince]
  obtain ⟨-, -, ⟨hroom, heq⟩ | ⟨oldest, hfull, hcontents, hseen⟩⟩ := ht.ring.evictIfFull
  · -- there was room, so no entry can have become too old
    rw [heq, ht.seen_eq, specRecord]
    rcases hs : sinceFirstCopy id h with _ | ⟨path, since⟩
    · rfl
    · obtain ⟨hmem, hidx⟩ := idxOf_firstCopies hs
      have hlt := List.idxOf_lt_length_of_mem hmem
      have hcount := ht.count_eq
      have h₁ : (firstCopies since).length < w.capacity := by omega
      have h₂ : (firstCopies since).length + 1 < w.capacity := by omega
      simp [hobs, hcopies, h₁, h₂]
  · rw [hseen]
    rcases hs : sinceFirstCopy id h with _ | ⟨path, since⟩
    · have hnone : w.seen id = none := by rw [ht.seen_eq, specRecord, hs]
      by_cases hold : id = oldest
      · simp [hold]
      · simp [hold, hnone]
    · have holdest := ht.oldest hfull hcontents hs
      simp only [Option.map_some, hobs, hcopies, holdest]
      by_cases hold : id = oldest
      · simp [hold]
      · rw [Function.update_of_ne hold, ht.seen_eq, specRecord, hs]
        simp [hold]

/-- **One observation.**  The window answers as its history does, and follows it on. -/
lemma Tracks.observe (ht : Tracks h w) (o : Observation) :
    (w.observe o.id o.path).1 = specResult w.capacity h o.id o.path ∧
      (w.observe o.id o.path).2.capacity = w.capacity ∧
      Tracks ((o, (w.observe o.id o.path).1) :: h) (w.observe o.id o.path).2 := by
  rcases ht.ring.observe_cases o.id o.path with
    ⟨hvalid, heq⟩ | ⟨hvalid, rec, hseen, heq⟩ | ⟨hvalid, hseen, hres, hring, hcap, hcont, hmap⟩
  · rw [heq, specResult, if_pos hvalid]
    exact ⟨rfl, rfl, ht.invalid hvalid (by simp)⟩
  · rw [heq]
    refine ⟨?_, rfl, ht.duplicate hvalid hseen (by simp)⟩
    rw [specResult_eq hvalid, ← ht.seen_eq, hseen]
  · have hspec : specResult w.capacity h o.id o.path = ⟨.firstCopy, o.id, o.path, o.path, 1⟩ := by
      rw [specResult_eq hvalid, ← ht.seen_eq, hseen]
    have hnotin : o.id ∉ w.contents := by
      rw [ht.mem_contents, hseen]
      simp
    have hdec : (w.observe o.id o.path).1.decision = .firstCopy := by rw [hres]
    have hcappos : 0 < w.capacity := lt_of_le_of_lt (Nat.zero_le _) ht.ring.head_lt
    have hcopies : firstCopies ((o, (w.observe o.id o.path).1) :: h) = o.id :: firstCopies h := by
      rw [firstCopies_cons, if_pos hdec]
    have hcontents : (w.observe o.id o.path).2.contents =
        ((o.id :: firstCopies h).take w.capacity).reverse := by
      obtain ⟨n, hn⟩ : ∃ n, w.capacity = n + 1 := ⟨w.capacity - 1, by omega⟩
      rw [hcont, hn, List.take_succ_cons, List.reverse_cons]
      congr 1
      have hcount := ht.count_eq
      obtain ⟨-, -, ⟨hroom, hsame⟩ | ⟨oldest, hfull, hpop, -⟩⟩ := ht.ring.evictIfFull
      · rw [hsame, ht.contents_eq, List.take_of_length_le (by omega),
          List.take_of_length_le (by omega)]
      · rw [ht.contents_eq, hn, List.take_succ_eq_append_getElem (by omega),
          List.reverse_append] at hpop
        simp only [List.reverse_singleton, List.singleton_append, List.cons.injEq] at hpop
        exact hpop.2.symm
    refine ⟨hres.trans hspec.symm, hcap, hring, ?_, ?_, ?_⟩
    · rw [hcap, hcopies, hcontents]
    · have hsub : ∀ id ∈ w.evictIfFull.contents, id ∈ w.contents := by
        obtain ⟨-, -, ⟨-, hsame⟩ | ⟨oldest, -, hpop, -⟩⟩ := ht.ring.evictIfFull
        · exact fun id hin => by rwa [hsame] at hin
        · exact fun id hin => by simp [hpop, hin]
      have hnd : w.evictIfFull.contents.Nodup := by
        obtain ⟨-, -, ⟨-, hsame⟩ | ⟨oldest, -, hpop, -⟩⟩ := ht.ring.evictIfFull
        · rw [hsame]
          exact ht.nodup
        · have hn := ht.nodup
          rw [hpop, List.nodup_cons] at hn
          exact hn.2
      rw [hcont]
      exact List.nodup_append_singleton.mpr ⟨fun hin => hnotin (hsub _ hin), hnd⟩
    · intro id
      rw [hmap, hcap]
      by_cases hid : id = o.id
      · subst hid
        rw [Function.update_self, specRecord, sinceFirstCopy, if_pos ⟨hdec, rfl⟩]
        simp [firstCopies, observations, hcappos, goInt]
      · rw [Function.update_of_ne hid]
        exact ht.evictIfFull_seen hdec hid

/-! ## Runs -/

/-- One call of `Observe`, as a step. -/
def step (w : Window) (o : Observation) : Result × Window := w.observe o.id o.path

/-- The window after a sequence of observations. -/
def after (w : Window) (os : List Observation) : Window := Mealy.state step w os

/-- The observations with their results, newest first. -/
def history (w : Window) (os : List Observation) : History := (Mealy.trace step w os).reverse

/-- A new window has room for at least one id and holds none. -/
lemma newWindow_ok {capacity : ℤ} (hpos : 1 ≤ capacity) :
    ∃ w, newWindow capacity = .ok w ∧ w.capacity = capacity.toNat ∧ Tracks [] w := by
  refine ⟨_, by rw [newWindow, if_neg (by omega)], rfl, ⟨by simp, ?_, Nat.zero_le _⟩, ?_, ?_, ?_⟩
  · simp only
    omega
  · simp [contents, firstCopies]
  · simp [contents]
  · simp [specRecord, sinceFirstCopy]

/-- The window follows the history of every run. -/
lemma Tracks.after (ht : Tracks [] w) (os : List Observation) :
    Tracks (w.history os) (w.after os) ∧ (w.after os).capacity = w.capacity := by
  refine Mealy.invariant (P := fun t w' => Tracks t.reverse w' ∧ w'.capacity = w.capacity)
    ⟨ht, rfl⟩ ?_ os
  rintro t w' o ⟨ht', hcap⟩
  rw [List.reverse_append, List.reverse_singleton, List.singleton_append]
  exact ⟨(ht'.observe o).2.2, (ht'.observe o).2.1.trans hcap⟩

/-- **The window refines its history.**  For every capacity of at least one and after every
sequence of observations, an invalid observation is answered as such and changes nothing; and a
valid one is answered as the history says.  It is a duplicate exactly if the id had a first copy
with fewer than `capacity` first copies since, and is then reported with the path of that first
copy and with the number of copies of it, a 64-bit `int`.  The count is the size of the map and
at most the capacity, and the ring lists the ids of the map from the head on, in the order of
their first copies and without repetition. -/
theorem observe_eq_specResult (capacity : ℤ) (hpos : 1 ≤ capacity) :
    ∃ w, newWindow capacity = .ok w ∧ ∀ os : List Observation,
      (∀ id path, ((w.after os).observe id path).1 =
        specResult capacity.toNat (w.history os) id path) ∧
      (∀ id path, (id.valid && path.valid) = false →
        ((w.after os).observe id path).1.decision = .invalid ∧
        ((w.after os).observe id path).2 = w.after os) ∧
      (w.after os).count = {id | (w.after os).seen id ≠ none}.ncard ∧
      (w.after os).count ≤ capacity.toNat ∧
      (w.after os).contents = ((firstCopies (w.history os)).take capacity.toNat).reverse ∧
      (∀ id, id ∈ (w.after os).contents ↔ (w.after os).seen id ≠ none) ∧
      (w.after os).contents.Nodup := by
  obtain ⟨w, hnew, hcapacity, hfresh⟩ := newWindow_ok hpos
  refine ⟨w, hnew, fun os => ?_⟩
  obtain ⟨ht, hcap⟩ := hfresh.after os
  rw [hcapacity] at hcap
  refine ⟨?_, ?_, ?_, hcap ▸ ht.ring.count_le, hcap ▸ ht.contents_eq, ht.mem_contents, ht.nodup⟩
  · intro id path
    rw [← hcap]
    exact (ht.observe ⟨id, path⟩).1
  · intro id path hvalid
    rcases ht.ring.observe_cases id path with ⟨-, heq⟩ | ⟨hv, -⟩ | ⟨hv, -⟩
    · rw [heq]
      exact ⟨rfl, rfl⟩
    · simp [hvalid] at hv
    · simp [hvalid] at hv
  · have hset : {id | (w.after os).seen id ≠ none} = ((w.after os).contents.toFinset : Set _) := by
      ext id
      simp [← ht.mem_contents]
    rw [hset, Set.ncard_coe_finset, List.toFinset_card_of_nodup ht.nodup, length_contents]

/-- A window for two ids. -/
theorem observe_eq_specResult_two :
    ∃ w, newWindow 2 = .ok w ∧
      (w.after [⟨⟨⟨List.replicate 16 1, rfl⟩, 1⟩, [1]⟩, ⟨⟨⟨List.replicate 16 1, rfl⟩, 2⟩, [1]⟩,
        ⟨⟨⟨List.replicate 16 1, rfl⟩, 3⟩, [1]⟩]).contents.Nodup := by
  obtain ⟨w, hnew, hruns⟩ := observe_eq_specResult 2 (by norm_num)
  exact ⟨w, hnew, (hruns _).2.2.2.2.2.2⟩

/-- A window that observes one id over and over counts its copies. -/
lemma seen_after_replicate (hvalid : (o.id.valid && o.path.valid) = true)
    (hseen : w.seen o.id = none) (n : ℕ) :
    (w.after (List.replicate (n + 1) o)).seen o.id = some ⟨o.path, goInt (n + 1)⟩ := by
  have hcond : (!o.id.valid || !o.path.valid) = false := by simpa using hvalid
  induction n with
  | zero => simp [after, step, Mealy.state, observe, hcond, hseen, pushID, goInt]
  | succ n ih =>
    have hstep : w.after (List.replicate (n + 1 + 1) o) =
        ((w.after (List.replicate (n + 1) o)).observe o.id o.path).2 := by
      rw [after, List.replicate_succ', Mealy.state_concat]
      rfl
    rw [hstep, observe]
    simp [hcond, ih, goInt_goInt_add_one]

/-- The first packet of a session, on one path. -/
def samplePacket : Observation := ⟨⟨⟨List.replicate 16 1, rfl⟩, 1⟩, [1]⟩

/-- The copy count is a 64-bit `int`: the copy of an id after `2 ^ 63 - 1` others is reported
with a negative count. -/
theorem copyCount_wraps :
    ∃ w since, newWindow 1 = .ok w ∧
      sinceFirstCopy samplePacket.id (w.history (List.replicate (2 ^ 63 - 1) samplePacket)) =
        some (samplePacket.path, since) ∧
      (firstCopies since).length < 1 ∧
      ((w.after (List.replicate (2 ^ 63 - 1) samplePacket)).observe samplePacket.id
        samplePacket.path).1.decision = .duplicate ∧
      ((w.after (List.replicate (2 ^ 63 - 1) samplePacket)).observe samplePacket.id
        samplePacket.path).1.copyCount ≠ 1 + (observations samplePacket.id since + 1) := by
  obtain ⟨w, hnew, hcapacity, hfresh⟩ := newWindow_ok (le_refl 1)
  obtain ⟨n, hn⟩ : ∃ n : ℕ, 2 ^ 63 - 1 = n + 1 := ⟨2 ^ 63 - 2, by norm_num⟩
  rw [hn]
  have hvalid : (samplePacket.id.valid && samplePacket.path.valid) = true := by decide
  generalize samplePacket = o at hvalid ⊢
  obtain ⟨ht, hcap⟩ := hfresh.after (List.replicate (n + 1) o)
  rw [hcapacity] at hcap
  have hnone : w.seen o.id = none := by
    rw [hfresh.seen_eq, specRecord, sinceFirstCopy]
  have hseen := seen_after_replicate hvalid hnone n
  have hcount : goInt ((n : ℤ) + 1 + 1) = -2 ^ 63 := by
    simp only [goInt]
    omega
  have hres := (ht.observe o).1
  rw [specResult_eq hvalid, ← ht.seen_eq, hseen] at hres
  simp only [goInt_goInt_add_one, hcount] at hres
  -- what the map holds comes from the history, where the first copy is found
  rw [ht.seen_eq, specRecord] at hseen
  rcases hs : sinceFirstCopy o.id (w.history (List.replicate (n + 1) o)) with _ | ⟨path, since⟩
  · simp [hs] at hseen
  · simp only [hs] at hseen
    split at hseen
    · rename_i hlt
      rw [hcap] at hlt
      simp only [Option.some.injEq, Record.mk.injEq] at hseen
      obtain ⟨rfl, -⟩ := hseen
      refine ⟨w, since, hnew, hs, hlt, by rw [hres], ?_⟩
      rw [hres]
      simp only
      omega
    · cases hseen

end Window
end Gemina
