/-
# The fresh source endpoints of a session

The gateway remembers from which endpoints a session's datagrams arrived, for as long as they
are fresh (`pathset.go` of `internal/exit`).
-/
import Gemina.ClientCore.Handshake
import Gemina.Exit.Netip
import Gemina.Lib.Slice

namespace Gemina

/-- `defaultPathTTL`. -/
def defaultPathTTL : ℤ := 30 * second

/-- `pathEntry`. -/
structure PathEntry where
  addr : AddrPort
  lastSeen : ℤ

/-- `PathSet`, without its mutex and its clock. -/
structure PathSet where
  ttl : ℤ
  paths : SessionID → List PathEntry

/-- `NewPathSet`. -/
def newPathSet (ttl : ℤ) : PathSet := ⟨if ttl ≤ 0 then defaultPathTTL else ttl, fun _ => []⟩

/-- The loop of `Record`: refresh the entry of this endpoint, or append one. -/
def touch (addr : AddrPort) (now : ℤ) : List PathEntry → List PathEntry
  | [] => [⟨addr, now⟩]
  | e :: entries =>
    if e.addr = addr then { e with lastSeen := now } :: entries else e :: touch addr now entries

namespace PathSet

/-- `PathSet.Record`. -/
def record (ps : PathSet) (now : ℤ) (id : SessionID) (addr : AddrPort) : PathSet :=
  { ps with paths := Function.update ps.paths id (touch addr now (ps.paths id)) }

/-- `PathSet.Fresh`, with the purge as a filter. -/
def fresh (ps : PathSet) (now : ℤ) (id : SessionID) : List AddrPort × PathSet :=
  let entries := ps.paths id
  if entries.length = 0 then ([], ps)
  else
    let cutoff := now - ps.ttl
    let live := entries.filter fun e => cutoff < e.lastSeen
    if live.length = 0 then ([], { ps with paths := Function.update ps.paths id [] })
    else (live.map PathEntry.addr, { ps with paths := Function.update ps.paths id live })

/-- `PathSet.Fresh` as it is written: the purge overwrites the slice that it reads. -/
def freshInPlace (ps : PathSet) (now : ℤ) (id : SessionID) : List AddrPort × PathSet :=
  let entries := ps.paths id
  if entries.length = 0 then ([], ps)
  else
    let cutoff := now - ps.ttl
    let live := entries.compactFrom (fun e => cutoff < e.lastSeen) 0 0
    if live.length = 0 then ([], { ps with paths := Function.update ps.paths id [] })
    else (live.map PathEntry.addr, { ps with paths := Function.update ps.paths id live })

/-- Both are the same function. -/
lemma freshInPlace_eq (ps : PathSet) (now : ℤ) (id : SessionID) :
    ps.freshInPlace now id = ps.fresh now id := by
  simp only [freshInPlace, fresh, List.compactFrom_eq _ _ 0 0 le_rfl, List.take_zero,
    List.nil_append, List.drop_zero]

/-- `Fresh` filters the entries of one session by age. -/
lemma fresh_eq (ps : PathSet) (now : ℤ) (id : SessionID) :
    ps.fresh now id =
      (((ps.paths id).filter fun e => now - ps.ttl < e.lastSeen).map PathEntry.addr,
        ⟨ps.ttl, Function.update ps.paths id
          ((ps.paths id).filter fun e => now - ps.ttl < e.lastSeen)⟩) := by
  simp only [fresh]
  split
  · rename_i h
    rw [List.length_eq_zero_iff] at h
    simp only [h, List.filter_nil, List.map_nil, Prod.mk.injEq, true_and]
    rw [← h, Function.update_eq_self]
  · split
    · rename_i h
      rw [List.length_eq_zero_iff] at h
      simp [h]
    · rfl

/-- Asking again at the same time gives the same endpoints. -/
lemma fresh_fresh (ps : PathSet) (now : ℤ) (id : SessionID) :
    ((ps.fresh now id).2.fresh now id).1 = (ps.fresh now id).1 := by
  simp [fresh_eq, List.filter_filter]

/-! ## What the entries say about the arrivals -/

/-- One recorded arrival. -/
structure Arrival where
  session : SessionID
  source : AddrPort
  time : ℤ

lemma touch_addrs (addr : AddrPort) (now : ℤ) (entries : List PathEntry) :
    (touch addr now entries).map PathEntry.addr =
      if addr ∈ entries.map PathEntry.addr then entries.map PathEntry.addr
      else entries.map PathEntry.addr ++ [addr] := by
  induction entries with
  | nil => simp [touch]
  | cons e entries ih =>
    by_cases he : e.addr = addr
    · simp [touch, he]
    · simp only [touch, he, if_false, List.map_cons, ih, List.mem_cons, Ne.symm he, false_or]
      split <;> simp

/-- Every entry afterwards is the new one or an old one of another endpoint. -/
lemma mem_touch {addr : AddrPort} {now : ℤ} {entries : List PathEntry} {e : PathEntry}
    (h : e ∈ touch addr now entries) : e = ⟨addr, now⟩ ∨ e ∈ entries := by
  induction entries with
  | nil => simpa [touch] using h
  | cons e' entries ih =>
    by_cases he : e'.addr = addr
    · simp only [touch, he, if_true, List.mem_cons] at h
      rcases h with rfl | h
      · exact Or.inl rfl
      · exact Or.inr (List.mem_cons_of_mem _ h)
    · simp only [touch, he, if_false, List.mem_cons] at h
      rcases h with rfl | h
      · exact Or.inr List.mem_cons_self
      · exact (ih h).imp id (List.mem_cons_of_mem _)

lemma touch_mem_new (addr : AddrPort) (now : ℤ) (entries : List PathEntry) :
    ⟨addr, now⟩ ∈ touch addr now entries := by
  induction entries with
  | nil => simp [touch]
  | cons e entries ih =>
    by_cases he : e.addr = addr
    · simp [touch, he]
    · simp [touch, he, ih]

lemma touch_mem_old {addr : AddrPort} {now : ℤ} {entries : List PathEntry} {e : PathEntry}
    (h : e ∈ entries) (hne : e.addr ≠ addr) : e ∈ touch addr now entries := by
  induction entries with
  | nil => simp at h
  | cons e' entries ih =>
    by_cases he : e'.addr = addr
    · simp only [touch, he, if_true, List.mem_cons]
      rcases List.mem_cons.mp h with rfl | h
      · exact absurd he hne
      · exact Or.inr h
    · simp only [touch, he, if_false, List.mem_cons]
      exact (List.mem_cons.mp h).imp id ih

/-- The entries follow the arrivals `h` recorded up to the time `now`. -/
structure Follows (h : List Arrival) (now : ℤ) (ps : PathSet) : Prop where
  ttl_pos : 0 < ps.ttl
  nodup : ∀ id, ((ps.paths id).map PathEntry.addr).Nodup
  /-- An entry is an arrival that was recorded. -/
  seen : ∀ id, ∀ e ∈ ps.paths id, ⟨id, e.addr, e.lastSeen⟩ ∈ h
  /-- An arrival that is still fresh has an entry, and that is as late. -/
  kept : ∀ a ∈ h, now < a.time + ps.ttl →
    ∃ e ∈ ps.paths a.session, e.addr = a.source ∧ a.time ≤ e.lastSeen
  past : ∀ a ∈ h, a.time ≤ now

variable {h : List Arrival} {now now' : ℤ} {ps : PathSet}

lemma follows_new (ttl : ℤ) (now : ℤ) : Follows [] now (newPathSet ttl) := by
  refine ⟨?_, by simp [newPathSet], by simp [newPathSet], by simp, by simp⟩
  simp only [newPathSet]
  split
  · decide
  · omega

/-- Time passes. -/
lemma Follows.later (hf : Follows h now ps) (hle : now ≤ now') : Follows h now' ps :=
  ⟨hf.ttl_pos, hf.nodup, hf.seen, fun a ha hlt => hf.kept a ha (by omega),
    fun a ha => (hf.past a ha).trans hle⟩

/-- **`Record` adds an arrival.** -/
lemma Follows.record (hf : Follows h now ps) (id : SessionID) (addr : AddrPort) :
    Follows (h ++ [⟨id, addr, now⟩]) now (ps.record now id addr) := by
  refine ⟨hf.ttl_pos, ?_, ?_, ?_, ?_⟩
  · intro id'
    by_cases hid : id' = id
    · subst hid
      simp only [PathSet.record, Function.update_self, touch_addrs]
      split
      · exact hf.nodup id'
      · rename_i hnot
        exact List.nodup_append_singleton.mpr ⟨hnot, hf.nodup id'⟩
    · simpa [PathSet.record, hid] using hf.nodup id'
  · intro id' e he
    by_cases hid : id' = id
    · subst hid
      simp only [PathSet.record, Function.update_self] at he
      rcases mem_touch he with rfl | he
      · simp
      · exact List.mem_append_left _ (hf.seen id' e he)
    · simp only [PathSet.record, Function.update_of_ne hid] at he
      exact List.mem_append_left _ (hf.seen id' e he)
  · intro a ha hlt
    by_cases hid : a.session = id
    · subst hid
      simp only [PathSet.record, Function.update_self]
      by_cases haddr : a.source = addr
      · -- the new entry is at least as late as any arrival before
        refine ⟨_, touch_mem_new addr now _, haddr.symm, ?_⟩
        rcases List.mem_append.mp ha with ha | ha
        · exact hf.past a ha
        · rw [List.mem_singleton.mp ha]
      · rcases List.mem_append.mp ha with ha | ha
        · obtain ⟨e, he, hea, hle⟩ := hf.kept a ha hlt
          exact ⟨e, touch_mem_old he (hea ▸ haddr), hea, hle⟩
        · rw [List.mem_singleton.mp ha] at haddr
          exact absurd rfl haddr
    · simp only [PathSet.record, Function.update_of_ne hid]
      rcases List.mem_append.mp ha with ha | ha
      · exact hf.kept a ha hlt
      · rw [List.mem_singleton.mp ha] at hid
        exact absurd rfl hid
  · intro a ha
    rcases List.mem_append.mp ha with ha | ha
    · exact hf.past a ha
    · rw [List.mem_singleton.mp ha]

/-- **`Fresh` returns, once each, the endpoints that were seen less than the TTL ago.** -/
lemma Follows.fresh (hf : Follows h now ps) (id : SessionID) :
    (ps.fresh now id).1.Nodup ∧
      (∀ ep, ep ∈ (ps.fresh now id).1 ↔ ∃ t, ⟨id, ep, t⟩ ∈ h ∧ now - t < ps.ttl) ∧
      Follows h now (ps.fresh now id).2 := by
  rw [fresh_eq]
  refine ⟨?_, ?_, ⟨hf.ttl_pos, ?_, ?_, ?_, hf.past⟩⟩
  · exact (hf.nodup id).sublist (List.filter_sublist.map _)
  · intro ep
    simp only [List.mem_map, List.mem_filter, decide_eq_true_eq]
    constructor
    · rintro ⟨e, ⟨he, hlive⟩, rfl⟩
      exact ⟨e.lastSeen, hf.seen id e he, by omega⟩
    · rintro ⟨t, ht, hlt⟩
      obtain ⟨e, he, hea, hle⟩ := hf.kept _ ht (by simp only; omega)
      simp only at hle
      exact ⟨e, ⟨he, by omega⟩, hea⟩
  · intro id'
    by_cases hid : id' = id
    · subst hid
      simpa using (hf.nodup id').sublist (List.filter_sublist.map _)
    · simpa [hid] using hf.nodup id'
  · intro id' e he
    by_cases hid : id' = id
    · subst hid
      simp only [Function.update_self, List.mem_filter] at he
      exact hf.seen id' e he.1
    · simp only [Function.update_of_ne hid] at he
      exact hf.seen id' e he
  · intro a ha hlt
    obtain ⟨e, he, hea, hle⟩ := hf.kept a ha hlt
    refine ⟨e, ?_, hea, hle⟩
    by_cases hid : a.session = id
    · subst hid
      simp only [Function.update_self, List.mem_filter, decide_eq_true_eq]
      simp only at hlt
      exact ⟨he, by omega⟩
    · simpa [hid] using he

end PathSet
end Gemina
