/-
# The dedup window

The window of `internal/dedup/window.go`: it keeps the packet ids that it has seen first most
recently, at most `capacity` of them, and evicts the oldest one when it is full.  The ids stand
in a ring in the order of their first copies; a map holds what is known about each of them.
-/
import Gemina.Lib.RingQueue
import Gemina.Dedup.Replay

namespace Gemina

/-- `dedup.PathID`, a string. -/
abbrev PathID : Type := Bytes

/-- `PathID.Valid`. -/
def PathID.valid (id : PathID) : Bool := id ≠ []

/-- The zero value of `protocol.PacketID`. -/
def PacketID.zero : PacketID := ⟨ByteArrayN.zero _, 0⟩

namespace Window

/-- `dedup.Decision`. -/
inductive Decision where
  | invalid
  | firstCopy
  | duplicate
deriving DecidableEq, Repr

/-- `dedup.Result`.  The copy count is a Go `int`. -/
structure Result where
  decision : Decision
  id : PacketID
  path : PathID
  firstPath : PathID
  copyCount : ℤ
deriving DecidableEq

/-- `dedup.record`. -/
structure Record where
  firstPath : PathID
  copyCount : ℤ

end Window

/-- `dedup.Window`, without its mutex. -/
structure Window where
  capacity : ℕ
  seen : PacketID → Option Window.Record
  ring : List PacketID
  /-- The slot of the oldest entry. -/
  head : ℕ
  /-- The number of entries. -/
  count : ℕ

/-- `NewWindow`.  A capacity for which `make` cannot allocate the ring is not told apart: the
source panics or runs out of memory there, and here it gets a window. -/
def newWindow (capacity : ℤ) : Except GoError Window :=
  if capacity ≤ 0 then .error errInvalidCapacity
  else .ok ⟨capacity.toNat, fun _ => none, List.replicate capacity.toNat .zero, 0, 0⟩

namespace Window

/-- `Window.pushID`. -/
def pushID (w : Window) (id : PacketID) : Window :=
  { w with ring := w.ring.set ((w.head + w.count) % w.capacity) id, count := w.count + 1 }

/-- `Window.evictIfFull`. -/
def evictIfFull (w : Window) : Window :=
  if w.count < w.capacity then w
  else
    let oldest := w.ring.getD w.head .zero
    { w with
      seen := Function.update w.seen oldest none
      head := (w.head + 1) % w.capacity
      count := w.count - 1 }

/-- `Window.Observe`. -/
def observe (w : Window) (id : PacketID) (path : PathID) : Result × Window :=
  if !id.valid || !path.valid then (⟨.invalid, id, path, [], 0⟩, w)
  else
    match w.seen id with
    | some existing =>
      let existing := { existing with copyCount := goInt (existing.copyCount + 1) }
      (⟨.duplicate, id, path, existing.firstPath, existing.copyCount⟩,
        { w with seen := Function.update w.seen id (some existing) })
    | none =>
      let w := w.evictIfFull
      let w := { w with seen := Function.update w.seen id (some ⟨path, 1⟩) }
      (⟨.firstCopy, id, path, path, 1⟩, w.pushID id)

/-- The ids in the ring, oldest first. -/
def contents (w : Window) : List PacketID := RingQueue.contents .zero w.ring w.head w.count

/-! ## The ring -/

/-- The ring has a slot for each entry that may be kept. -/
structure RingOK (w : Window) : Prop where
  length_ring : w.ring.length = w.capacity
  head_lt : w.head < w.capacity
  count_le : w.count ≤ w.capacity

variable {w : Window} {id : PacketID} {path : PathID}

lemma length_contents (w : Window) : w.contents.length = w.count :=
  RingQueue.length_contents _ _ _ _

/-- `evictIfFull` makes room: it drops the oldest id if the window is full. -/
lemma RingOK.evictIfFull (h : w.RingOK) :
    w.evictIfFull.RingOK ∧ w.evictIfFull.count < w.evictIfFull.capacity ∧
      (w.count < w.capacity ∧ w.evictIfFull = w ∨
        ∃ oldest, w.count = w.capacity ∧ w.contents = oldest :: w.evictIfFull.contents ∧
          w.evictIfFull.seen = Function.update w.seen oldest none) := by
  have hhead := h.head_lt
  by_cases hfull : w.count < w.capacity
  · rw [Window.evictIfFull, if_pos hfull]
    exact ⟨h, hfull, Or.inl ⟨hfull, rfl⟩⟩
  · have hcount : w.count = w.capacity := le_antisymm h.count_le (not_lt.mp hfull)
    rw [Window.evictIfFull, if_neg hfull]
    have hpop := @RingQueue.contents_pop _ w.ring w.head (w.count - 1) PacketID.zero
      (h.length_ring.symm ▸ hhead)
    rw [show w.count - 1 + 1 = w.count by omega, h.length_ring] at hpop
    refine ⟨⟨h.length_ring, Nat.mod_lt _ (by omega), ?_⟩, ?_, Or.inr ⟨_, hcount, hpop, rfl⟩⟩
    · simp only
      omega
    · simp only
      omega

/-- `pushID` appends an id to a ring that is not full. -/
lemma RingOK.pushID (h : w.RingOK) (hroom : w.count < w.capacity) (id : PacketID) :
    (w.pushID id).RingOK ∧ (w.pushID id).contents = w.contents ++ [id] := by
  refine ⟨⟨by simpa [Window.pushID] using h.length_ring, h.head_lt, hroom⟩, ?_⟩
  have hpush := @RingQueue.contents_push _ w.ring w.head w.count PacketID.zero id
    (h.length_ring.symm ▸ hroom)
  rwa [h.length_ring] at hpush

/-- The outcome of `Observe`: an invalid call changes nothing; a known id is counted; a new id
is appended to what is left of the ring. -/
lemma RingOK.observe_cases (h : w.RingOK) (id : PacketID) (path : PathID) :
    ((id.valid && path.valid) = false ∧
      w.observe id path = (⟨.invalid, id, path, [], 0⟩, w)) ∨
    ((id.valid && path.valid) = true ∧ ∃ r, w.seen id = some r ∧
      w.observe id path =
        (⟨.duplicate, id, path, r.firstPath, goInt (r.copyCount + 1)⟩,
          { w with
            seen := Function.update w.seen id (some ⟨r.firstPath, goInt (r.copyCount + 1)⟩) })) ∨
    ((id.valid && path.valid) = true ∧ w.seen id = none ∧
      (w.observe id path).1 = ⟨.firstCopy, id, path, path, 1⟩ ∧
      (w.observe id path).2.RingOK ∧ (w.observe id path).2.capacity = w.capacity ∧
      (w.observe id path).2.contents = w.evictIfFull.contents ++ [id] ∧
      (w.observe id path).2.seen = Function.update w.evictIfFull.seen id (some ⟨path, 1⟩)) := by
  by_cases hvalid : (id.valid && path.valid) = true
  · have hcond : (!id.valid || !path.valid) = false := by
      simpa using hvalid
    rcases hseen : w.seen id with _ | r
    · refine Or.inr (Or.inr ⟨hvalid, rfl, ?_⟩)
      have hobs : w.observe id path = (⟨.firstCopy, id, path, path, 1⟩,
          Window.pushID { w.evictIfFull with
            seen := Function.update w.evictIfFull.seen id (some ⟨path, 1⟩) } id) := by
        simp [Window.observe, hcond, hseen]
      obtain ⟨hok, hroom, -⟩ := h.evictIfFull
      have hok' : RingOK { w.evictIfFull with
          seen := Function.update w.evictIfFull.seen id (some ⟨path, 1⟩) } :=
        ⟨hok.length_ring, hok.head_lt, hok.count_le⟩
      obtain ⟨hpush, hcontents⟩ := hok'.pushID hroom id
      have hcap : w.evictIfFull.capacity = w.capacity := by
        rw [Window.evictIfFull]
        split <;> rfl
      rw [hobs]
      exact ⟨rfl, hpush, hcap, hcontents, rfl⟩
    · exact Or.inr (Or.inl ⟨hvalid, r, rfl, by simp [Window.observe, hcond, hseen]⟩)
  · rw [Bool.not_eq_true] at hvalid
    have hcond : (!id.valid || !path.valid) = true := by
      rw [← Bool.not_and, hvalid]
      rfl
    exact Or.inl ⟨hvalid, by simp [Window.observe, hcond]⟩

end Window
end Gemina
