/-
# Runs of the allocator

The calls on an allocator happen one at a time, under its mutex, in any order and for any
session ids.  After every sequence of calls the allocator is in order, no address of the pool
was lost or doubled, and a lease ends only with its release.
-/
import Gemina.Lib.Mealy
import Gemina.Exit.Allocator

namespace Gemina
namespace Allocator

/-! ## Calls -/

/-- A call on the allocator. -/
inductive Call where
  | allocate (id : SessionID)
  | release (id : SessionID)
  | leaseOf (id : SessionID)
  | lookup (addr : Addr)

/-- What a call returns. -/
inductive Reply where
  | allocated (result : Except GoError Addr)
  | released
  | lease (addr : Option Addr)
  | owner (id : Option SessionID)

/-- One call. -/
def call (a : Allocator) : Call → Reply × Allocator
  | .allocate id => (.allocated (a.allocate id).1, (a.allocate id).2)
  | .release id => (.released, a.release id)
  | .leaseOf id => (.lease (a.leaseOf id), a)
  | .lookup addr => (.owner (a.lookup addr), a)

/-- The allocator after a sequence of calls. -/
def after (a : Allocator) (calls : List Call) : Allocator := Mealy.state call a calls

variable {a : Allocator} {usable : List Addr} {id : SessionID} {addr : Addr}

/-! ## The invariant of a run -/

/-- The allocator is in order, and hands out the addresses `usable`. -/
structure Consistent (usable : List Addr) (a : Allocator) : Prop where
  ordered : a.Ordered
  covers : Covers usable a

/-- Every call keeps the invariant. -/
lemma Consistent.call (h : Consistent usable a) (c : Call) :
    Consistent usable (a.call c).2 := by
  cases c with
  | allocate id => exact ⟨h.ordered.allocate id, h.covers.allocate id⟩
  | release id => exact ⟨h.ordered.release id, h.covers.release id⟩
  | leaseOf id => exact h
  | lookup addr => exact h

/-- So every sequence of calls keeps it. -/
lemma Consistent.after (h : Consistent usable a) (calls : List Call) :
    Consistent usable (a.after calls) :=
  Mealy.invariant (P := fun _ a => Consistent usable a) h (fun _ _ c ha => ha.call c) calls

/-- A new allocator hands out all of its addresses. -/
lemma consistent_new {pool : Prefix} (h : newAllocator pool = .ok a) : Consistent a.free a := by
  obtain ⟨hord, hnone, -⟩ := newAllocator_ok h
  refine ⟨hord, fun addr => ⟨?_, Or.inl⟩⟩
  rintro (hin | ⟨id, hlease⟩)
  · exact hin
  · rw [hnone id] at hlease
    cases hlease

/-- **`Allocate` fails exactly if every usable address is leased to another session.** -/
lemma Consistent.allocate_error_iff (h : Consistent usable a) (id : SessionID) :
    (∃ e, (a.allocate id).1 = .error e) ↔
      a.leaseOf id = none ∧ ∀ addr ∈ usable, ∃ id', id' ≠ id ∧ a.leaseOf id' = some addr := by
  rcases a.allocate_cases id with ⟨addr, hlease, heq⟩ | ⟨hnone, hfree, heq⟩ |
    ⟨rest, addr, hnone, hfree, heq⟩
  · simp [heq, leaseOf, hlease]
  · rw [heq]
    refine ⟨fun _ => ⟨hnone, fun addr haddr => ?_⟩, fun _ => ⟨errPoolExhausted, rfl⟩⟩
    rcases (h.covers addr).mpr haddr with hin | ⟨id', hlease⟩
    · simp [hfree] at hin
    · refine ⟨id', ?_, hlease⟩
      rintro rfl
      rw [hnone] at hlease
      cases hlease
  · -- the address that is returned was free, so it was leased to nobody
    rw [heq]
    constructor
    · rintro ⟨e, he⟩
      cases he
    · rintro ⟨-, hall⟩
      have hmem : addr ∈ a.free := by simp [hfree]
      obtain ⟨id', -, hlease⟩ := hall addr ((h.covers addr).mp (Or.inl hmem))
      rw [leaseOf, h.ordered.inverse, h.ordered.free_disjoint addr hmem] at hlease
      cases hlease

/-- A failed `Allocate` says that the pool is exhausted, and changes nothing. -/
lemma allocate_error {e : GoError} (h : (a.allocate id).1 = .error e) :
    e = errPoolExhausted ∧ (a.allocate id).2 = a := by
  rcases a.allocate_cases id with ⟨addr, -, heq⟩ | ⟨-, -, heq⟩ | ⟨rest, addr, -, -, heq⟩
  · simp [heq] at h
  · rw [heq] at h ⊢
    exact ⟨(Except.error.inj h).symm, rfl⟩
  · simp [heq] at h

/-- An exhausted allocator has leased each of its addresses to a session of its own. -/
lemma Consistent.ncard_leased (h : Consistent usable a) (hnodup : usable.Nodup)
    (hfree : a.free = []) : {id | a.leaseOf id ≠ none}.ncard = usable.length := by
  have hinj : Set.InjOn a.leaseOf {id | a.leaseOf id ≠ none} := by
    intro id hid id' _ heq
    obtain ⟨addr, haddr⟩ := Option.ne_none_iff_exists'.mp hid
    exact h.ordered.forward_inj haddr (heq.symm.trans haddr)
  have himage : a.leaseOf '' {id | a.leaseOf id ≠ none} = some '' {addr | addr ∈ usable} := by
    ext x
    constructor
    · rintro ⟨id, hid, rfl⟩
      obtain ⟨addr, haddr⟩ := Option.ne_none_iff_exists'.mp hid
      exact ⟨addr, (h.covers addr).mp (Or.inr ⟨id, haddr⟩), haddr.symm⟩
    · rintro ⟨addr, haddr, rfl⟩
      rcases (h.covers addr).mpr haddr with hin | ⟨id, hid⟩
      · simp [hfree] at hin
      · exact ⟨id, by simp [leaseOf, hid], hid⟩
  have husable : {addr | addr ∈ usable} = (usable.toFinset : Set Addr) := by
    ext addr
    simp
  rw [← hinj.ncard_image, himage,
    Set.ncard_image_of_injective _ (Option.some_injective _), husable, Set.ncard_coe_finset,
    List.toFinset_card_of_nodup hnodup]

/-! ## A lease lasts until its release -/

/-- The address that `Allocate` returns is leased to the session. -/
lemma leaseOf_allocate (h : (a.allocate id).1 = .ok addr) :
    (a.allocate id).2.leaseOf id = some addr := by
  rcases a.allocate_cases id with ⟨addr', hlease, heq⟩ | ⟨-, -, heq⟩ | ⟨rest, addr', -, -, heq⟩
  · rw [heq] at h ⊢
    cases h
    exact hlease
  · simp [heq] at h
  · rw [heq] at h ⊢
    cases h
    simp [leaseOf]

/-- No call but its release ends a lease. -/
lemma leaseOf_call (h : a.leaseOf id = some addr) {c : Call} (hc : c ≠ .release id) :
    (a.call c).2.leaseOf id = some addr := by
  rw [leaseOf] at h
  cases c with
  | allocate id' =>
    rcases a.allocate_cases id' with ⟨addr', -, heq⟩ | ⟨-, -, heq⟩ |
      ⟨rest, addr', hnone, -, heq⟩
    · simpa [call, heq, leaseOf] using h
    · simpa [call, heq, leaseOf] using h
    · have hid : id ≠ id' := by
        rintro rfl
        rw [hnone] at h
        cases h
      simpa [call, heq, leaseOf, hid] using h
  | release id' =>
    have hid : id ≠ id' := by
      rintro rfl
      exact hc rfl
    rcases a.release_cases id' with ⟨-, heq⟩ | ⟨addr', -, heq⟩
    · simpa [call, heq, leaseOf] using h
    · simpa [call, heq, leaseOf, hid] using h
  | leaseOf id' => exact h
  | lookup addr' => exact h

/-- No sequence of other calls ends a lease. -/
lemma leaseOf_after (h : a.leaseOf id = some addr) {calls : List Call}
    (hcalls : .release id ∉ calls) : (a.after calls).leaseOf id = some addr := by
  induction calls generalizing a with
  | nil => exact h
  | cons c calls ih =>
    rw [List.mem_cons, not_or] at hcalls
    exact ih (leaseOf_call h (Ne.symm hcalls.1)) hcalls.2

/-! ## The result -/

/-- **The allocator over every sequence of calls.**  The two maps are inverse to each other; the
free list has no repetitions and no leased address, and with the leased addresses it makes up
the usable addresses of the pool, which leave out the network, the gateway's and the broadcast
address.  Two sessions never share an address, and a session keeps its address until it is
released.  `Allocate` fails, and then changes nothing, exactly if the session has no lease and
every usable address is leased to another one. -/
theorem allocator_consistent {pool : Prefix} {a : Allocator} (hnew : newAllocator pool = .ok a)
    (calls : List Call) :
    (∀ id addr, (a.after calls).leaseOf id = some addr ↔
      (a.after calls).lookup addr = some id) ∧
    (a.after calls).free.Nodup ∧
    (∀ addr ∈ (a.after calls).free, ∀ id, (a.after calls).leaseOf id ≠ some addr) ∧
    (∀ addr, (addr ∈ (a.after calls).free ∨ ∃ id, (a.after calls).leaseOf id = some addr) ↔
      addr ∈ a.free) ∧
    (∀ addr, addr ∈ a.free ↔ pool.Usable addr) ∧
    (∀ id id' addr, (a.after calls).leaseOf id = some addr →
      (a.after calls).leaseOf id' = some addr → id = id') ∧
    (∀ before later id addr, calls = before ++ .allocate id :: later →
      ((a.after before).allocate id).1 = .ok addr → .release id ∉ later →
      (a.after calls).leaseOf id = some addr ∧ ((a.after calls).allocate id).1 = .ok addr) ∧
    (∀ id addr, (a.after calls).leaseOf id = some addr → pool.Usable addr) ∧
    (∀ id, (∃ e, ((a.after calls).allocate id).1 = .error e) ↔
      (a.after calls).leaseOf id = none ∧
        ∀ addr ∈ a.free, ∃ id', id' ≠ id ∧ (a.after calls).leaseOf id' = some addr) ∧
    (∀ id e, ((a.after calls).allocate id).1 = .error e →
      e = errPoolExhausted ∧ ((a.after calls).allocate id).2 = a.after calls) := by
  have h : Consistent a.free (a.after calls) := (consistent_new hnew).after calls
  have husable := newAllocator_usable hnew
  refine ⟨h.ordered.inverse, h.ordered.free_nodup, ?_, h.covers, husable,
    fun id id' addr => h.ordered.forward_inj, ?_, ?_, h.allocate_error_iff,
    fun id e => allocate_error⟩
  · intro addr hfree id hlease
    rw [leaseOf, h.ordered.inverse, h.ordered.free_disjoint addr hfree] at hlease
    cases hlease
  · rintro before later id addr rfl hok hlater
    have hlease : (a.after (before ++ .allocate id :: later)).leaseOf id = some addr := by
      rw [after, Mealy.state_append]
      exact leaseOf_after (leaseOf_allocate hok) hlater
    refine ⟨hlease, ?_⟩
    rw [leaseOf] at hlease
    simp [allocate, hlease]
  · exact fun id addr hlease => (husable addr).mp ((h.covers addr).mp (Or.inr ⟨id, hlease⟩))

/-- A pool of eight addresses, after one session took an address and another one took one and
gave it back. -/
theorem allocator_consistent_eight :
    (⟨fun _ => none, fun _ => none, [.v4 0x0a4d0002#32, .v4 0x0a4d0003#32, .v4 0x0a4d0004#32,
        .v4 0x0a4d0005#32, .v4 0x0a4d0006#32]⟩ : Allocator).after
      [.allocate ⟨List.replicate 16 1, rfl⟩, .allocate ⟨List.replicate 16 2, rfl⟩,
        .release ⟨List.replicate 16 2, rfl⟩] |>.free.Nodup := by
  exact (allocator_consistent newAllocator_eight _).2.1

end Allocator
end Gemina
