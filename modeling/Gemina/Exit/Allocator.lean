/-
# The allocator of tunnel addresses

Each session leases one IPv4 address of a pool (`allocator.go` of `internal/exit`).  The
allocator keeps the lease in both directions, and the addresses that are not leased.
-/
import Gemina.Lib.Slice
import Gemina.Exit.Netip

namespace Gemina

def errPoolExhausted : GoError := ⟨"tunnel ip pool exhausted"⟩
def errInvalidPool : GoError :=
  ⟨"invalid tunnel ip pool: must be an ipv4 prefix with at least one usable host address"⟩

/-- `Allocator`, without its mutex. -/
structure Allocator where
  /-- The address leased to a session. -/
  forward : SessionID → Option Addr
  /-- The session that an address is leased to. -/
  reverse : Addr → Option SessionID
  /-- The addresses that are available; the last one is leased next. -/
  free : List Addr

/-- The loop of `NewAllocator`: collect the addresses after `addr` up to, and without, the
last one of the prefix. -/
def usableFrom (base : Prefix) (addr : Addr) (free : List Addr) : List Addr :=
  if _hin : base.contains addr.next then
    if base.contains addr.next.next then usableFrom base addr.next (free ++ [addr.next])
    else free
  else free
termination_by addr.remaining
decreasing_by exact Addr.remaining_next (Prefix.isValid_of_contains _hin)

/-- `NewAllocator`. -/
def newAllocator (pool : Prefix) : Except GoError Allocator :=
  if !pool.isValid || pool.addr.is6 then .error errInvalidPool
  else
    let base := pool.masked
    let free := usableFrom base base.addr.next []
    if free.length = 0 then .error errInvalidPool
    else .ok ⟨fun _ => none, fun _ => none, free⟩

namespace Allocator

/-- `Allocator.Allocate`. -/
def allocate (a : Allocator) (id : SessionID) : Except GoError Addr × Allocator :=
  match a.forward id with
  | some addr => (.ok addr, a)
  | none =>
    match a.free.getLast? with
    | none => (.error errPoolExhausted, a)
    | some addr =>
      (.ok addr, ⟨Function.update a.forward id (some addr),
        Function.update a.reverse addr (some id), a.free.dropLast⟩)

/-- `Allocator.LeaseOf`. -/
def leaseOf (a : Allocator) (id : SessionID) : Option Addr := a.forward id

/-- `Allocator.Lookup`. -/
def lookup (a : Allocator) (addr : Addr) : Option SessionID := a.reverse addr

/-- `Allocator.Release`. -/
def release (a : Allocator) (id : SessionID) : Allocator :=
  match a.forward id with
  | none => a
  | some addr => ⟨Function.update a.forward id none, Function.update a.reverse addr none,
      a.free ++ [addr]⟩

/-! ## The invariant -/

/-- The allocator is in order: the two maps are inverse to each other, no address is both
leased and free, none is free twice, and all of them are IPv4. -/
structure Ordered (a : Allocator) : Prop where
  inverse : ∀ id addr, a.forward id = some addr ↔ a.reverse addr = some id
  free_nodup : a.free.Nodup
  free_disjoint : ∀ addr ∈ a.free, a.reverse addr = none
  free_is4 : ∀ addr ∈ a.free, addr.is4 = true
  leased_is4 : ∀ id addr, a.forward id = some addr → addr.is4 = true

variable {a : Allocator}

/-- Two sessions never share an address. -/
lemma Ordered.forward_inj (h : a.Ordered) {id id' : SessionID} {addr : Addr}
    (h₁ : a.forward id = some addr) (h₂ : a.forward id' = some addr) : id = id' := by
  rw [h.inverse] at h₁ h₂
  exact Option.some.inj (h₁.symm.trans h₂)

/-- What `Allocate` does: it returns the lease there is, or it leases an address that was
free, or it fails and changes nothing. -/
lemma allocate_cases (a : Allocator) (id : SessionID) :
    (∃ addr, a.forward id = some addr ∧ a.allocate id = (.ok addr, a)) ∨
    (a.forward id = none ∧ a.free = [] ∧ a.allocate id = (.error errPoolExhausted, a)) ∨
    (∃ rest addr, a.forward id = none ∧ a.free = rest ++ [addr] ∧
      a.allocate id = (.ok addr, ⟨Function.update a.forward id (some addr),
        Function.update a.reverse addr (some id), rest⟩)) := by
  rcases hf : a.forward id with _ | addr
  · rcases List.eq_nil_or_concat a.free with hnil | ⟨rest, addr, hcat⟩
    · exact Or.inr (Or.inl ⟨rfl, hnil, by simp [allocate, hf, hnil]⟩)
    · rw [List.concat_eq_append] at hcat
      exact Or.inr (Or.inr ⟨rest, addr, rfl, hcat, by simp [allocate, hf, hcat]⟩)
  · exact Or.inl ⟨addr, rfl, by simp [allocate, hf]⟩

/-- **`Allocate` keeps the order.** -/
lemma Ordered.allocate (h : a.Ordered) (id : SessionID) : (a.allocate id).2.Ordered := by
  rcases a.allocate_cases id with ⟨_, -, heq⟩ | ⟨-, -, heq⟩ | ⟨rest, addr, hnone, hfree, heq⟩
  · rwa [heq]
  · rwa [heq]
  · have hmem : addr ∈ a.free := by simp [hfree]
    obtain ⟨hrest, hnd⟩ := List.nodup_append_singleton.mp (hfree ▸ h.free_nodup)
    rw [heq]
    refine ⟨?_, hnd, ?_, ?_, ?_⟩
    · intro id' addr'
      by_cases hid : id' = id
      · subst hid
        by_cases haddr : addr' = addr
        · simp [haddr]
        · have : a.reverse addr' ≠ some id' := by
            rw [ne_eq, ← h.inverse, hnone]
            simp
          simp [haddr, Ne.symm haddr, this]
      · by_cases haddr : addr' = addr
        · subst haddr
          have : a.forward id' ≠ some addr' := by
            rw [ne_eq, h.inverse, h.free_disjoint _ hmem]
            simp
          simp [hid, Ne.symm hid, this]
        · simp [hid, haddr, h.inverse]
    · intro addr' hin
      have hne : addr' ≠ addr := fun heq => hrest (heq ▸ hin)
      simpa [hne] using h.free_disjoint addr' (by simp [hfree, hin])
    · exact fun addr' hin => h.free_is4 addr' (by simp [hfree, hin])
    · intro id' addr' hfwd
      by_cases hid : id' = id
      · subst hid
        simp only [Function.update_self, Option.some.injEq] at hfwd
        exact hfwd ▸ h.free_is4 addr hmem
      · exact h.leased_is4 id' addr' (by simpa [hid] using hfwd)

/-- What `Release` does: nothing without a lease, else the address becomes free. -/
lemma release_cases (a : Allocator) (id : SessionID) :
    (a.forward id = none ∧ a.release id = a) ∨
    (∃ addr, a.forward id = some addr ∧
      a.release id = ⟨Function.update a.forward id none, Function.update a.reverse addr none,
        a.free ++ [addr]⟩) := by
  rcases hf : a.forward id with _ | addr
  · exact Or.inl ⟨rfl, by simp [release, hf]⟩
  · exact Or.inr ⟨addr, rfl, by simp [release, hf]⟩

/-- **`Release` keeps the order.** -/
lemma Ordered.release (h : a.Ordered) (id : SessionID) : (a.release id).Ordered := by
  rcases a.release_cases id with ⟨-, heq⟩ | ⟨addr, hlease, heq⟩
  · rwa [heq]
  · rw [heq]
    refine ⟨?_, ?_, ?_, ?_, ?_⟩
    · intro id' addr'
      by_cases hid : id' = id
      · subst hid
        by_cases haddr : addr' = addr
        · simp [haddr]
        · have : a.reverse addr' ≠ some id' := by
            rw [ne_eq, ← h.inverse, hlease]
            simpa using Ne.symm haddr
          simp [haddr, this]
      · by_cases haddr : addr' = addr
        · subst haddr
          have : a.forward id' ≠ some addr' := fun h' => hid (h.forward_inj h' hlease)
          simp [hid, this]
        · simp [hid, haddr, h.inverse]
    · -- a leased address was not free
      refine List.nodup_append_singleton.mpr ⟨fun hmem => ?_, h.free_nodup⟩
      rw [h.inverse, h.free_disjoint addr hmem] at hlease
      cases hlease
    · intro addr' hin
      by_cases haddr : addr' = addr
      · simp [haddr]
      · simp only [List.mem_append, List.mem_singleton, haddr, or_false] at hin
        simpa [haddr] using h.free_disjoint addr' hin
    · intro addr' hin
      rcases List.mem_append.mp hin with hin | hin
      · exact h.free_is4 addr' hin
      · rw [List.mem_singleton.mp hin]
        exact h.leased_is4 id addr hlease
    · intro id' addr' hfwd
      by_cases hid : id' = id
      · subst hid
        simp at hfwd
      · exact h.leased_is4 id' addr' (by simpa [hid] using hfwd)

/-! ## No address is lost -/

/-- The addresses `usable` are those that are free or leased. -/
def Covers (usable : List Addr) (a : Allocator) : Prop :=
  ∀ addr, (addr ∈ a.free ∨ ∃ id, a.forward id = some addr) ↔ addr ∈ usable

variable {usable : List Addr}

/-- `Allocate` moves an address from the free ones to the leased ones. -/
lemma Covers.allocate (h : Covers usable a) (id : SessionID) :
    Covers usable (a.allocate id).2 := by
  rcases a.allocate_cases id with ⟨_, -, heq⟩ | ⟨-, -, heq⟩ | ⟨rest, addr, hnone, hfree, heq⟩
  · rwa [heq]
  · rwa [heq]
  · intro addr'
    rw [heq, ← h addr', hfree, List.mem_append, List.mem_singleton]
    constructor
    · rintro (hin | ⟨id', hfwd⟩)
      · exact Or.inl (Or.inl hin)
      · by_cases hid : id' = id
        · subst hid
          simp only [Function.update_self, Option.some.injEq] at hfwd
          exact Or.inl (Or.inr hfwd.symm)
        · exact Or.inr ⟨id', by simpa [hid] using hfwd⟩
    · rintro ((hin | rfl) | ⟨id', hfwd⟩)
      · exact Or.inl hin
      · exact Or.inr ⟨id, by simp⟩
      · have hid : id' ≠ id := by
          rintro rfl
          rw [hnone] at hfwd
          cases hfwd
        exact Or.inr ⟨id', by simpa [hid] using hfwd⟩

/-- `Release` moves it back. -/
lemma Covers.release (h : Covers usable a) (id : SessionID) : Covers usable (a.release id) := by
  rcases a.release_cases id with ⟨-, heq⟩ | ⟨addr, hlease, heq⟩
  · rwa [heq]
  · intro addr'
    rw [heq, ← h addr', List.mem_append, List.mem_singleton]
    constructor
    · rintro ((hin | rfl) | ⟨id', hfwd⟩)
      · exact Or.inl hin
      · exact Or.inr ⟨id, hlease⟩
      · have hid : id' ≠ id := by
          rintro rfl
          simp at hfwd
        exact Or.inr ⟨id', by simpa [hid] using hfwd⟩
    · rintro (hin | ⟨id', hfwd⟩)
      · exact Or.inl (Or.inl hin)
      · by_cases hid : id' = id
        · subst hid
          rw [hlease, Option.some.injEq] at hfwd
          exact Or.inl (Or.inr hfwd.symm)
        · exact Or.inr ⟨id', by simpa [hid] using hfwd⟩

end Allocator

/-! ## A fresh allocator -/

/-- The loop collects IPv4 addresses in increasing order, so none twice. -/
lemma usableFrom_v4 {ip : BitVec 32} {bits : ℕ} {hbits : bits ≤ 32} (addr : Addr)
    (free : List Addr) (hfree : ∀ x ∈ free, x.is4 = true ∧ addr.remaining ≤ x.remaining)
    (hnd : free.Nodup) :
    (usableFrom (.v4 ip bits hbits) addr free).Nodup ∧
      ∀ x ∈ usableFrom (.v4 ip bits hbits) addr free, x.is4 = true := by
  fun_induction usableFrom (.v4 ip bits hbits) addr free with
  | case1 addr free hin _ ih =>
    have hlt := Addr.remaining_next (Prefix.isValid_of_contains hin)
    have his4 : addr.next.is4 = true := by
      cases hnext : addr.next with
      | v4 b => rfl
      | invalid => simp [hnext, Prefix.contains] at hin
      | v6 b zone => simp [hnext, Prefix.contains] at hin
    refine ih ?_ ?_
    · intro x hx
      rcases List.mem_append.mp hx with hx | hx
      · exact ⟨(hfree x hx).1, hlt.le.trans (hfree x hx).2⟩
      · rw [List.mem_singleton.mp hx]
        exact ⟨his4, le_rfl⟩
    · exact List.nodup_append_singleton.mpr
        ⟨fun hmem => absurd (hfree _ hmem).2 (not_le.mpr hlt), hnd⟩
  | case2 addr free hin _ => exact ⟨hnd, fun x hx => (hfree x hx).1⟩
  | case3 addr free hin => exact ⟨hnd, fun x hx => (hfree x hx).1⟩

/-- The addresses of a pool that clients may have: those of the prefix other than the network
address, the address after it, which is the gateway's, and the last one, for broadcasts. -/
structure Prefix.Usable (pool : Prefix) (addr : Addr) : Prop where
  inside : pool.masked.contains addr = true
  not_network : addr ≠ pool.masked.addr
  not_gateway : addr ≠ pool.masked.addr.next
  not_last : pool.masked.contains addr.next = true

/-- The successor of an IPv4 address that is below some other one. -/
lemma Addr.next_v4 {a : BitVec 32} (h : a.toNat + 1 < 2 ^ 32) :
    (Addr.v4 a).next = .v4 (a + 1#32) ∧ (a + 1#32).toNat = a.toNat + 1 := by
  have hs : (a + 1#32).toNat = a.toNat + 1 := by bv_omega
  have h0 : a + 1#32 ≠ 0#32 := by
    intro h0
    rw [h0] at hs
    simp at hs
  exact ⟨by simp [Addr.next, h0], hs⟩

/-- The successor of the last IPv4 address is in no prefix. -/
lemma Prefix.not_contains_next {p : Prefix} {a : BitVec 32} (h : ¬ a.toNat + 1 < 2 ^ 32) :
    ¬ p.contains (Addr.v4 a).next = true := by
  have h0 : a + 1#32 = 0#32 := by bv_omega
  cases p <;> simp [Addr.next, h0, Prefix.contains]

/-- Whether the successor of an address is in a prefix. -/
lemma Prefix.contains_next_masked_v4 {ip a : BitVec 32} {bits : ℕ} {hbits : bits ≤ 32}
    (hbase : (ip >>> (32 - bits) <<< (32 - bits)).toNat ≤ a.toNat) :
    (Prefix.v4 ip bits hbits).masked.contains (Addr.v4 a).next = true ↔
      a.toNat + 1 < 2 ^ 32 ∧
        a.toNat + 1 < (ip >>> (32 - bits) <<< (32 - bits)).toNat + 2 ^ (32 - bits) := by
  by_cases h : a.toNat + 1 < 2 ^ 32
  · obtain ⟨hnext, hs⟩ := Addr.next_v4 h
    rw [hnext, Prefix.contains_masked_v4, hs]
    omega
  · exact ⟨fun hin => absurd hin (Prefix.not_contains_next h), fun hin => absurd hin.1 h⟩

/-- **The loop of `NewAllocator`** collects the addresses after `addr` that have a successor in
the prefix. -/
lemma mem_usableFrom {ip : BitVec 32} {bits : ℕ} {hbits : bits ≤ 32} (addr : Addr)
    (free : List Addr) {a : BitVec 32} (haddr : addr = .v4 a)
    (hbase : (ip >>> (32 - bits) <<< (32 - bits)).toNat ≤ a.toNat) (x : Addr) :
    x ∈ usableFrom (Prefix.v4 ip bits hbits).masked addr free ↔ x ∈ free ∨
      ∃ b : BitVec 32, x = .v4 b ∧ a.toNat < b.toNat ∧
        (Prefix.v4 ip bits hbits).masked.contains x.next = true := by
  fun_induction usableFrom (Prefix.v4 ip bits hbits).masked addr free generalizing a with
  | case1 addr free hin hin' ih =>
    subst haddr
    obtain ⟨hlt, hin⟩ := (Prefix.contains_next_masked_v4 hbase).mp hin
    obtain ⟨hnext, hs⟩ := Addr.next_v4 hlt
    rw [ih hnext (by omega), List.mem_append, List.mem_singleton, or_assoc]
    refine or_congr Iff.rfl ⟨?_, ?_⟩
    · rintro (rfl | ⟨b, rfl, hb, hlast⟩)
      · exact ⟨a + 1#32, hnext, by omega, hin'⟩
      · exact ⟨b, rfl, by omega, hlast⟩
    · rintro ⟨b, rfl, hb, hlast⟩
      by_cases heq : b = a + 1#32
      · exact Or.inl (by rw [hnext, heq])
      · refine Or.inr ⟨b, rfl, ?_, hlast⟩
        have hne : b.toNat ≠ (a + 1#32).toNat := fun h => heq (BitVec.eq_of_toNat_eq h)
        omega
  | case2 addr free hin hin' =>
    -- the successor of `addr` is the last address, so nothing after it is usable
    subst haddr
    obtain ⟨hlt, hin⟩ := (Prefix.contains_next_masked_v4 hbase).mp hin
    obtain ⟨hnext, hs⟩ := Addr.next_v4 hlt
    refine ⟨Or.inl, ?_⟩
    rintro (hx | ⟨b, rfl, hb, hlast⟩)
    · exact hx
    · rw [hnext, Prefix.contains_next_masked_v4 (by omega)] at hin'
      rw [Prefix.contains_next_masked_v4 (by omega)] at hlast
      omega
  | case3 addr free hin =>
    subst haddr
    refine ⟨Or.inl, ?_⟩
    rintro (hx | ⟨b, rfl, hb, hlast⟩)
    · exact hx
    · rw [Prefix.contains_next_masked_v4 hbase] at hin
      rw [Prefix.contains_next_masked_v4 (by omega)] at hlast
      omega

/-- Only an IPv4 pool with a usable address makes an allocator. -/
lemma newAllocator_eq_ok {pool : Prefix} {a : Allocator} (h : newAllocator pool = .ok a) :
    (∃ ip bits hbits, pool = .v4 ip bits hbits) ∧
      ¬ (usableFrom pool.masked pool.masked.addr.next []).length = 0 ∧
      a = ⟨fun _ => none, fun _ => none, usableFrom pool.masked pool.masked.addr.next []⟩ := by
  simp only [newAllocator] at h
  split at h
  · cases h
  rename_i hpool
  split at h
  · cases h
  rename_i hsome
  refine ⟨?_, hsome, (Except.ok.inj h).symm⟩
  cases pool with
  | invalid ip => simp [Prefix.isValid] at hpool
  | v6 ip bits hbits => simp [Prefix.addr, Addr.is6] at hpool
  | v4 ip bits hbits => exact ⟨ip, bits, hbits, rfl⟩

/-- **The free addresses of a new allocator are the usable ones.** -/
lemma newAllocator_usable {pool : Prefix} {a : Allocator} (h : newAllocator pool = .ok a)
    (addr : Addr) : addr ∈ a.free ↔ pool.Usable addr := by
  obtain ⟨⟨ip, bits, hbits, rfl⟩, hsome, rfl⟩ := newAllocator_eq_ok h
  generalize hlo : ip >>> (32 - bits) <<< (32 - bits) = lo at *
  have hmasked : (Prefix.v4 ip bits hbits).masked.addr = .v4 lo := by
    simp [Prefix.masked, Prefix.addr, hlo]
  rw [hmasked] at hsome ⊢
  by_cases hlt : lo.toNat + 1 < 2 ^ 32
  · obtain ⟨hnext, hs⟩ := Addr.next_v4 hlt
    rw [hnext, mem_usableFrom _ _ rfl (by rw [hlo]; omega)]
    simp only [List.not_mem_nil, false_or]
    constructor
    · rintro ⟨b, rfl, hb, hlast⟩
      have hbound := (Prefix.contains_next_masked_v4 (by rw [hlo]; omega)).mp hlast
      refine ⟨Prefix.contains_masked_v4.mpr (by rw [hlo] at hbound ⊢; omega), ?_, ?_, hlast⟩
      · rw [hmasked]
        rintro heq
        cases heq
        omega
      · rw [hmasked, hnext]
        rintro heq
        cases heq
        omega
    · rintro ⟨hin, hnet, hgw, hlast⟩
      cases addr with
      | invalid => simp [Prefix.masked, Prefix.contains] at hin
      | v6 b zone => simp [Prefix.masked, Prefix.contains] at hin
      | v4 b =>
        rw [hmasked] at hnet hgw
        rw [hnext] at hgw
        have hin := (Prefix.contains_masked_v4.mp hin).1
        have hne : b.toNat ≠ lo.toNat := fun h => hnet (congrArg _ (BitVec.eq_of_toNat_eq h))
        have hne' : b.toNat ≠ (lo + 1#32).toNat :=
          fun h => hgw (congrArg _ (BitVec.eq_of_toNat_eq h))
        rw [hlo] at hin
        exact ⟨b, rfl, by omega, hlast⟩
  · -- a prefix of the last address alone has no usable one
    exfalso
    have h0 : lo + 1#32 = 0#32 := by bv_omega
    apply hsome
    rw [usableFrom]
    simp [Addr.next, h0, Prefix.masked, Prefix.contains]

/-- **A new allocator is in order, and has no leases.** -/
lemma newAllocator_ok {pool : Prefix} {a : Allocator} (h : newAllocator pool = .ok a) :
    a.Ordered ∧ (∀ id, a.forward id = none) ∧ ∀ addr, a.reverse addr = none := by
  obtain ⟨⟨ip, bits, hbits, rfl⟩, -, rfl⟩ := newAllocator_eq_ok h
  obtain ⟨hnd, his4⟩ := @usableFrom_v4 _ _ hbits
    (Prefix.v4 ip bits hbits).masked.addr.next [] (by simp) List.nodup_nil
  exact ⟨⟨by simp, hnd, by simp, his4, by simp⟩, fun _ => rfl, fun _ => rfl⟩

/-- A pool of eight addresses has five usable ones. -/
lemma newAllocator_eight : newAllocator (.v4 0x0a4d0000#32 29 (by decide)) = .ok
    ⟨fun _ => none, fun _ => none, [.v4 0x0a4d0002#32, .v4 0x0a4d0003#32, .v4 0x0a4d0004#32,
      .v4 0x0a4d0005#32, .v4 0x0a4d0006#32]⟩ := by
  simp [newAllocator, Prefix.isValid, Prefix.addr, Prefix.masked, Addr.is6, usableFrom, Addr.next,
    Prefix.contains]

/-- A pool of four addresses has a single usable one. -/
lemma newAllocator_four : newAllocator (.v4 0x0a4d0000#32 30 (by decide)) = .ok
    ⟨fun _ => none, fun _ => none, [.v4 0x0a4d0002#32]⟩ := by
  simp [newAllocator, Prefix.isValid, Prefix.addr, Prefix.masked, Addr.is6, usableFrom, Addr.next,
    Prefix.contains]

end Gemina
