/-
# The pool of a new allocator

The loop of `NewAllocator` walks through a prefix and detects the broadcast address by looking
one address ahead.  What it collects is computed here for every prefix, up to those that end
with the last IPv4 address, and with it when `NewAllocator` succeeds.
-/
import Gemina.Exit.Allocator

namespace Gemina

/-- The addresses with the numbers `lo, …, lo + n - 1`. -/
def addrRange (lo n : ℕ) : List Addr := (List.range' lo n).map fun i => .v4 (BitVec.ofNat 32 i)

/-- Numbers of 32 bits are different addresses. -/
lemma addrRange_nodup {lo n : ℕ} (h : lo + n ≤ 2 ^ 32) : (addrRange lo n).Nodup := by
  refine List.Nodup.map_on ?_ List.nodup_range'
  intro i hi j hj heq
  rw [List.mem_range'_1] at hi hj
  have hnat := congrArg BitVec.toNat (Addr.v4.inj heq)
  rwa [BitVec.toNat_ofNat, BitVec.toNat_ofNat, Nat.mod_eq_of_lt (by omega),
    Nat.mod_eq_of_lt (by omega)] at hnat

lemma mem_addrRange {lo n : ℕ} (h : lo + n ≤ 2 ^ 32) {addr : Addr} :
    addr ∈ addrRange lo n ↔ ∃ b : BitVec 32, addr = .v4 b ∧ lo ≤ b.toNat ∧ b.toNat < lo + n := by
  simp only [addrRange, List.mem_map, List.mem_range'_1]
  constructor
  · rintro ⟨i, hi, rfl⟩
    refine ⟨_, rfl, ?_⟩
    rw [BitVec.toNat_ofNat, Nat.mod_eq_of_lt (by omega)]
    exact hi
  · rintro ⟨b, rfl, hb⟩
    exact ⟨b.toNat, hb, by rw [BitVec.ofNat_toNat, BitVec.setWidth_eq]⟩

/-- The number of the network address. -/
def networkNumber (ip : BitVec 32) (bits : ℕ) : ℕ := (ip >>> (32 - bits) <<< (32 - bits)).toNat

/-- A prefix does not reach beyond the last address. -/
lemma networkNumber_add_le (ip : BitVec 32) {bits : ℕ} (hbits : bits ≤ 32) :
    networkNumber ip bits + 2 ^ (32 - bits) ≤ 2 ^ 32 := by
  have hlt := ip.isLt
  have hsplit : 2 ^ 32 = 2 ^ bits * 2 ^ (32 - bits) := by
    rw [← pow_add]
    congr 1
    omega
  have hpos : 0 < 2 ^ (32 - bits) := by positivity
  have hdiv : ip.toNat / 2 ^ (32 - bits) < 2 ^ bits := by
    rw [Nat.div_lt_iff_lt_mul hpos, ← hsplit]
    exact hlt
  have hnet : networkNumber ip bits = ip.toNat / 2 ^ (32 - bits) * 2 ^ (32 - bits) := by
    rw [networkNumber, BitVec.toNat_shiftLeft, BitVec.toNat_ushiftRight,
      Nat.shiftRight_eq_div_pow, Nat.shiftLeft_eq, Nat.mod_eq_of_lt]
    exact (Nat.div_mul_le_self _ _).trans_lt hlt
  calc networkNumber ip bits + 2 ^ (32 - bits)
      = (ip.toNat / 2 ^ (32 - bits) + 1) * 2 ^ (32 - bits) := by rw [hnet]; ring
    _ ≤ 2 ^ bits * 2 ^ (32 - bits) := Nat.mul_le_mul_right _ hdiv
    _ = 2 ^ 32 := hsplit.symm

/-! ## The loop -/

section Loop

variable {ip : BitVec 32} {bits : ℕ} {hbits : bits ≤ 32}

/-- Before the last address, the loop collects what is between it and `a`. -/
lemma usableFrom_eq_addrRange {n : ℕ} (a : BitVec 32) (free : List Addr)
    (hnet : networkNumber ip bits ≤ a.toNat)
    (hlast : a.toNat + 2 + n = networkNumber ip bits + 2 ^ (32 - bits)) :
    usableFrom (Prefix.v4 ip bits hbits).masked (.v4 a) free
      = free ++ addrRange (a.toNat + 1) n := by
  have hend := networkNumber_add_le ip hbits
  have hcontains : ∀ b : BitVec 32, networkNumber ip bits ≤ b.toNat →
      ((Prefix.v4 ip bits hbits).masked.contains (Addr.v4 b).next = true ↔ b.toNat + 1 < 2 ^ 32 ∧
        b.toNat + 1 < networkNumber ip bits + 2 ^ (32 - bits)) :=
    fun b hb => Prefix.contains_next_masked_v4 hb
  -- the induction is on the number of addresses that are still to be collected
  induction n generalizing a free with
  | zero =>
    obtain ⟨hnext, hs⟩ := Addr.next_v4 (a := a) (by omega)
    have hin := (hcontains a hnet).mpr (by omega)
    have hout : ¬ (Prefix.v4 ip bits hbits).masked.contains (Addr.v4 a).next.next = true := by
      rw [hnext, hcontains _ (by omega)]
      omega
    rw [usableFrom, dif_pos hin, if_neg hout]
    simp [addrRange]
  | succ n ih =>
    obtain ⟨hnext, hs⟩ := Addr.next_v4 (a := a) (by omega)
    have hin := (hcontains a hnet).mpr (by omega)
    have hin' : (Prefix.v4 ip bits hbits).masked.contains (Addr.v4 a).next.next = true := by
      rw [hnext, hcontains _ (by omega)]
      omega
    have hcons : addrRange (a.toNat + 1) (n + 1)
        = .v4 (a + 1#32) :: addrRange (a.toNat + 1 + 1) n := by
      have hofNat : BitVec.ofNat 32 (a.toNat + 1) = a + 1#32 := by
        rw [← hs, BitVec.ofNat_toNat, BitVec.setWidth_eq]
      rw [addrRange, List.range'_succ, List.map_cons, hofNat]
      rfl
    rw [usableFrom, dif_pos hin, if_pos hin', hnext, ih _ _ (by omega) (by omega), hs, hcons]
    simp

/-- At the last address, or after it, the loop collects nothing. -/
lemma usableFrom_eq_self (addr : Addr) (free : List Addr)
    (h : ¬ (Prefix.v4 ip bits hbits).masked.contains addr.next = true) :
    usableFrom (Prefix.v4 ip bits hbits).masked addr free = free := by
  rw [usableFrom, dif_neg h]

/-- **What `NewAllocator` collects**: the addresses of the prefix without the first two and the
last. -/
lemma usableFrom_masked :
    usableFrom (Prefix.v4 ip bits hbits).masked (Prefix.v4 ip bits hbits).masked.addr.next []
      = addrRange (networkNumber ip bits + 2) (2 ^ (32 - bits) - 3) := by
  have hend := networkNumber_add_le ip hbits
  have haddr : (Prefix.v4 ip bits hbits).masked.addr
      = .v4 (ip >>> (32 - bits) <<< (32 - bits)) := rfl
  generalize hlo : ip >>> (32 - bits) <<< (32 - bits) = lo at haddr
  have hnet : networkNumber ip bits = lo.toNat := by rw [networkNumber, hlo]
  rw [haddr]
  by_cases hsize : 3 ≤ 2 ^ (32 - bits)
  · obtain ⟨hnext, hs⟩ := Addr.next_v4 (a := lo) (by omega)
    rw [hnext, usableFrom_eq_addrRange (n := 2 ^ (32 - bits) - 3) _ _ (by omega) (by omega), hs,
      List.nil_append, hnet]
  · -- one or two addresses: the loop leaves the prefix at once
    rw [Nat.sub_eq_zero_of_le (by omega), usableFrom_eq_self]
    · rfl
    · by_cases hlt : lo.toNat + 1 < 2 ^ 32
      · obtain ⟨hnext, hs⟩ := Addr.next_v4 hlt
        rw [hnext, Prefix.contains_next_masked_v4 (by rw [hlo]; omega), hs, hlo]
        omega
      · have h0 : lo + 1#32 = 0#32 := by bv_omega
        simp [Addr.next, h0, Prefix.masked, Prefix.contains]

end Loop

/-! ## The pool -/

/-- `NewAllocator` of an IPv4 prefix. -/
lemma newAllocator_v4 (ip : BitVec 32) (bits : ℕ) (hbits : bits ≤ 32) :
    newAllocator (.v4 ip bits hbits) = if bits ≤ 30 then
        .ok ⟨fun _ => none, fun _ => none,
          addrRange (networkNumber ip bits + 2) (2 ^ (32 - bits) - 3)⟩
      else .error errInvalidPool := by
  have hlen : (addrRange (networkNumber ip bits + 2) (2 ^ (32 - bits) - 3)).length = 0 ↔
      ¬ bits ≤ 30 := by
    simp only [addrRange, List.length_map, List.length_range']
    by_cases hle : bits ≤ 30
    · have hfour : 2 ^ 2 ≤ 2 ^ (32 - bits) := Nat.pow_le_pow_right (by norm_num) (by omega)
      simp only [hle, not_true_eq_false, iff_false]
      omega
    · have htwo : 2 ^ (32 - bits) ≤ 2 ^ 1 := Nat.pow_le_pow_right (by norm_num) (by omega)
      simp only [hle, not_false_eq_true, iff_true]
      omega
  simp only [newAllocator, usableFrom_masked, hlen, ite_not]
  rw [if_neg (by simp [Prefix.isValid, Prefix.addr, Addr.is6])]

/-- **The pool of a new allocator.**  `NewAllocator` succeeds exactly for the IPv4 prefixes of
length at most 30.  The free addresses are then those strictly between the address after the
network address and the last one of the prefix, each once: all but three of its addresses. -/
theorem newAllocator_pool (pool : Prefix) :
    ((∃ a, newAllocator pool = .ok a) ↔ ∃ ip bits hbits, pool = .v4 ip bits hbits ∧ bits ≤ 30) ∧
    ∀ ip bits hbits a, pool = .v4 ip bits hbits → newAllocator pool = .ok a →
      a.free.Nodup ∧ a.free.length = 2 ^ (32 - bits) - 3 ∧
      ∀ addr, addr ∈ a.free ↔ ∃ b : BitVec 32, addr = .v4 b ∧ networkNumber ip bits + 1 < b.toNat ∧
        b.toNat < networkNumber ip bits + 2 ^ (32 - bits) - 1 := by
  constructor
  · constructor
    · rintro ⟨a, ha⟩
      cases pool with
      | invalid ip => simp [newAllocator, Prefix.isValid] at ha
      | v6 ip bits hbits => simp [newAllocator, Prefix.addr, Addr.is6] at ha
      | v4 ip bits hbits =>
        refine ⟨ip, bits, hbits, rfl, ?_⟩
        by_contra hgt
        rw [newAllocator_v4, if_neg hgt] at ha
        cases ha
    · rintro ⟨ip, bits, hbits, rfl, hle⟩
      exact ⟨_, by rw [newAllocator_v4, if_pos hle]⟩
  · rintro ip bits hbits a rfl ha
    have hend := networkNumber_add_le ip hbits
    rw [newAllocator_v4] at ha
    split at ha
    · rename_i hle
      have hfour : 2 ^ 2 ≤ 2 ^ (32 - bits) := Nat.pow_le_pow_right (by norm_num) (by omega)
      cases ha
      refine ⟨addrRange_nodup (by omega), by simp [addrRange], fun addr => ?_⟩
      rw [mem_addrRange (by omega)]
      refine exists_congr fun b => and_congr_right fun _ => ?_
      omega
    · cases ha

/-- The whole address space has all but three of its addresses free. -/
theorem newAllocator_pool_all :
    ∃ a, newAllocator (.v4 0xffffffff#32 0 (by decide)) = .ok a ∧ a.free.length = 2 ^ 32 - 3 := by
  obtain ⟨a, ha⟩ := (newAllocator_pool (.v4 0xffffffff#32 0 (by decide))).1.mpr
    ⟨_, _, _, rfl, by decide⟩
  exact ⟨a, ha, ((newAllocator_pool _).2 _ _ _ a rfl ha).2.1⟩

end Gemina
