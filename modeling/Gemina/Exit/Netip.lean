/-
# Addresses and prefixes

What the exit path uses of Go's `net/netip`: addresses with their successor, and prefixes with
their base address and membership.
-/
import Gemina.Protocol

namespace Gemina

/-- `netip.Addr`.  The zero value is not a valid address. -/
inductive Addr where
  | invalid
  | v4 (a : BitVec 32)
  /-- An IPv6 address, IPv4-mapped or not, with its zone. -/
  | v6 (a : BitVec 128) (zone : Bytes)
deriving DecidableEq

namespace Addr

/-- `Addr.IsValid`. -/
def isValid : Addr → Bool
  | invalid => false
  | _ => true

/-- `Addr.Is4`. -/
def is4 : Addr → Bool
  | v4 _ => true
  | _ => false

/-- `Addr.Is6`. -/
def is6 : Addr → Bool
  | v6 _ _ => true
  | _ => false

/-- `Addr.Next`: the successor, or the invalid address after the last. -/
def next : Addr → Addr
  | invalid => invalid
  | v4 a => if a + 1#32 = 0#32 then invalid else v4 (a + 1#32)
  | v6 a zone => if a + 1#128 = 0#128 then invalid else v6 (a + 1#128) zone

/-- `netip.AddrFrom4`. -/
def from4 (b : ByteArrayN 4) : Addr :=
  v4 (BitVec.ofNat 32 (b.1.foldl (fun n c => 256 * n + c.toNat) 0))

/-- `Addr.As4`.  The code calls it for IPv4 addresses only; on others it panics. -/
def as4 : Addr → ByteArrayN 4
  | v4 a => ⟨[⟨(a >>> 24).setWidth 8⟩, ⟨(a >>> 16).setWidth 8⟩, ⟨(a >>> 8).setWidth 8⟩,
      ⟨a.setWidth 8⟩], rfl⟩
  | _ => ByteArrayN.zero 4

/-- The four bytes of an IPv4 address say which it is. -/
lemma from4_as4 {a : Addr} (h : a.is4 = true) : from4 a.as4 = a := by
  cases a with
  | invalid => simp [is4] at h
  | v6 a zone => simp [is4] at h
  | v4 a =>
    have hlt := a.isLt
    refine congrArg v4 (BitVec.eq_of_toNat_eq ?_)
    rw [BitVec.toNat_ofNat]
    change (256 * (256 * (256 * (256 * 0 + ((a >>> 24).setWidth 8).toNat)
      + ((a >>> 16).setWidth 8).toNat) + ((a >>> 8).setWidth 8).toNat)
      + (a.setWidth 8).toNat) % 2 ^ 32 = a.toNat
    simp only [BitVec.toNat_setWidth, BitVec.toNat_ushiftRight, Nat.shiftRight_eq_div_pow]
    omega

/-- How many addresses are left, counting this one. -/
def remaining : Addr → ℕ
  | invalid => 0
  | v4 a => 2 ^ 32 - a.toNat
  | v6 a _ => 2 ^ 128 - a.toNat

/-- The successor comes closer to the end, where there is one. -/
lemma remaining_next {a : Addr} (h : a.next.isValid = true) : a.next.remaining < a.remaining := by
  cases a with
  | invalid => simp [next, isValid] at h
  | v4 a =>
    by_cases h0 : a + 1#32 = 0#32
    · simp [next, isValid, h0] at h
    · have hlt := a.isLt
      have hs : (a + 1#32).toNat = a.toNat + 1 := by bv_omega
      simp only [next, h0, if_false, remaining, hs]
      omega
  | v6 a zone =>
    by_cases h0 : a + 1#128 = 0#128
    · simp [next, isValid, h0] at h
    · have hlt := a.isLt
      have hs : (a + 1#128).toNat = a.toNat + 1 := by bv_omega
      simp only [next, h0, if_false, remaining, hs]
      omega

end Addr

/-- `netip.AddrPort`. -/
structure AddrPort where
  addr : Addr
  port : UInt16
deriving DecidableEq

/-- `netip.Prefix`.  A prefix whose length does not fit its address is invalid; a prefix has
no zone. -/
inductive Prefix where
  | invalid (ip : Addr)
  | v4 (ip : BitVec 32) (bits : ℕ) (hbits : bits ≤ 32)
  | v6 (ip : BitVec 128) (bits : ℕ) (hbits : bits ≤ 128)

namespace Prefix

/-- `Prefix.IsValid`. -/
def isValid : Prefix → Bool
  | invalid _ => false
  | _ => true

/-- `Prefix.Addr`. -/
def addr : Prefix → Addr
  | invalid ip => ip
  | v4 ip _ _ => .v4 ip
  | v6 ip _ _ => .v6 ip []

/-- `Prefix.Masked`: the same prefix, with the bits after its length cleared. -/
def masked : Prefix → Prefix
  | invalid _ => invalid .invalid
  | v4 ip bits h => v4 (ip >>> (32 - bits) <<< (32 - bits)) bits h
  | v6 ip bits h => v6 (ip >>> (128 - bits) <<< (128 - bits)) bits h

/-- `Prefix.Contains`. -/
def contains : Prefix → Addr → Bool
  | v4 ip bits _, .v4 a => (a ^^^ ip) >>> (32 - bits) = 0#32
  | v6 ip bits _, .v6 a zone => zone = [] && decide ((a ^^^ ip) >>> (128 - bits) = 0#128)
  | _, _ => false

lemma isValid_of_contains {p : Prefix} {a : Addr} (h : p.contains a = true) :
    a.isValid = true := by
  cases a with
  | invalid => cases p <;> simp [contains] at h
  | v4 a => rfl
  | v6 a zone => rfl

/-- An IPv4 address lies in a masked prefix if it is at most the size of the prefix above the
base address. -/
lemma contains_masked_v4 {ip a : BitVec 32} {bits : ℕ} {hbits : bits ≤ 32} :
    (v4 ip bits hbits).masked.contains (.v4 a) = true ↔
      (ip >>> (32 - bits) <<< (32 - bits)).toNat ≤ a.toNat ∧
        a.toNat < (ip >>> (32 - bits) <<< (32 - bits)).toNat + 2 ^ (32 - bits) := by
  generalize hk : 32 - bits = k
  have hpos : 0 < 2 ^ k := by positivity
  have hlt := ip.isLt
  -- the base address is the largest multiple of the size below `ip`
  have hbase : (ip >>> k <<< k).toNat = ip.toNat / 2 ^ k * 2 ^ k := by
    rw [BitVec.toNat_shiftLeft, BitVec.toNat_ushiftRight, Nat.shiftRight_eq_div_pow,
      Nat.shiftLeft_eq, Nat.mod_eq_of_lt]
    exact (Nat.div_mul_le_self _ _).trans_lt hlt
  have hdiv : ip.toNat / 2 ^ k * 2 ^ k / 2 ^ k = ip.toNat / 2 ^ k := Nat.mul_div_cancel _ hpos
  have hcontains : (v4 ip bits hbits).masked.contains (.v4 a) = true ↔
      a.toNat / 2 ^ k = ip.toNat / 2 ^ k := by
    simp only [masked, contains, hk, decide_eq_true_eq]
    rw [← BitVec.toNat_inj, BitVec.toNat_ushiftRight, BitVec.toNat_xor, Nat.shiftRight_xor_distrib,
      BitVec.toNat_ofNat, Nat.zero_mod, Nat.xor_eq_zero_iff, Nat.shiftRight_eq_div_pow,
      Nat.shiftRight_eq_div_pow, hbase, hdiv]
  rw [hcontains, hbase, Nat.div_eq_iff hpos]
  omega

end Prefix
end Gemina
