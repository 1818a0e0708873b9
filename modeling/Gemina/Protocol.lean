/-
# Packet identity

The identity that every datagram of the data plane carries (`internal/protocol`): a 16-byte
session id and a 64-bit packet number.  Byte strings are lists of bytes; a session id is a
byte string that carries the proof of its length.
-/
import Mathlib

namespace Gemina

/-- A Go `[]byte` or `string`. -/
abbrev Bytes : Type := List UInt8

/-- An error value, identified by its text. -/
structure GoError where
  /-- The text that `Error()` returns. -/
  text : String
deriving DecidableEq, Repr

/-- `fmt.Errorf("%w: %w", outer, inner)`. -/
def GoError.wrap (outer inner : GoError) : GoError := ⟨outer.text ++ ": " ++ inner.text⟩

/-- A fixed-size Go array `[n]byte`. -/
def ByteArrayN (n : ℕ) : Type := {b : Bytes // b.length = n}

instance (n : ℕ) : DecidableEq (ByteArrayN n) := inferInstanceAs (DecidableEq (Subtype _))

namespace ByteArrayN

variable {n : ℕ}

/-- `copy(a[:], src)` into a fresh (zero) array: a short source leaves trailing zeros, a
long one is cut. -/
def copy (n : ℕ) (src : Bytes) : ByteArrayN n :=
  ⟨(src ++ List.replicate n 0).take n, by simp⟩

/-- The zero value of the array type. -/
def zero (n : ℕ) : ByteArrayN n := ⟨List.replicate n 0, by simp⟩

@[ext] lemma ext {a b : ByteArrayN n} (h : a.1 = b.1) : a = b := Subtype.ext h

@[simp] lemma length_val (a : ByteArrayN n) : a.1.length = n := a.2

/-- Copying a source of exactly the right length loses nothing. -/
lemma copy_val {src : Bytes} (h : src.length = n) : (copy n src).1 = src := by
  simp [copy, ← h]

@[simp] lemma copy_self (a : ByteArrayN n) : copy n a.1 = a := ext (copy_val a.2)

end ByteArrayN

/-- `protocol.SessionIDSize`. -/
def sessionIDSize : ℕ := 16

/-- `protocol.SessionID`. -/
abbrev SessionID : Type := ByteArrayN sessionIDSize

/-- `NewSessionID`. -/
def newSessionID (raw : Bytes) : Except GoError SessionID :=
  if raw.length ≠ sessionIDSize then
    .error ⟨"session id must be 16 bytes, got " ++ toString raw.length⟩
  else .ok (ByteArrayN.copy _ raw)

/-- `SessionID.IsZero`. -/
def SessionID.isZero (id : SessionID) : Bool := id.1.all (· == 0)

/-- `protocol.PacketNumber`. -/
abbrev PacketNumber : Type := UInt64

/-- `protocol.PacketID`. -/
structure PacketID where
  session : SessionID
  number : PacketNumber
deriving DecidableEq

/-- `PacketID.Valid`. -/
def PacketID.valid (id : PacketID) : Bool := !id.session.isZero && decide (0 < id.number)

lemma SessionID.isZero_iff {id : SessionID} : id.isZero = true ↔ id = ByteArrayN.zero _ := by
  constructor
  · intro h
    refine ByteArrayN.ext ?_
    rw [SessionID.isZero, List.all_eq_true] at h
    exact List.eq_replicate_iff.mpr ⟨id.2, fun b hb => by simpa using h b hb⟩
  · rintro rfl
    simp [SessionID.isZero, ByteArrayN.zero]

lemma PacketID.valid_iff {id : PacketID} :
    id.valid = true ↔ id.session.isZero = false ∧ id.number ≠ 0 := by
  have hpos : 0 < id.number ↔ id.number ≠ 0 := by
    rw [UInt64.lt_iff_toNat_lt, ne_eq, ← UInt64.toNat_inj, UInt64.toNat_zero]
    omega
  simp [PacketID.valid, hpos]

/-- The numbers that go with one session. -/
def numbersFor (l : List PacketID) (id : SessionID) : List PacketNumber :=
  (l.filter fun p => p.session = id).map PacketID.number

lemma numbersFor_concat_self (l : List PacketID) (p : PacketID) :
    numbersFor (l ++ [p]) p.session = numbersFor l p.session ++ [p.number] := by
  simp [numbersFor]

lemma numbersFor_concat_of_ne (l : List PacketID) {p : PacketID} {id : SessionID}
    (h : id ≠ p.session) : numbersFor (l ++ [p]) id = numbersFor l id := by
  simp [numbersFor, Ne.symm h]

end Gemina
