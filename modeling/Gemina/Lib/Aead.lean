/-
# Authenticated encryption with an ideal receiver

An AEAD cipher seals a plaintext, under a key and a nonce and together with cleartext that
is only authenticated, to a ciphertext that it can open again.  The ideal receiver opens
exactly what was sealed: it looks the ciphertext up in the log of all seal operations made
so far.
-/
import Mathlib

universe u

/-- The two operations of an AEAD cipher, over any types of keys `K`, nonces `N`, authenticated
cleartexts `A`, plaintexts `P` and ciphertexts `C`. -/
structure Aead (K N A P C : Type u) where
  /-- Encrypt and authenticate. -/
  aeadSeal : K → N → P → A → C
  /-- Authenticate and decrypt. -/
  aeadOpen : K → N → C → A → Option P

namespace Aead

variable {K N A P C : Type u}

/-- Opening what was sealed, with the same key, nonce and cleartext, gives the plaintext. -/
def Correct (E : Aead K N A P C) : Prop :=
  ∀ k n p a, E.aeadOpen k n (E.aeadSeal k n p a) a = some p

lemma Correct.seal_inj {E : Aead K N A P C} (hE : E.Correct) {k : K} {n : N} {a : A} {p q : P}
    (h : E.aeadSeal k n p a = E.aeadSeal k n q a) : p = q := by
  have hp := hE k n p a
  rw [h, hE k n q a] at hp
  exact (Option.some_injective _ hp).symm

/-- One seal operation: its inputs. -/
structure Sealed (K N A P : Type u) where
  key : K
  nonce : N
  aad : A
  plaintext : P

variable [DecidableEq K] [DecidableEq N] [DecidableEq A] [DecidableEq C]

/-- The seal operation `r` produced this triple under this key. -/
def Produced (E : Aead K N A P C) (r : Sealed K N A P) (k : K) (n : N) (c : C) (a : A) : Prop :=
  r.key = k ∧ r.nonce = n ∧ r.aad = a ∧ E.aeadSeal r.key r.nonce r.plaintext r.aad = c

instance (E : Aead K N A P C) (r : Sealed K N A P) (k : K) (n : N) (c : C) (a : A) :
    Decidable (E.Produced r k n c a) := inferInstanceAs (Decidable (_ ∧ _))

/-- The ideal receiver for the seal operations `log`: the sender is the cipher's own. -/
def ideal (E : Aead K N A P C) (log : List (Sealed K N A P)) : Aead K N A P C where
  aeadSeal := E.aeadSeal
  aeadOpen k n c a := (log.find? fun r => E.Produced r k n c a).map Sealed.plaintext

variable {E : Aead K N A P C} {log : List (Sealed K N A P)}
  {k : K} {n : N} {c : C} {a : A} {p : P}

/-- What the ideal receiver opens was sealed. -/
lemma mem_of_ideal_open (h : (E.ideal log).aeadOpen k n c a = some p) :
    ∃ r ∈ log, E.Produced r k n c a ∧ r.plaintext = p := by
  obtain ⟨r, hr, hp⟩ := Option.map_eq_some_iff.mp h
  exact ⟨r, List.mem_of_find?_eq_some hr, by simpa using List.find?_some hr, hp⟩

/-- What was sealed is opened, to a plaintext that was sealed to this very triple. -/
lemma ideal_open_of_mem {r : Sealed K N A P} (hr : r ∈ log) (hprod : E.Produced r k n c a) :
    ∃ r' ∈ log, E.Produced r' k n c a ∧ (E.ideal log).aeadOpen k n c a = some r'.plaintext := by
  rcases hfind : log.find? fun r => E.Produced r k n c a with _ | r'
  · rw [List.find?_eq_none] at hfind
    exact absurd hprod (by simpa using hfind r hr)
  · exact ⟨r', List.mem_of_find?_eq_some hfind, by simpa using List.find?_some hfind,
      by simp [ideal, hfind]⟩

/-- A correct cipher seals different plaintexts to different triples, so the ideal receiver
returns the plaintext of the seal operation. -/
lemma ideal_open_seal (hE : E.Correct) {r : Sealed K N A P} (hr : r ∈ log) :
    (E.ideal log).aeadOpen r.key r.nonce (E.aeadSeal r.key r.nonce r.plaintext r.aad) r.aad
      = some r.plaintext := by
  obtain ⟨r', -, ⟨hk, hn, ha, hc⟩, hp⟩ :=
    ideal_open_of_mem (E := E) hr ⟨rfl, rfl, rfl, rfl⟩
  rw [hk, hn, ha] at hc
  rw [hp, hE.seal_inj hc]

end Aead
