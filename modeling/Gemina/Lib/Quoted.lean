/-
# Quoted strings

Byte strings between double quotes.  A backslash, a double quote and the end of a line are written
as two characters that start with a backslash, so that the closing quote can be told from the
string.
-/
import Mathlib

namespace Quoted

/-- A byte inside of quotes. -/
def escapeByte (c : UInt8) : List UInt8 :=
  if c = 92 then [92, 92] else if c = 34 then [92, 34] else if c = 10 then [92, 110] else [c]

/-- A string inside of quotes. -/
def escape (s : List UInt8) : List UInt8 := s.flatMap escapeByte

/-- Read a string up to the closing quote: the string, and what follows the quote. -/
def unescape : List UInt8 → Option (List UInt8 × List UInt8)
  | [] => none
  | 34 :: s => some ([], s)
  | [92] => none
  | 92 :: c :: s =>
    if c = 92 then (unescape s).map fun r => (92 :: r.1, r.2)
    else if c = 34 then (unescape s).map fun r => (34 :: r.1, r.2)
    else if c = 110 then (unescape s).map fun r => (10 :: r.1, r.2)
    else none
  | c :: s => (unescape s).map fun r => (c :: r.1, r.2)

/-- **A string is read as it was written.** -/
lemma unescape_escape (s rest : List UInt8) :
    unescape (escape s ++ 34 :: rest) = some (s, rest) := by
  induction s with
  | nil => rfl
  | cons c s ih =>
    rw [escape, List.flatMap_cons, ← escape, List.append_assoc, escapeByte]
    by_cases h92 : c = 92
    · subst h92
      simp [unescape, ih]
    · by_cases h34 : c = 34
      · subst h34
        simp [unescape, ih]
      · by_cases h10 : c = 10
        · subst h10
          simp [unescape, ih]
        · simp only [h92, h34, h10, if_false, List.singleton_append]
          rw [unescape, ih]
          · rfl
          · exact fun h => h34 h
          · exact fun h => absurd h h92
          · exact fun _ _ h => absurd h h92

/-- An escaped string stays on its line. -/
lemma newline_notMem_escape (s : List UInt8) : 10 ∉ escape s := by
  intro h
  obtain ⟨c, -, hc⟩ := List.mem_flatMap.mp h
  rw [escapeByte] at hc
  split_ifs at hc with h92 h34 h10
  · simp at hc
  · simp at hc
  · simp at hc
  · rw [List.mem_singleton] at hc
    exact h10 hc.symm

/-- A string without any of the three characters is written as it is. -/
lemma escape_eq_self {s : List UInt8} (h : ∀ c ∈ s, c ≠ 92 ∧ c ≠ 34 ∧ c ≠ 10) : escape s = s := by
  induction s with
  | nil => rfl
  | cons c s ih =>
    obtain ⟨h92, h34, h10⟩ := h c (by simp)
    rw [escape, List.flatMap_cons, ← escape, ih fun d hd => h d (List.mem_cons_of_mem _ hd),
      escapeByte, if_neg h92, if_neg h34, if_neg h10]
    rfl

end Quoted
