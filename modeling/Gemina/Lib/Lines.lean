/-
# Lines from a buffer

A reader of lines that collects each line in a buffer of a fixed size.  It stops, without a line,
when the buffer is full and no end of a line is in it.  What stands after the last end of a line is
a line too, unless it is empty.
-/
import Mathlib

namespace Lines

variable {α : Type*} [DecidableEq α] {nl : α} {limit : ℕ} {cur s rest : List α}

/-- The lines of `s`, of which `cur` has been collected already, and whether the reader has come to
the end. -/
def scanFrom (nl : α) (limit : ℕ) : List α → List α → List (List α) × Bool
  | cur, [] => (if cur = [] then [] else [cur], true)
  | cur, c :: s =>
    if c = nl then
      let r := scanFrom nl limit [] s
      (cur :: r.1, r.2)
    else if limit ≤ cur.length + 1 then ([], false)
    else scanFrom nl limit (cur ++ [c]) s

/-- The lines of `s`, and whether the reader has come to the end. -/
def scan (nl : α) (limit : ℕ) (s : List α) : List (List α) × Bool := scanFrom nl limit [] s

/-! ## More input -/

/-- What stands behind a line that is too long is not read. -/
lemma scanFrom_append_of_stopped (h : (scanFrom nl limit cur s).2 = false) :
    scanFrom nl limit cur (s ++ rest) = scanFrom nl limit cur s := by
  induction s generalizing cur with
  | nil => simp [scanFrom] at h
  | cons c s ih =>
    rw [List.cons_append, scanFrom, scanFrom]
    rw [scanFrom] at h
    by_cases hc : c = nl
    · rw [if_pos hc] at h
      rw [if_pos hc, if_pos hc, ih h]
    · rw [if_neg hc] at h
      rw [if_neg hc, if_neg hc]
      by_cases hfull : limit ≤ cur.length + 1
      · rw [if_pos hfull, if_pos hfull]
      · rw [if_neg hfull] at h
        rw [if_neg hfull, if_neg hfull, ih h]

/-- The end of a line closes the last line, or makes an empty one. -/
lemma scanFrom_append_of_ended (h : (scanFrom nl limit cur s).2 = true) :
    ∃ blank, (blank = [] ∨ blank = [[]]) ∧
      scanFrom nl limit cur (s ++ nl :: rest)
        = ((scanFrom nl limit cur s).1 ++ blank ++ (scan nl limit rest).1,
          (scan nl limit rest).2) := by
  induction s generalizing cur with
  | nil =>
    by_cases hcur : cur = []
    · exact ⟨[[]], Or.inr rfl, by simp [scanFrom, scan, hcur]⟩
    · exact ⟨[], Or.inl rfl, by simp [scanFrom, scan, hcur]⟩
  | cons c s ih =>
    rw [scanFrom] at h
    by_cases hc : c = nl
    · rw [if_pos hc] at h
      obtain ⟨blank, hblank, heq⟩ := ih h
      refine ⟨blank, hblank, ?_⟩
      rw [List.cons_append, scanFrom, if_pos hc, heq, scanFrom, if_pos hc]
      simp
    · rw [if_neg hc] at h
      by_cases hfull : limit ≤ cur.length + 1
      · rw [if_pos hfull] at h
        cases h
      · rw [if_neg hfull] at h
        obtain ⟨blank, hblank, heq⟩ := ih h
        refine ⟨blank, hblank, ?_⟩
        rw [List.cons_append, scanFrom, if_neg hc, if_neg hfull, heq, scanFrom, if_neg hc,
          if_neg hfull]

/-! ## The lines of the text -/

lemma scanFrom_eq_scan_append (hcur : nl ∉ cur) (hlen : cur.length < limit) :
    scanFrom nl limit cur s = scan nl limit (cur ++ s) := by
  induction cur using List.reverseRecOn generalizing s with
  | nil => rfl
  | append_singleton cur c ih =>
    have hc : c ≠ nl := by
      rintro rfl
      simp at hcur
    have hfull : ¬ limit ≤ cur.length + 1 := by
      simp only [List.length_append, List.length_singleton] at hlen
      omega
    rw [List.append_assoc, List.singleton_append, ← ih (fun h => hcur (by simp [h])) (by omega),
      scanFrom, if_neg hc, if_neg hfull]

/-- A line that fits is read. -/
lemma scan_line {line : List α} (hline : nl ∉ line) (hlen : line.length < limit) :
    scan nl limit (line ++ nl :: rest)
      = (line :: (scan nl limit rest).1, (scan nl limit rest).2) := by
  rw [← scanFrom_eq_scan_append hline hlen, scanFrom, if_pos rfl]
  rfl

/-- A line that fits is read, if it is the last one. -/
lemma scan_last {line : List α} (hline : nl ∉ line) (hlen : line.length < limit) :
    scan nl limit line = (if line = [] then [] else [line], true) := by
  have h := @scanFrom_eq_scan_append _ _ nl limit line [] hline hlen
  rw [List.append_nil] at h
  rw [← h, scanFrom]

/-- A line that does not fit stops the reader. -/
lemma scanFrom_long {line : List α} (hline : nl ∉ line) (hcur : cur.length < limit)
    (hlen : limit ≤ cur.length + line.length) :
    scanFrom nl limit cur (line ++ rest) = ([], false) := by
  induction line generalizing cur with
  | nil =>
    rw [List.length_nil] at hlen
    omega
  | cons c line ih =>
    have hc : c ≠ nl := fun hc => hline (by simp [hc])
    rw [List.cons_append, scanFrom, if_neg hc]
    split
    · rfl
    · refine ih (fun h => hline (List.mem_cons_of_mem _ h)) ?_ ?_
      · rw [List.length_append, List.length_singleton]
        omega
      · rw [List.length_cons] at hlen
        rw [List.length_append, List.length_singleton]
        omega

/-- **The reader comes to the end if every line fits into the buffer.**  It has then read all lines
of the text, but for an empty one at the end. -/
lemma scan_splitOn (hpos : 0 < limit) (s : List α) :
    ((scan nl limit s).2 = true ↔ ∀ line ∈ s.splitOn nl, line.length < limit) ∧
      ((scan nl limit s).2 = true →
        s.splitOn nl = (scan nl limit s).1 ∨ s.splitOn nl = (scan nl limit s).1 ++ [[]]) := by
  -- induction on the length, line by line
  induction hn : s.length using Nat.strong_induction_on generalizing s with
  | _ n ih =>
    by_cases hnl : nl ∈ s
    · obtain ⟨line, rest, rfl, hline⟩ := List.eq_append_cons_of_mem hnl
      rw [List.splitOn_append_cons_self_of_not_mem hline]
      by_cases hlen : line.length < limit
      · obtain ⟨hended, hlines⟩ := ih rest.length (by simp at hn; omega) rest rfl
        rw [scan_line hline hlen]
        simp only [List.mem_cons, forall_eq_or_imp, hlen, true_and, List.cons_append,
          List.cons.injEq]
        exact ⟨hended, hlines⟩
      · have hstop : scan nl limit (line ++ nl :: rest) = ([], false) :=
          scanFrom_long hline hpos (by simpa using hlen)
        rw [hstop]
        simp [hlen]
    · rw [List.splitOn_eq_singleton hnl]
      by_cases hlen : s.length < limit
      · rw [scan_last hnl hlen]
        by_cases hs : s = []
        · simp [hs, hpos]
        · simp [hs, hlen]
      · have hstop := @scanFrom_long _ _ nl limit [] [] s hnl hpos (by simpa using hlen)
        rw [List.append_nil] at hstop
        rw [scan, hstop]
        simpa using hlen

end Lines
