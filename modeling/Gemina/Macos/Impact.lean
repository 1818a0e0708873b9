/-
# The figures of a session

The figures that the macOS app shows of a session (`computeImpact` of
`apps/macos/Core/Impact.swift`).  A session is a list of segments with the number of paths that were
up.  The function reads them once; it remembers the number before, whether a drop is being survived,
and for how long.

The figures are compared with their definition by blocks: a survived run is a maximal block of
segments on one path behind a segment with two or more.  Durations are exact.
-/
import Gemina.Lib.Blocks

namespace Gemina
namespace Macos

/-- `ImpactSegment`. -/
structure ImpactSegment where
  duration : ℚ
  upCount : ℤ
deriving DecidableEq

/-- `ImpactStats`. -/
structure ImpactStats where
  sessionDuration : ℚ := 0
  protectedDuration : ℚ := 0
  outageAbsorbed : ℚ := 0
  failoversSurvived : ℤ := 0
  longestDropSurvived : ℚ := 0
  protectedFraction : ℚ := 0
deriving DecidableEq

/-- The variables of `computeImpact`. -/
structure ImpactScan where
  stats : ImpactStats := {}
  previousUp : ℤ := 0
  inSurvivedDrop : Bool := false
  currentDropRun : ℚ := 0

/-- One turn of the loop of `computeImpact`. -/
def scanSegment (scan : ImpactScan) (segment : ImpactSegment) : ImpactScan :=
  let stats := { scan.stats with
    sessionDuration := scan.stats.sessionDuration + segment.duration }
  if 2 ≤ segment.upCount then
    { stats := { stats with protectedDuration := stats.protectedDuration + segment.duration }
      previousUp := segment.upCount
      inSurvivedDrop := false
      currentDropRun := 0 }
  else if segment.upCount = 1 then
    let (stats, inSurvivedDrop, currentDropRun) :=
      if 2 ≤ scan.previousUp then
        ({ stats with failoversSurvived := stats.failoversSurvived + 1 }, true, segment.duration)
      else if scan.inSurvivedDrop then (stats, true, scan.currentDropRun + segment.duration)
      else (stats, scan.inSurvivedDrop, scan.currentDropRun)
    let stats :=
      if inSurvivedDrop then
        { stats with
          outageAbsorbed := stats.outageAbsorbed + segment.duration
          longestDropSurvived := max stats.longestDropSurvived currentDropRun }
      else stats
    { stats := stats
      previousUp := segment.upCount
      inSurvivedDrop := inSurvivedDrop
      currentDropRun := currentDropRun }
  else
    { stats := stats
      previousUp := segment.upCount
      inSurvivedDrop := false
      currentDropRun := 0 }

/-- `computeImpact`. -/
def computeImpact (segments : List ImpactSegment) : ImpactStats :=
  let stats := (segments.foldl scanSegment {}).stats
  if stats.sessionDuration > 0 then
    { stats with protectedFraction := stats.protectedDuration / stats.sessionDuration }
  else stats

/-! ## The definition by blocks -/

/-- One path is up. -/
def OnePath (s : ImpactSegment) : Prop := s.upCount = 1

/-- Two or more paths are up. -/
def Redundant (s : ImpactSegment) : Prop := 2 ≤ s.upCount

instance : DecidablePred Redundant := fun s => inferInstanceAs (Decidable (2 ≤ s.upCount))

/-- The survived runs: the maximal blocks on one path behind a segment with two or more, each with
the position where it starts and the one where it ends. -/
noncomputable def survivedRuns (segments : List ImpactSegment) : Finset (ℕ × ℕ) :=
  Blocks.blocks OnePath Redundant segments

/-- The duration of a run. -/
def runDuration (segments : List ImpactSegment) (run : ℕ × ℕ) : ℚ :=
  Blocks.total ImpactSegment.duration segments run

/-! ## The loop -/

/-- What the variables are after the segments. -/
structure ImpactScan.Holds (scan : ImpactScan) (segments : List ImpactSegment) : Prop where
  session : scan.stats.sessionDuration = (segments.map ImpactSegment.duration).sum
  redundant : scan.stats.protectedDuration
    = ((segments.filter Redundant).map ImpactSegment.duration).sum
  survived : scan.stats.failoversSurvived = (survivedRuns segments).card
  absorbed : scan.stats.outageAbsorbed = ∑ run ∈ survivedRuns segments, runDuration segments run
  longest : IsGreatest (Blocks.weights OnePath Redundant ImpactSegment.duration segments)
    scan.stats.longestDropSurvived
  /-- A drop starts now if the segment before was redundant. -/
  starts : Blocks.Open OnePath Redundant segments segments.length ↔ 2 ≤ scan.previousUp
  /-- A drop goes on if it is being survived. -/
  goesOn : (∃ i < segments.length, Blocks.Open OnePath Redundant segments i) ↔
    scan.inSurvivedDrop = true
  run : ∀ i < segments.length, Blocks.Open OnePath Redundant segments i →
    scan.currentDropRun = runDuration segments (i, segments.length)

namespace ImpactScan

variable {scan : ImpactScan} {segments : List ImpactSegment} {s : ImpactSegment}

lemma holds_nil : Holds {} [] where
  session := rfl
  redundant := rfl
  survived := by simp [survivedRuns, Blocks.blocks_nil]
  absorbed := by simp [survivedRuns, Blocks.blocks_nil]
  longest := by simp [Blocks.weights, Blocks.blocks_nil]
  starts := by simp [Blocks.not_open_nil]
  goesOn := by simp
  run := by simp

lemma Holds.session_concat (h : Holds scan segments) :
    scan.stats.sessionDuration + s.duration
      = ((segments ++ [s]).map ImpactSegment.duration).sum := by
  simp [h.session]

lemma Holds.redundant_concat (h : Holds scan segments) (hs : ¬ Redundant s) :
    scan.stats.protectedDuration
      = (((segments ++ [s]).filter Redundant).map ImpactSegment.duration).sum := by
  simp [h.redundant, List.filter_append, hs]

/-- What is survived so far stays if there is no new run and none that goes on. -/
lemma Holds.concat_of_eq (h : Holds scan segments)
    (heq : survivedRuns (segments ++ [s]) = survivedRuns segments) :
    (scan.stats.failoversSurvived : ℤ) = (survivedRuns (segments ++ [s])).card ∧
      scan.stats.outageAbsorbed
        = ∑ run ∈ survivedRuns (segments ++ [s]), runDuration (segments ++ [s]) run ∧
      IsGreatest (Blocks.weights OnePath Redundant ImpactSegment.duration (segments ++ [s]))
        scan.stats.longestDropSurvived := by
  refine ⟨by rw [heq, h.survived], ?_, ?_⟩
  · rw [h.absorbed]
    exact (Blocks.sum_total_concat_of_eq ImpactSegment.duration heq).symm
  · rw [Blocks.weights_concat_of_eq heq]
    exact h.longest

/-- A segment with two or more paths, or with none, ends a drop. -/
lemma Holds.concat_of_not (h : Holds scan segments) (hs : ¬ OnePath s) :
    Holds (scanSegment scan s) (segments ++ [s]) := by
  obtain ⟨hsurvived, habsorbed, hlongest⟩ := h.concat_of_eq (Blocks.blocks_concat_of_not hs)
  have hopen : ∀ i, Blocks.Open OnePath Redundant (segments ++ [s]) i ↔
      i = segments.length + 1 ∧ Redundant s := fun i => Blocks.open_concat_of_not hs
  have hlen : (segments ++ [s]).length = segments.length + 1 := by simp
  have hstarts : Blocks.Open OnePath Redundant (segments ++ [s]) (segments ++ [s]).length ↔
      2 ≤ s.upCount := by
    rw [hopen, hlen]
    exact ⟨fun h => h.2, fun h => ⟨rfl, h⟩⟩
  have hnone : ∀ i < (segments ++ [s]).length,
      ¬ Blocks.Open OnePath Redundant (segments ++ [s]) i := by
    intro i hi hi'
    have := ((hopen i).mp hi').1
    omega
  have hgoesOn : (∃ i < (segments ++ [s]).length,
      Blocks.Open OnePath Redundant (segments ++ [s]) i) ↔ false = true :=
    iff_of_false (fun ⟨i, hi, hi'⟩ => hnone i hi hi') Bool.false_ne_true
  by_cases hred : Redundant s
  · have hscan : scanSegment scan s =
        { stats := { scan.stats with
            sessionDuration := scan.stats.sessionDuration + s.duration
            protectedDuration := scan.stats.protectedDuration + s.duration }
          previousUp := s.upCount
          inSurvivedDrop := false
          currentDropRun := 0 } := by
      have hup : 2 ≤ s.upCount := hred
      simp only [scanSegment, hup, if_true]
    rw [hscan]
    refine ⟨h.session_concat, ?_, hsurvived, habsorbed, hlongest, hstarts, hgoesOn,
      fun i hi hi' => absurd hi' (hnone i hi)⟩
    simp [h.redundant, List.filter_append, hred]
  · have hscan : scanSegment scan s =
        { stats := { scan.stats with
            sessionDuration := scan.stats.sessionDuration + s.duration }
          previousUp := s.upCount
          inSurvivedDrop := false
          currentDropRun := 0 } := by
      have hup : ¬ 2 ≤ s.upCount := hred
      have hone : ¬ s.upCount = 1 := hs
      simp only [scanSegment, hup, hone, if_false]
    rw [hscan]
    exact ⟨h.session_concat, h.redundant_concat hred, hsurvived, habsorbed, hlongest, hstarts,
      hgoesOn, fun i hi hi' => absurd hi' (hnone i hi)⟩

lemma not_redundant_of_onePath (hs : OnePath s) : ¬ Redundant s := by
  rw [OnePath] at hs
  rw [Redundant]
  omega

/-- A segment on one path that is not survived. -/
lemma Holds.concat_of_closed (h : Holds scan segments) (hs : OnePath s)
    (hclosed : ∀ i, ¬ Blocks.Open OnePath Redundant segments i) :
    Holds (scanSegment scan s) (segments ++ [s]) := by
  obtain ⟨hsurvived, habsorbed, hlongest⟩ :=
    h.concat_of_eq (Blocks.blocks_concat_of_closed hs hclosed)
  have hred := not_redundant_of_onePath hs
  have hprev : ¬ 2 ≤ scan.previousUp := fun h2 => hclosed _ (h.starts.mpr h2)
  have hdrop : scan.inSurvivedDrop = false := by
    rw [← Bool.not_eq_true, ← h.goesOn]
    rintro ⟨i, -, hi⟩
    exact hclosed i hi
  have hclosed' : ∀ i, ¬ Blocks.Open OnePath Redundant (segments ++ [s]) i := by
    intro i
    rw [Blocks.open_concat_of hs]
    exact hclosed i
  have hscan : scanSegment scan s =
      { stats := { scan.stats with
          sessionDuration := scan.stats.sessionDuration + s.duration }
        previousUp := s.upCount
        inSurvivedDrop := false
        currentDropRun := scan.currentDropRun } := by
    have hone : s.upCount = 1 := hs
    simp [scanSegment, hone, hprev, hdrop]
  rw [hscan]
  refine ⟨h.session_concat, h.redundant_concat hred, hsurvived, habsorbed, hlongest, ?_, ?_, ?_⟩
  · exact iff_of_false (hclosed' _) hred
  · simp [hclosed']
  · exact fun i _ hi => absurd hi (hclosed' i)

/-- A segment on one path that is survived: the first one of a run, or one that continues it. -/
lemma Holds.concat_of_open (h : Holds scan segments) (hs : OnePath s) (hd : 0 ≤ s.duration) {i : ℕ}
    (hopen : Blocks.Open OnePath Redundant segments i) :
    Holds (scanSegment scan s) (segments ++ [s]) := by
  have hred := not_redundant_of_onePath hs
  have hi := hopen.before.le_length
  have hlen : (segments ++ [s]).length = segments.length + 1 := by simp
  have hopen' : Blocks.Open OnePath Redundant (segments ++ [s]) i :=
    (Blocks.open_concat_of hs).mpr hopen
  have hscan : scanSegment scan s =
      { stats := { scan.stats with
          sessionDuration := scan.stats.sessionDuration + s.duration
          outageAbsorbed := scan.stats.outageAbsorbed + s.duration
          failoversSurvived :=
            scan.stats.failoversSurvived + if i = segments.length then 1 else 0
          longestDropSurvived := max scan.stats.longestDropSurvived
            (runDuration segments (i, segments.length) + s.duration) }
        previousUp := s.upCount
        inSurvivedDrop := true
        currentDropRun := runDuration segments (i, segments.length) + s.duration } := by
    have hone : s.upCount = 1 := hs
    by_cases hnew : i = segments.length
    · subst hnew
      have hprev := h.starts.mp hopen
      simp [scanSegment, hone, hprev, runDuration, Blocks.total_length]
    · have hlt : i < segments.length := lt_of_le_of_ne hi hnew
      have hprev : ¬ 2 ≤ scan.previousUp :=
        fun h2 => hnew (hopen.unique (h.starts.mpr h2))
      have hdrop := h.goesOn.mp ⟨i, hlt, hopen⟩
      have hrun := h.run i hlt hopen
      simp [scanSegment, hone, hprev, hdrop, hrun, hnew]
  rw [hscan]
  refine ⟨h.session_concat, h.redundant_concat hred, ?_, ?_, ?_, ?_, ?_, ?_⟩
  · rw [survivedRuns, Blocks.card_blocks_concat_of_open hs hopen, h.survived, survivedRuns]
    push_cast
    rfl
  · rw [h.absorbed]
    exact (Blocks.sum_total_concat_of_open ImpactSegment.duration hs hopen).symm
  · exact Blocks.isGreatest_weights_concat_of_open hs hd hopen h.longest
  · refine iff_of_false (fun hnow => ?_) hred
    have := hnow.unique hopen'
    omega
  · exact iff_of_true ⟨i, by omega, hopen'⟩ rfl
  · intro i' _ hi'
    rw [hi'.unique hopen', hlen]
    exact (Blocks.total_concat_succ ImpactSegment.duration hi).symm

/-- **The loop keeps the figures.** -/
lemma holds_foldl (hnonneg : ∀ s ∈ segments, 0 ≤ s.duration) :
    Holds (segments.foldl scanSegment {}) segments := by
  induction segments using List.reverseRecOn with
  | nil => exact holds_nil
  | append_singleton segments s ih =>
    have h := ih fun t ht => hnonneg t (List.mem_append_left _ ht)
    have hd : 0 ≤ s.duration := hnonneg s (by simp)
    rw [List.foldl_append, List.foldl_cons, List.foldl_nil]
    by_cases hs : OnePath s
    · by_cases hopen : ∃ i, Blocks.Open OnePath Redundant segments i
      · obtain ⟨i, hi⟩ := hopen
        exact h.concat_of_open hs hd hi
      · exact h.concat_of_closed hs (not_exists.mp hopen)
    · exact h.concat_of_not hs

/-- A segment that is cut in two is scanned to the same variables. -/
lemma scanSegment_split (scan : ImpactScan) {d₁ d₂ : ℚ} (h₂ : 0 ≤ d₂) (upCount : ℤ) :
    scanSegment (scanSegment scan ⟨d₁, upCount⟩) ⟨d₂, upCount⟩
      = scanSegment scan ⟨d₁ + d₂, upCount⟩ := by
  by_cases hred : 2 ≤ upCount
  · simp [scanSegment, hred, add_assoc]
  · by_cases hone : upCount = 1
    · subst hone
      have hmax : ∀ x y : ℚ, max (max x y) (y + d₂) = max x (y + d₂) := by
        intro x y
        rw [max_assoc, max_eq_right (le_add_of_nonneg_right h₂)]
      by_cases hprev : 2 ≤ scan.previousUp
      · simp [scanSegment, hprev, add_assoc, hmax]
      · cases hdrop : scan.inSurvivedDrop with
        | true => simp [scanSegment, hprev, hdrop, ← add_assoc, hmax]
        | false => simp [scanSegment, hprev, hdrop, add_assoc]
    · simp [scanSegment, hred, hone, add_assoc]

end ImpactScan

/-! ## The result -/

/-- After the loop only the fraction is set. -/
lemma computeImpact_eq (segments : List ImpactSegment) :
    ∃ fraction, computeImpact segments
      = { (segments.foldl scanSegment {}).stats with protectedFraction := fraction } := by
  rw [computeImpact]
  split
  · exact ⟨_, rfl⟩
  · exact ⟨(segments.foldl scanSegment {}).stats.protectedFraction, rfl⟩

/-- The greatest weight of a run, and zero if there is none. -/
lemma longest_of_isGreatest {segments : List ImpactSegment} {m : ℚ}
    (hm : IsGreatest (Blocks.weights OnePath Redundant ImpactSegment.duration segments) m) :
    (survivedRuns segments = ∅ → m = 0) ∧
      ((∀ s ∈ segments, 0 ≤ s.duration) → (survivedRuns segments).Nonempty →
        IsGreatest (runDuration segments '' survivedRuns segments) m) := by
  constructor
  · intro hempty
    rcases hm.1 with hzero | ⟨run, hrun, -⟩
    · exact hzero
    · rw [show Blocks.blocks OnePath Redundant segments = ∅ from hempty] at hrun
      simp at hrun
  · rintro hnonneg ⟨run, hrun⟩
    refine ⟨?_, fun x hx => hm.2 (Or.inr hx)⟩
    rcases hm.1 with rfl | hmem
    · -- a run that is not longer than zero has the duration zero
      have hle : runDuration segments run ≤ 0 := hm.2 (Or.inr ⟨run, hrun, rfl⟩)
      have hge : 0 ≤ runDuration segments run := by
        refine List.sum_nonneg fun d hd => ?_
        obtain ⟨s, hs, rfl⟩ := List.mem_map.mp hd
        exact hnonneg s (List.mem_of_mem_drop (List.mem_of_mem_take hs))
      exact ⟨run, hrun, le_antisymm hle hge⟩
    · exact hmem

/-- **The figures are what they say.**  For every session: the failovers survived are the survived
runs, the outage absorbed is their duration, and the longest drop survived is the duration of the
longest one.  The protected duration is that of the segments with two or more paths.  And no figure
changes if a segment is cut in two. -/
theorem figures_of_survived_runs (segments : List ImpactSegment)
    (hnonneg : ∀ s ∈ segments, 0 ≤ s.duration) :
    (computeImpact segments).failoversSurvived = (survivedRuns segments).card ∧
    (computeImpact segments).outageAbsorbed
      = ∑ run ∈ survivedRuns segments, runDuration segments run ∧
    (survivedRuns segments = ∅ → (computeImpact segments).longestDropSurvived = 0) ∧
    ((survivedRuns segments).Nonempty →
      IsGreatest (runDuration segments '' survivedRuns segments)
        (computeImpact segments).longestDropSurvived) ∧
    (computeImpact segments).protectedDuration
      = ((segments.filter Redundant).map ImpactSegment.duration).sum ∧
    (computeImpact segments).sessionDuration = (segments.map ImpactSegment.duration).sum ∧
    ∀ (before after : List ImpactSegment) (d₁ d₂ : ℚ) (upCount : ℤ), 0 ≤ d₁ → 0 ≤ d₂ →
      segments = before ++ ⟨d₁ + d₂, upCount⟩ :: after →
      computeImpact (before ++ ⟨d₁, upCount⟩ :: ⟨d₂, upCount⟩ :: after)
        = computeImpact segments := by
  have h := ImpactScan.holds_foldl hnonneg
  have hsplit : ∀ (before after : List ImpactSegment) (d₁ d₂ : ℚ) (upCount : ℤ), 0 ≤ d₁ → 0 ≤ d₂ →
      segments = before ++ ⟨d₁ + d₂, upCount⟩ :: after →
      computeImpact (before ++ ⟨d₁, upCount⟩ :: ⟨d₂, upCount⟩ :: after)
        = computeImpact segments := by
    rintro before after d₁ d₂ upCount - h₂ rfl
    rw [computeImpact, computeImpact]
    simp only [List.foldl_append, List.foldl_cons, ImpactScan.scanSegment_split _ h₂]
  obtain ⟨fraction, hstats⟩ := computeImpact_eq segments
  obtain ⟨hempty, hnonempty⟩ := longest_of_isGreatest h.longest
  rw [hstats] at hsplit ⊢
  exact ⟨h.survived, h.absorbed, hempty, hnonempty hnonneg, h.redundant, h.session, hsplit⟩

/-- A drop of two segments, and later one of one segment. -/
theorem figures_of_survived_runs_sample :
    ∃ segments : List ImpactSegment, segments.length = 5 ∧
      (computeImpact segments).failoversSurvived = 2 ∧ (survivedRuns segments).card = 2 ∧
      (computeImpact segments).longestDropSurvived = 5 := by
  let segments : List ImpactSegment := [⟨10, 2⟩, ⟨3, 1⟩, ⟨2, 1⟩, ⟨20, 2⟩, ⟨3, 1⟩]
  have hnonneg : ∀ s ∈ segments, 0 ≤ s.duration := by decide
  have hcount : (computeImpact segments).failoversSurvived = 2 := by decide +kernel
  have hlongest : (computeImpact segments).longestDropSurvived = 5 := by decide +kernel
  have h := (figures_of_survived_runs segments hnonneg).1
  exact ⟨segments, rfl, hcount, by omega, hlongest⟩

end Macos
end Gemina
