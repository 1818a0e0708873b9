/-
# The anti-replay window against its history

The purpose of the window, stated without any bitmap: a verdict on a packet number is a
function of the numbers observed before and of the verdicts given on them.  The window keeps
only `W` bits of that history.  This file proves that nothing is lost: over every sequence
of observations, however it jumps and wraps around, the window answers as the history does.

* `specDecision`: the verdict read off the history;
* `Tracks`: the relation between the history and the ring bitmap, kept by every step;
* `observe_eq_specDecision`: the window of any width refines the history.
-/
import Gemina.Lib.Mealy
import Gemina.Dedup.Bitmap

namespace Gemina
namespace ReplayWindow

/-! ## The specification -/

/-- The packet numbers observed so far, oldest first, each with the verdict on it. -/
abbrev History : Type := List (PacketNumber × ReplayDecision)

/-- The largest packet number observed; `0` when there is none. -/
def highest (h : History) : ℕ := h.foldl (fun m e => max m e.1.toNat) 0

/-- The verdict on `n` after the history `h`, for a window of width `W`. -/
def specDecision (W : ℕ) (h : History) (n : PacketNumber) : ReplayDecision :=
  if n = 0 then .invalid
  else if ∀ e ∈ h, e.1 = 0 then .firstCopy
  else if n.toNat < highest h ∧ W ≤ highest h - n.toNat then .stale
  else if (n, ReplayDecision.firstCopy) ∈ h then .duplicate
  else .firstCopy

@[simp] lemma highest_concat (h : History) (n : PacketNumber) (d : ReplayDecision) :
    highest (h ++ [(n, d)]) = max (highest h) n.toNat := by
  simp [highest, List.foldl_append]

lemma le_highest {h : History} {n : PacketNumber} {d : ReplayDecision} (hmem : (n, d) ∈ h) :
    n.toNat ≤ highest h := by
  induction h using List.reverseRecOn with
  | nil => simp at hmem
  | append_singleton h e ih =>
    obtain ⟨m, d'⟩ := e
    rw [highest_concat]
    rcases List.mem_append.mp hmem with hmem | hmem
    · exact le_trans (ih hmem) (le_max_left _ _)
    · have hm : n = m := by
        have := List.mem_singleton.mp hmem
        exact congrArg Prod.fst this
      subst hm
      exact le_max_right _ _

lemma highest_eq_zero_iff {h : History} : highest h = 0 ↔ ∀ e ∈ h, e.1 = 0 := by
  constructor
  · rintro h0 ⟨n, d⟩ hmem
    have hle := le_highest hmem
    rw [h0] at hle
    exact UInt64.toNat_inj.mp (by simpa using hle)
  · intro hall
    induction h using List.reverseRecOn with
    | nil => rfl
    | append_singleton h e ih =>
      obtain ⟨n, d⟩ := e
      have hn : n = 0 := hall (n, d) (by simp)
      rw [highest_concat, ih fun e he => hall e (by simp [he]), hn]
      rfl

/-! ## The ring bitmap follows the history -/

/-- The window `w` of width `W` represents the history `h`: the ring bit of every number of
the current window says whether that number was accepted. -/
structure Tracks (W : ℕ) (h : History) (w : ReplayWindow) : Prop where
  width_eq : w.width = W
  last_eq : w.last.toNat = highest h
  /-- Before the first packet the bitmap is empty. -/
  empty : w.last = 0 → ∀ r, bit w.words r = false
  bit_iff : ∀ p : PacketNumber, p ≠ 0 → p.toNat ≤ highest h → highest h - p.toNat < W →
    (bit w.words (p.toNat % W) = true ↔ (p, ReplayDecision.firstCopy) ∈ h)

variable {W : ℕ} {h : History} {w : ReplayWindow} {n : PacketNumber}

lemma toNat_pos (hn : n ≠ 0) : 0 < n.toNat := by
  rw [Nat.pos_iff_ne_zero]
  exact fun h0 => hn (UInt64.toNat_inj.mp (by simpa using h0))

namespace Tracks

lemma W_pos (ht : Tracks W h w) : 0 < W := ht.width_eq ▸ w.width_pos

/-- An accepted number is not zero, and there is none before the first packet. -/
lemma not_mem_of_empty (ht : Tracks W h w) (h0 : w.last = 0) {p : PacketNumber} (hp : p ≠ 0)
    (d : ReplayDecision) : (p, d) ∉ h := by
  intro hmem
  have hhigh : highest h = 0 := by rw [← ht.last_eq, h0]; rfl
  exact hp (highest_eq_zero_iff.mp hhigh _ hmem)

/-- A verdict that accepts nothing leaves the window and the set of accepted numbers alone. -/
lemma unchanged (ht : Tracks W h w) {d : ReplayDecision} (hd : d ≠ .firstCopy)
    (hn : n.toNat ≤ highest h) : Tracks W (h ++ [(n, d)]) w := by
  refine ⟨ht.width_eq, ?_, ht.empty, ?_⟩
  · rw [highest_concat, max_eq_left hn]
    exact ht.last_eq
  · intro p hp
    rw [highest_concat, max_eq_left hn]
    intro hle hlt
    rw [ht.bit_iff p hp hle hlt]
    simp [hd.symm]

/-- Setting the bit of `n` records `n` as accepted, provided the bits of the other numbers
of the window that ends in `M` already follow the history. -/
lemma of_setBit (ws : Words w.nw) (last : PacketNumber) (hwidth : w.width = W) (hn0 : n ≠ 0)
    (hlast : last.toNat = max (highest h) n.toNat) (hn : last.toNat - n.toNat < W)
    (hbit : ∀ p : PacketNumber, p ≠ 0 → p ≠ n → p.toNat ≤ last.toNat → last.toNat - p.toNat < W →
      (bit ws (p.toNat % W) = true ↔ (p, ReplayDecision.firstCopy) ∈ h)) :
    Tracks W (h ++ [(n, .firstCopy)]) (setBit { w with words := ws, last := last } n) := by
  have hnpos := toNat_pos hn0
  refine ⟨hwidth, ?_, ?_, ?_⟩
  · rw [highest_concat]
    exact hlast
  · intro h0
    have hz : last.toNat = 0 := by
      have : last = 0 := h0
      rw [this]
      rfl
    omega
  · intro p hp
    rw [highest_concat, ← hlast, bit_setBit]
    intro hle hlt
    simp only [hwidth, List.mem_append, List.mem_singleton, Prod.mk.injEq, and_true,
      Bool.or_eq_true, decide_eq_true_eq]
    by_cases hpn : p = n
    · simp [hpn]
    · have hne : p.toNat % W ≠ n.toNat % W := by
        intro heq
        exact hpn (UInt64.toNat_inj.mp
          (RingSlots.eq_of_mod_eq hle (by omega) hlt hn heq))
      rw [hbit p hp hpn hle hlt]
      simp [hne, hpn]

/-- The first packet ever. -/
lemma first (ht : Tracks W h w) (h0 : w.last = 0) (hn : n ≠ 0) :
    Tracks W (h ++ [(n, .firstCopy)]) (setBit { w with last := n } n) := by
  have hhigh : highest h = 0 := by rw [← ht.last_eq, h0]; rfl
  refine of_setBit w.words n ht.width_eq hn (by simp [hhigh]) (by simpa using ht.W_pos) ?_
  intro p hp _ _ _
  simp [ht.empty h0, ht.not_mem_of_empty h0 hp]

/-- A packet number ahead of the window. -/
lemma advanced (ht : Tracks W h w) (hn : w.last < n) :
    Tracks W (h ++ [(n, .firstCopy)]) (w.advance n) := by
  have hlt : w.last.toNat < n.toNat := UInt64.lt_iff_toNat_lt.mp hn
  have hsub : (n - w.last).toNat = n.toNat - w.last.toNat :=
    UInt64.toNat_sub_of_le _ _ (UInt64.le_of_lt hn)
  have hsucc : (w.last + 1).toNat = w.last.toNat + 1 := by
    have := n.toNat_lt
    rw [UInt64.toNat_add, UInt64.toNat_one]
    omega
  have hlast := ht.last_eq
  have hW := ht.width_eq
  have hn0 : n ≠ 0 := by
    rintro rfl
    simp at hlt
  refine of_setBit _ n hW hn0 (by omega) (by simpa using ht.W_pos) ?_
  intro p hp hpn hle hd
  have hpn' : p.toNat ≠ n.toNat := fun heq => hpn (UInt64.toNat_inj.mp heq)
  by_cases hjump : w.width ≤ (n - w.last).toNat
  · -- every accepted number has left the window
    rw [bit_advanceWords_of_ge w hjump]
    refine iff_of_false (by simp) fun hmem => ?_
    have := le_highest hmem
    omega
  · rw [bit_advanceWords_of_lt w hjump (hW.symm ▸ Nat.mod_lt _ ht.W_pos), hW, hsucc]
    by_cases hpl : p.toNat ≤ w.last.toNat
    · -- an old number of the new window: its slot is not on the cleared arc
      rw [ht.bit_iff p hp (by omega) (by omega)]
      have := RingSlots.not_onArc_of_lt (W := W) (a := w.last.toNat + 1) (b := n.toNat)
        (p := p.toNat) (by omega) (by omega) (by omega)
      simp [this]
    · -- a number that was not seen yet: its slot is cleared
      have harc := RingSlots.onArc_of_mem (W := W) (a := w.last.toNat + 1) (b := n.toNat)
        (p := p.toNat) (by omega) (by omega) (by omega)
      refine iff_of_false (by simp [harc]) fun hmem => ?_
      have := le_highest hmem
      omega

/-- An unseen packet number inside the window. -/
lemma marked (ht : Tracks W h w) (hn0 : n ≠ 0) (hle : n.toNat ≤ w.last.toNat)
    (hd : w.last.toNat - n.toNat < W) :
    Tracks W (h ++ [(n, .firstCopy)]) (w.setBit n) := by
  have hlast := ht.last_eq
  refine of_setBit w.words w.last ht.width_eq hn0 (by omega) hd ?_
  intro p hp _ hple hplt
  exact ht.bit_iff p hp (by omega) (by omega)

/-- **One observation.**  The window answers as its history does, and follows it on. -/
lemma observe (ht : Tracks W h w) (n : PacketNumber) :
    (w.observe n).1 = specDecision W h n ∧
      Tracks W (h ++ [(n, (w.observe n).1)]) (w.observe n).2 := by
  have hlast := ht.last_eq
  have hWpos := ht.W_pos
  unfold ReplayWindow.observe specDecision
  by_cases hn0 : n = 0
  · simp only [hn0, if_true]
    exact ⟨trivial, ht.unchanged (by simp) (by simp)⟩
  simp only [hn0, if_false]
  have hnpos := toNat_pos hn0
  by_cases h0 : w.last = 0
  · have hall : ∀ e ∈ h, e.1 = 0 := by
      rw [← highest_eq_zero_iff, ← hlast, h0]
      rfl
    rw [if_pos hall, if_pos h0]
    exact ⟨rfl, ht.first h0 hn0⟩
  have hnall : ¬ ∀ e ∈ h, e.1 = 0 := by
    rw [← highest_eq_zero_iff, ← hlast]
    have := toNat_pos h0
    omega
  simp only [h0, hnall, if_false]
  by_cases hgt : w.last < n
  · have hlt : w.last.toNat < n.toNat := UInt64.lt_iff_toNat_lt.mp hgt
    have hstale : ¬ (n.toNat < highest h ∧ W ≤ highest h - n.toNat) := by omega
    have hmem : (n, ReplayDecision.firstCopy) ∉ h := fun hm => by
      have := le_highest hm
      omega
    simp only [gt_iff_lt, hgt, if_true, hstale, hmem, if_false]
    exact ⟨trivial, ht.advanced hgt⟩
  have hle : n ≤ w.last := UInt64.not_lt.mp hgt
  have hleN : n.toNat ≤ w.last.toNat := UInt64.le_iff_toNat_le.mp hle
  have hsub : (w.last - n).toNat = w.last.toNat - n.toNat := UInt64.toNat_sub_of_le _ _ hle
  simp only [gt_iff_lt, hgt, if_false, hsub, ht.width_eq, testBit_eq]
  by_cases hst : W ≤ w.last.toNat - n.toNat
  · have hstale : n.toNat < highest h ∧ W ≤ highest h - n.toNat := by omega
    simp only [hst, hstale, if_true, and_self]
    exact ⟨trivial, ht.unchanged (by simp) (by omega)⟩
  have hstale : ¬ (n.toNat < highest h ∧ W ≤ highest h - n.toNat) := by omega
  have hbit := ht.bit_iff n hn0 (by omega) (by omega)
  simp only [hst, hstale, if_false]
  by_cases hb : bit w.words (n.toNat % W) = true
  · simp only [hb, if_true, hbit.mp hb]
    exact ⟨trivial, ht.unchanged (by simp) (by omega)⟩
  · have hmem : (n, ReplayDecision.firstCopy) ∉ h := fun hm => hb (hbit.mpr hm)
    simp only [hb, hmem, if_false, Bool.false_eq_true]
    exact ⟨trivial, ht.marked hn0 hleN (by omega)⟩

end Tracks

/-! ## Whole runs -/

/-- The history of a run of `Observe` calls. -/
def observeAll (w : ReplayWindow) (ns : List PacketNumber) : History :=
  Mealy.trace ReplayWindow.observe w ns

/-- The window after a run of `Observe` calls. -/
def afterAll (w : ReplayWindow) (ns : List PacketNumber) : ReplayWindow :=
  Mealy.state ReplayWindow.observe w ns

/-- A window that no packet has reached yet. -/
def IsFresh (w : ReplayWindow) : Prop := w.last = 0 ∧ ∀ r, bit w.words r = false

lemma IsFresh.tracks {w : ReplayWindow} (hw : w.IsFresh) : Tracks w.width [] w where
  width_eq := rfl
  last_eq := by rw [hw.1]; rfl
  empty _ := hw.2
  bit_iff p _ _ _ := by simp [hw.2]

/-- The window follows its history over every run. -/
lemma IsFresh.tracks_observeAll {w : ReplayWindow} (hw : w.IsFresh) (ns : List PacketNumber) :
    Tracks w.width (w.observeAll ns) (w.afterAll ns) :=
  Mealy.invariant (P := Tracks w.width) hw.tracks (fun _ _ n ht => (ht.observe n).2) ns

/-- The verdict of the next observation is the one read off the history of the run. -/
lemma IsFresh.observe_eq {w : ReplayWindow} (hw : w.IsFresh) (ns : List PacketNumber)
    (n : PacketNumber) :
    ((w.afterAll ns).observe n).1 = specDecision w.width (w.observeAll ns) n :=
  ((hw.tracks_observeAll ns).observe n).1

/-- No number is accepted twice: an accepted number is not accepted by the history. -/
lemma not_mem_of_spec_firstCopy {W : ℕ} {h : History} {n : PacketNumber}
    (hspec : specDecision W h n = .firstCopy) : (n, ReplayDecision.firstCopy) ∉ h := by
  unfold specDecision at hspec
  intro hmem
  by_cases hn0 : n = 0
  · simp [hn0] at hspec
  have hnall : ¬ ∀ e ∈ h, e.1 = 0 := fun hall => hn0 (hall _ hmem)
  simp only [hn0, hnall, hmem, if_true, if_false] at hspec
  split at hspec <;> cases hspec

/-- A number inside or ahead of the window that was not accepted before is accepted. -/
lemma spec_firstCopy_of_new {W : ℕ} {h : History} {n : PacketNumber} (hn0 : n ≠ 0)
    (hnew : (n, ReplayDecision.firstCopy) ∉ h) (hin : highest h - n.toNat < W) :
    specDecision W h n = .firstCopy := by
  unfold specDecision
  have hstale : ¬ (n.toNat < highest h ∧ W ≤ highest h - n.toNat) := by omega
  simp only [hn0, hstale, hnew, if_false, ite_self]

/-- The numbers accepted in a run. -/
def accepted (h : History) : List PacketNumber :=
  (h.filter fun e => e.2 = .firstCopy).map Prod.fst

lemma mem_accepted {h : History} {n : PacketNumber} :
    n ∈ accepted h ↔ (n, ReplayDecision.firstCopy) ∈ h := by
  simp [accepted]

lemma IsFresh.accepted_nodup {w : ReplayWindow} (hw : w.IsFresh) (ns : List PacketNumber) :
    (accepted (w.observeAll ns)).Nodup := by
  induction ns using List.reverseRecOn with
  | nil => exact List.nodup_nil
  | append_singleton ns n ih =>
    have htrace : w.observeAll (ns ++ [n])
        = w.observeAll ns ++ [(n, ((w.afterAll ns).observe n).1)] := Mealy.trace_concat _ _ _ _
    rw [htrace, accepted, List.filter_append, List.map_append]
    by_cases hd : ((w.afterAll ns).observe n).1 = .firstCopy
    · have hnew : n ∉ accepted (w.observeAll ns) := by
        rw [mem_accepted]
        exact not_mem_of_spec_firstCopy (hw.observe_eq ns n ▸ hd)
      simp only [hd, decide_true, List.filter_cons_of_pos, List.filter_nil, List.map_cons,
        List.map_nil]
      exact List.nodup_append.mpr ⟨ih, by simp, by
        rintro a ha b hb rfl
        exact hnew (by simpa using List.mem_singleton.mp hb ▸ ha)⟩
    · simpa [hd, accepted] using ih

/-- The largest number observed was accepted, when it was first observed. -/
lemma IsFresh.highest_accepted {w : ReplayWindow} (hw : w.IsFresh) (ns : List PacketNumber) :
    highest (w.observeAll ns) = 0 ∨ ∃ n, (n, ReplayDecision.firstCopy) ∈ w.observeAll ns ∧
      n.toNat = highest (w.observeAll ns) := by
  induction ns using List.reverseRecOn with
  | nil => exact Or.inl rfl
  | append_singleton ns n ih =>
    have htrace : w.observeAll (ns ++ [n])
        = w.observeAll ns ++ [(n, ((w.afterAll ns).observe n).1)] := Mealy.trace_concat _ _ _ _
    rw [htrace, highest_concat]
    by_cases hle : n.toNat ≤ highest (w.observeAll ns)
    · rw [max_eq_left hle]
      rcases ih with h0 | ⟨m, hm, heq⟩
      · exact Or.inl h0
      · exact Or.inr ⟨m, by simp [hm], heq⟩
    · -- a number above all earlier ones is unseen and ahead of the window
      have hunseen : ∀ d, (n, d) ∉ w.observeAll ns := fun d hmem => hle (le_highest hmem)
      have hn0 : n ≠ 0 := by
        rintro rfl
        simp at hle
      have hd : ((w.afterAll ns).observe n).1 = .firstCopy := by
        rw [hw.observe_eq ns n]
        have := w.width_pos
        exact spec_firstCopy_of_new hn0 (hunseen _) (by omega)
      exact Or.inr ⟨n, by simp [hd], by omega⟩

/-- `NewReplayWindow` makes an empty window. -/
lemma newReplayWindow_isFresh {width : ℤ} {w : ReplayWindow}
    (h : newReplayWindow width = .ok w) : w.IsFresh := by
  unfold newReplayWindow at h
  split at h
  · cases h
  · simp only at h
    split at h
    · obtain rfl := Except.ok.inj h
      exact ⟨rfl, fun r => bit_replicate_zero r⟩
    · cases h

/-- `NewReplayWindow` rounds the requested width up to the next multiple of 64. -/
lemma newReplayWindow_ok {width : ℤ} (hpos : 1 ≤ width) (hov : width + 63 < 2 ^ 63) :
    ∃ w, newReplayWindow width = .ok w ∧ (w.width : ℤ) = 64 * ⌈(width : ℚ) / 64⌉ := by
  have hgo : goInt (width + 63) = width + 63 := by
    unfold goInt
    omega
  have htdiv : (width + 63).tdiv 64 = (width + 63) / 64 :=
    Int.tdiv_eq_ediv_of_nonneg (by omega)
  have hceil : ⌈(width : ℚ) / 64⌉ = (width + 63) / 64 := by
    rw [Int.ceil_eq_iff]
    have h1 : ((width + 63) / 64) * 64 ≤ width + 63 := Int.ediv_mul_le _ (by norm_num)
    have h2 : width + 63 < ((width + 63) / 64 + 1) * 64 := by omega
    have h1' : (((width + 63) / 64 : ℤ) : ℚ) * 64 ≤ width + 63 := by exact_mod_cast h1
    have h2' : (width : ℚ) ≤ (((width + 63) / 64 : ℤ) : ℚ) * 64 := by
      have : width ≤ (width + 63) / 64 * 64 := by omega
      exact_mod_cast this
    constructor
    · rw [lt_div_iff₀ (by norm_num)]
      linarith
    · rw [div_le_iff₀ (by norm_num)]
      exact h2'
  have hlen : 0 < (width + 63) / 64 ∧ (width + 63) / 64 * 64 < 2 ^ 63 := by omega
  unfold newReplayWindow
  simp only [hgo, htdiv]
  rw [if_neg (by omega), dif_pos hlen]
  refine ⟨_, rfl, ?_⟩
  simp only [hceil]
  push_cast
  omega

/-- **The window refines its history.**  For every requested width that the code accepts,
every verdict in every run is the one read off the history of that run; in particular no
number is accepted twice, and no unseen number inside or ahead of the window is refused. -/
theorem observe_eq_specDecision (width : ℤ) (hpos : 1 ≤ width) (hov : width + 63 < 2 ^ 63) :
    ∃ w, newReplayWindow width = .ok w ∧ (w.width : ℤ) = 64 * ⌈(width : ℚ) / 64⌉ ∧
      ∀ ns : List PacketNumber,
        (∀ n, ((w.afterAll ns).observe n).1 = specDecision w.width (w.observeAll ns) n) ∧
        (accepted (w.observeAll ns)).Nodup ∧
        (∀ n, n ≠ 0 → (∀ d, (n, d) ∉ w.observeAll ns) →
          highest (w.observeAll ns) - n.toNat < w.width →
          ((w.afterAll ns).observe n).1 = .firstCopy) := by
  obtain ⟨w, hnew, hW⟩ := newReplayWindow_ok hpos hov
  have hfresh := newReplayWindow_isFresh hnew
  refine ⟨w, hnew, hW, fun ns => ⟨hfresh.observe_eq ns, hfresh.accepted_nodup ns, ?_⟩⟩
  intro n hn0 hunseen hin
  rw [hfresh.observe_eq ns n]
  exact spec_firstCopy_of_new hn0 (hunseen _) hin

/-- The width 100 is rounded up to 128. -/
theorem observe_eq_specDecision_hundred :
    ∃ w, newReplayWindow 100 = .ok w ∧ (w.width : ℤ) = 64 * ⌈((100 : ℤ) : ℚ) / 64⌉ ∧
      ∀ ns : List PacketNumber,
        (∀ n, ((w.afterAll ns).observe n).1 = specDecision w.width (w.observeAll ns) n) ∧
        (accepted (w.observeAll ns)).Nodup ∧
        (∀ n, n ≠ 0 → (∀ d, (n, d) ∉ w.observeAll ns) →
          highest (w.observeAll ns) - n.toNat < w.width →
          ((w.afterAll ns).observe n).1 = .firstCopy) :=
  observe_eq_specDecision 100 (by norm_num) (by norm_num)

end ReplayWindow
end Gemina
