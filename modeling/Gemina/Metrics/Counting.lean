/-
# What the counters show

A counter of the registry shows, for every tuple of label values, the sum of what was added with
them, as long as the sums fit into 64 bits.  If it is only ever incremented by one, then that is how
often it was called with them.
-/
import Gemina.Metrics.Exposition

namespace Gemina.Metrics

lemma history_append (target : Target) (cs cs' : List Call) :
    history target (cs ++ cs') = history target cs ++ history target cs' := by
  simp [history]

/-- A registry that was not called. -/
lemma follows_registered (regs : List Registration) :
    Registry.Follows (registered regs) [] (registered regs) := by
  refine ⟨?_, rfl, rfl⟩
  intro target m hm
  exact ⟨m.series, hm, Metric.follows_nil (series_of_registered _ hm)⟩

/-- The text of a counter that counts the given label values: its header and then, sorted, a line
for each tuple that occurs, which reads back as the number of times that it occurs. -/
def Counts (m : Metric) (labels : List (List Bytes)) (text : Bytes) : Prop :=
  ∃ lines : List (List Bytes × Bytes),
    text = m.header (ascii "counter") ++ (lines.map Prod.snd).flatten ∧
    (lines.Pairwise fun a b => List.Lex (List.Lex fun c d : UInt8 => c < d) a.1 b.1) ∧
    (∀ t, (∃ line, (t, line) ∈ lines) ↔ t ∈ labels) ∧
    ∀ t line, (t, line) ∈ lines →
      readSample m.name m.labelNames line = some (t, (labels.count t : ℤ))

/-- The history of a counter that was incremented with the given label values. -/
def incremented (labels : List (List Bytes)) : History := labels.map fun t => (t, .add 1)

lemma touched_incremented {labels : List (List Bytes)} {t : List Bytes} :
    (incremented labels).Touched t ↔ t ∈ labels := by
  simp [incremented, History.Touched]

lemma exact_incremented (labels : List (List Bytes)) (t : List Bytes) :
    (incremented labels).exact t = labels.count t := by
  induction labels using List.reverseRecOn with
  | nil => rfl
  | append_singleton labels last ih =>
    rw [incremented, List.map_append, ← incremented, History.exact, List.foldl_append,
      ← History.exact, ih]
    by_cases h : last = t
    · simp [h, Update.exact]
    · simp [h]

/-- **A counter shows its counts**, as long as they fit into 64 bits. -/
lemma counts_of_follows {rt : Runtime} (hrt : rt.Lawful) {target : Target} {m : Metric}
    {series : AList fun _ : Bytes => Sample} {labels : List (List Bytes)}
    (h : Metric.Follows { m with series := series } (incremented labels))
    (hfits : labels.length < 2 ^ 63) :
    Counts m labels (Metric.render rt target (ascii "counter") { m with series := series }) := by
  have hcount : ∀ t, labels.count t < 2 ^ 63 := fun t => lt_of_le_of_lt List.count_le_length hfits
  have hbounds : ∀ t, (incremented labels).Touched t →
      -2 ^ 63 ≤ (incremented labels).exact t ∧ (incremented labels).exact t < 2 ^ 63 := by
    intro t _
    rw [exact_incremented]
    have := hcount t
    omega
  obtain ⟨lines, htext, hsorted, hmem, hlines⟩ :=
    @exposes_render rt hrt target (ascii "counter") m series _ h hbounds
  refine ⟨lines, htext, hsorted, fun t => (hmem t).trans touched_incremented, ?_⟩
  intro t line hline
  rw [← exact_incremented]
  exact (hlines t line hline).1

/-! ## Sums -/

/-- The sum of the entries of a tuple of label values. -/
def total (entries : List (List Bytes × ℤ)) (t : List Bytes) : ℤ :=
  ((entries.filter fun e => e.1 = t).map Prod.snd).sum

lemma total_append (entries entries' : List (List Bytes × ℤ)) (t : List Bytes) :
    total (entries ++ entries') t = total entries t + total entries' t := by
  rw [total, List.filter_append, List.map_append, List.sum_append, ← total, ← total]

lemma total_singleton (t : List Bytes) (n : ℤ) (u : List Bytes) :
    total [(t, n)] u = if t = u then n else 0 := by
  by_cases h : t = u
  · simp [total, h]
  · simp [total, h]

lemma total_eq_zero {entries : List (List Bytes × ℤ)} {t : List Bytes}
    (h : ∀ e ∈ entries, e.1 ≠ t) : total entries t = 0 := by
  have hnil : (entries.filter fun e => e.1 = t) = [] := by
    simpa [List.filter_eq_nil_iff] using h
  rw [total, hnil]
  rfl

/-- An entry is at most the sum, if none is negative. -/
lemma le_total {entries : List (List Bytes × ℤ)} (h : ∀ e ∈ entries, 0 ≤ e.2)
    {e : List Bytes × ℤ} (he : e ∈ entries) : e.2 ≤ total entries e.1 := by
  rw [total]
  refine List.single_le_sum ?_ _ (List.mem_map_of_mem (List.mem_filter.mpr ⟨he, by simp⟩))
  intro x hx
  obtain ⟨e', he', rfl⟩ := List.mem_map.mp hx
  exact h e' (List.mem_filter.mp he').1

/-- The sum for a tuple is at most the sum of all entries, if none is negative. -/
lemma total_le_sum {entries : List (List Bytes × ℤ)} (h : ∀ e ∈ entries, 0 ≤ e.2)
    (t : List Bytes) : total entries t ≤ (entries.map Prod.snd).sum := by
  refine List.Sublist.sum_le_sum (List.filter_sublist.map _) ?_
  intro x hx
  obtain ⟨e, he, rfl⟩ := List.mem_map.mp hx
  exact h e he

lemma total_nonneg {entries : List (List Bytes × ℤ)} (h : ∀ e ∈ entries, 0 ≤ e.2)
    (t : List Bytes) : 0 ≤ total entries t := by
  refine List.sum_nonneg ?_
  intro x hx
  obtain ⟨e, he, rfl⟩ := List.mem_map.mp hx
  exact h e (List.mem_filter.mp he).1

/-- The text of a metric that adds up the given entries: its header and then, sorted, a line for
each tuple that occurs, which reads back as the sum of its entries. -/
def Sums (m : Metric) (typ : Bytes) (entries : List (List Bytes × ℤ)) (text : Bytes) : Prop :=
  ∃ lines : List (List Bytes × Bytes),
    text = m.header typ ++ (lines.map Prod.snd).flatten ∧
    (lines.Pairwise fun a b => List.Lex (List.Lex fun c d : UInt8 => c < d) a.1 b.1) ∧
    (∀ t, (∃ line, (t, line) ∈ lines) ↔ t ∈ entries.map Prod.fst) ∧
    ∀ t line, (t, line) ∈ lines →
      readSample m.name m.labelNames line = some (t, total entries t)

/-- What was done to a metric amounts to the entries. -/
structure Amounts (hist : History) (entries : List (List Bytes × ℤ)) : Prop where
  touched : ∀ t, hist.Touched t ↔ t ∈ entries.map Prod.fst
  exact_eq : ∀ t, hist.exact t = total entries t

/-- The history of a counter to which the entries were added. -/
def added (entries : List (List Bytes × ℤ)) : History :=
  entries.map fun e => (e.1, .add (Int64.ofInt e.2))

lemma added_append (entries entries' : List (List Bytes × ℤ)) :
    added (entries ++ entries') = added entries ++ added entries' := List.map_append

/-- One more update amounts to one more entry, if it changes the sum of its tuple by that much. -/
lemma Amounts.concat {hist : History} {entries : List (List Bytes × ℤ)} (h : Amounts hist entries)
    {t : List Bytes} {u : Update} {n : ℤ} (hu : u.exact (total entries t) = total entries t + n) :
    Amounts (hist ++ [(t, u)]) (entries ++ [(t, n)]) := by
  refine ⟨?_, ?_⟩
  · intro t'
    have hold := h.touched t'
    simp only [History.Touched, List.mem_append, List.map_append] at hold ⊢
    rw [exists_or, hold]
    simp
  · intro t'
    rw [History.exact, List.foldl_append, ← History.exact, total_append, total_singleton,
      List.foldl_cons, List.foldl_nil, h.exact_eq]
    by_cases ht : t = t'
    · subst ht
      rw [if_pos rfl, if_pos rfl, hu]
    · rw [if_neg ht, if_neg ht, add_zero]

/-- Additions amount to their entries, if each fits into 64 bits. -/
lemma amounts_added {entries : List (List Bytes × ℤ)}
    (h : ∀ e ∈ entries, -2 ^ 63 ≤ e.2 ∧ e.2 < 2 ^ 63) : Amounts (added entries) entries := by
  induction entries using List.reverseRecOn with
  | nil => exact ⟨fun t => by simp [added, History.Touched], fun t => rfl⟩
  | append_singleton entries e ih =>
    obtain ⟨hlow, hhigh⟩ := h e (by simp)
    rw [added_append]
    refine (ih fun e he => h e (List.mem_append_left _ he)).concat ?_
    rw [Update.exact, Int64.toInt_ofInt_of_le hlow hhigh]

/-- **A metric shows its sums**, as long as they fit into 64 bits. -/
lemma sums_of_follows {rt : Runtime} (hrt : rt.Lawful) {target : Target} {typ : Bytes} {m : Metric}
    {series : AList fun _ : Bytes => Sample} {hist : History} {entries : List (List Bytes × ℤ)}
    (h : Metric.Follows { m with series := series } hist) (ha : Amounts hist entries)
    (hfits : ∀ t, -2 ^ 63 ≤ total entries t ∧ total entries t < 2 ^ 63) :
    Sums m typ entries (Metric.render rt target typ { m with series := series }) := by
  have hbounds : ∀ t, hist.Touched t → -2 ^ 63 ≤ hist.exact t ∧ hist.exact t < 2 ^ 63 := by
    intro t _
    rw [ha.exact_eq]
    exact hfits t
  obtain ⟨lines, htext, hsorted, hmem, hlines⟩ :=
    @exposes_render rt hrt target typ m series _ h hbounds
  refine ⟨lines, htext, hsorted, fun t => (hmem t).trans (ha.touched t), ?_⟩
  intro t line hline
  rw [← ha.exact_eq]
  exact (hlines t line hline).1

end Gemina.Metrics
