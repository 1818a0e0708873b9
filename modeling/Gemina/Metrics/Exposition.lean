/-
# The exposition text

What a reader gets back from the text of `Registry.Render`: one line for each tuple of label values
that a metric was called with, in lexicographic order, from which the tuple and the value of the
calls are recovered.  The text depends on nothing else, so it is the same whatever the order of the
map and of the counter updates.
-/
import Gemina.Metrics

namespace Gemina.Metrics

/-! ## Reading a line back -/

/-- The label values between the braces, and what follows them. -/
def readPairs (first : Bool) : List Bytes → Bytes → Option (List Bytes × Bytes)
  | [], s => some ([], s)
  | name :: names, s => do
    let s ← cutPrefix s (if first then [] else ascii ",")
    let s ← cutPrefix s name
    let s ← cutPrefix s (ascii "=\"")
    let (v, s) ← Quoted.unescape s
    let (values, s) ← readPairs false names s
    return (v :: values, s)

/-- The label values after the name of a metric. -/
def readLabels (names : List Bytes) (s : Bytes) : Option (List Bytes × Bytes) :=
  if names = [] then some ([], s)
  else do
    let s ← cutPrefix s (ascii "\x7b")
    let (values, s) ← readPairs true names s
    let s ← cutPrefix s (ascii "\x7d")
    return (values, s)

/-- The label values and the value of a line. -/
def readSample (name : Bytes) (labelNames : List Bytes) (line : Bytes) :
    Option (List Bytes × ℤ) := do
  let s ← cutPrefix line name
  let (values, s) ← readLabels labelNames s
  let s ← cutPrefix s (ascii " ")
  let (digits, rest) ← cut s 10
  if rest ≠ [] then none
  else
    let v ← parseInt digits
    return (values, v.toInt)

/-- The shortcut of `escape` makes no difference. -/
lemma escape_eq (v : Bytes) : escape v = Quoted.escape v := by
  rw [escape]
  split
  · rename_i h
    refine (Quoted.escape_eq_self ?_).symm
    simpa using h
  · rfl

lemma readPairs_writePairs (first : Bool) {names values : List Bytes}
    (h : values.length = names.length) (s : Bytes) :
    readPairs first names (writePairs first names values ++ s) = some (values, s) := by
  induction names generalizing first values with
  | nil =>
    rw [List.eq_nil_of_length_eq_zero h]
    rfl
  | cons name names ih =>
    rcases values with _ | ⟨v, values⟩
    · cases h
    · have hlen : values.length = names.length := by simpa using h
      simp [readPairs, writePairs, escape_eq, cutPrefix_append, Quoted.unescape_escape,
        ih false hlen]

lemma readLabels_writeLabels {names values : List Bytes} (h : values.length = names.length)
    (s : Bytes) : readLabels names (writeLabels names values ++ s) = some (values, s) := by
  rw [readLabels, writeLabels]
  split
  · rename_i hnil
    subst hnil
    rw [List.eq_nil_of_length_eq_zero h]
    rfl
  · simp [cutPrefix_append, readPairs_writePairs true h]

/-- **A line is read as it was written.** -/
lemma readSample_sampleLine (m : Metric) {s : Sample}
    (h : s.labelValues.length = m.labelNames.length) :
    readSample m.name m.labelNames (m.sampleLine s) = some (s.labelValues, s.value.toInt) := by
  rw [readSample, Metric.sampleLine]
  simp [cutPrefix_append, readLabels_writeLabels h, cut_append (newline_notMem_formatInt s.value),
    parseInt_formatInt]

/-- The names of a metric have no line end in them. -/
def Metric.NamesOnLine (m : Metric) : Prop := 10 ∉ m.name ∧ ∀ name ∈ m.labelNames, 10 ∉ name

lemma newline_notMem_writePairs (first : Bool) {names : List Bytes}
    (h : ∀ name ∈ names, 10 ∉ name) (values : List Bytes) :
    10 ∉ writePairs first names values := by
  induction names generalizing first values with
  | nil => simp [writePairs]
  | cons name names ih =>
    rcases values with _ | ⟨v, values⟩
    · simp [writePairs]
    · have hfirst : 10 ∉ (if first then [] else ascii ",") := by cases first <;> decide
      have hequals : 10 ∉ ascii "=\"" := by decide
      have hname := h name (by simp)
      have hrest := ih false (fun n hn => h n (List.mem_cons_of_mem _ hn)) values
      simp [writePairs, hfirst, hequals, hname, hrest, escape_eq, Quoted.newline_notMem_escape]

/-- The line of a series is one line. -/
lemma sampleLine_eq_line {m : Metric} (h : m.NamesOnLine) (s : Sample) :
    ∃ body, 10 ∉ body ∧ m.sampleLine s = body ++ [10] := by
  refine ⟨m.name ++ (writeLabels m.labelNames s.labelValues ++
    (ascii " " ++ formatInt s.value)), ?_, by simp [Metric.sampleLine]⟩
  have hlabels : 10 ∉ writeLabels m.labelNames s.labelValues := by
    rw [writeLabels]
    split
    · simp
    · have hopen : 10 ∉ ascii "\x7b" := by decide
      have hclose : 10 ∉ ascii "\x7d" := by decide
      simp [hopen, hclose, newline_notMem_writePairs true h.2]
  have hblank : 10 ∉ ascii " " := by decide
  simp [h.1, hlabels, hblank, newline_notMem_formatInt]

/-! ## The order of the lines -/

lemma strictTotal_byte : LexOrder.StrictTotal fun c d : UInt8 => decide (c < d) where
  irrefl := by simp
  trans := by
    intro a b c hab hbc
    simp only [decide_eq_true_eq] at hab hbc ⊢
    exact UInt8.lt_trans hab hbc
  connected := by
    intro a b hne
    simp only [decide_eq_true_eq]
    exact UInt8.lt_or_lt_of_ne hne

lemma strictTotal_stringLess : LexOrder.StrictTotal stringLess := strictTotal_byte.less

lemma less_eq (a b : List Bytes) : less a b = LexOrder.less stringLess a b := by
  induction a generalizing b with
  | nil => cases b <;> simp [less, LexOrder.less]
  | cons v a ih =>
    cases b with
    | nil => rfl
    | cons w b => rw [less, LexOrder.less, ih]

/-- **`less` is a strict total order.** -/
lemma strictTotal_less : LexOrder.StrictTotal less := by
  have heq : less = LexOrder.less stringLess := funext₂ less_eq
  rw [heq]
  exact strictTotal_stringLess.less

/-- `less` is the lexicographic order of tuples of byte strings. -/
lemma less_iff_lex {a b : List Bytes} :
    less a b = true ↔ List.Lex (List.Lex fun c d : UInt8 => c < d) a b := by
  have hstring : (fun v w => stringLess v w = true) = List.Lex fun c d : UInt8 => c < d := by
    funext v w
    rw [stringLess, LexOrder.less_iff_lex strictTotal_byte.irrefl]
    simp only [decide_eq_true_eq]
  rw [less_eq, LexOrder.less_iff_lex strictTotal_stringLess.irrefl, hstring]

/-! ## The samples of a metric -/

namespace Metric

variable {m : Metric} {hist : History}

lemma mem_samples (h : m.Follows hist) {s : Sample} :
    s ∈ m.series.entries.map Sigma.snd ↔
      ∃ labelValues, hist.Touched labelValues ∧ hist.sample labelValues = s := by
  rw [List.mem_map]
  constructor
  · rintro ⟨⟨key, s⟩, hentry, rfl⟩
    obtain ⟨labelValues, ht, -, hs⟩ := (h.lookup key s).mp (AList.mem_lookup_iff.mpr hentry)
    exact ⟨labelValues, ht, hs⟩
  · rintro ⟨labelValues, ht, rfl⟩
    have hlookup := (h.lookup _ _).mpr ⟨labelValues, ht, rfl, rfl⟩
    exact ⟨⟨seriesKey labelValues, hist.sample labelValues⟩, AList.mem_lookup_iff.mp hlookup, rfl⟩

/-- No two samples of a metric have the same label values. -/
lemma nodup_labelValues (h : m.Follows hist) :
    ((m.series.entries.map Sigma.snd).map Sample.labelValues).Nodup := by
  -- the keys are without repetition, and they come from the label values
  have hkeys : ((m.series.entries.map Sigma.snd).map Sample.labelValues).map seriesKey =
      m.series.keys := by
    rw [List.map_map, List.map_map, AList.keys, List.keys]
    refine List.map_congr_left ?_
    rintro ⟨key, s⟩ hentry
    obtain ⟨labelValues, -, hkey, rfl⟩ := (h.lookup key s).mp (AList.mem_lookup_iff.mpr hentry)
    exact hkey
  refine List.Nodup.of_map seriesKey ?_
  rw [hkeys]
  exact m.series.keys_nodup

/-- **The samples in the order of their lines**: the touched label values, increasing. -/
lemma sortedSamples_of_follows {rt : Runtime} (hrt : rt.Lawful) (target : Target)
    (h : m.Follows hist) :
    ∃ tuples : List (List Bytes), (tuples.Pairwise fun a b => less a b = true) ∧
      (∀ t, t ∈ tuples ↔ hist.Touched t) ∧
      m.sortedSamples rt target = tuples.map hist.sample := by
  have hperm : (m.sortedSamples rt target).Perm (m.series.entries.map Sigma.snd) :=
    (hrt.perm _ _).trans (hrt.iterate _ _)
  refine ⟨(m.sortedSamples rt target).map Sample.labelValues, ?_, ?_, ?_⟩
  · refine strictTotal_less.pairwise_of_nodup (List.pairwise_map.mpr ?_)
      ((hperm.map _).nodup_iff.mpr (nodup_labelValues h))
    exact hrt.sorted _ _ (fun _ _ => strictTotal_less.asymm) fun _ _ _ =>
      strictTotal_less.neg_trans
  · intro t
    simp only [List.mem_map, hperm.mem_iff]
    constructor
    · rintro ⟨s, hs, rfl⟩
      obtain ⟨labelValues, ht, rfl⟩ := (mem_samples h).mp (List.mem_map.mpr hs)
      exact ht
    · intro ht
      exact ⟨hist.sample t, List.mem_map.mp ((mem_samples h).mpr ⟨t, ht, rfl⟩), rfl⟩
  · rw [List.map_map]
    refine (List.map_id _).symm.trans (List.map_congr_left ?_)
    intro s hs
    obtain ⟨labelValues, -, rfl⟩ := (mem_samples h).mp (hperm.mem_iff.mp hs)
    rfl

/-- The text of a metric depends only on what was called and on the values. -/
lemma render_congr {rt rt' : Runtime} (hrt : rt.Lawful) (hrt' : rt'.Lawful) {target : Target}
    {typ : Bytes} {series series' : AList fun _ : Bytes => Sample} {hist' : History}
    (h : Follows { m with series := series } hist)
    (h' : Follows { m with series := series' } hist')
    (htouched : ∀ t, hist.Touched t ↔ hist'.Touched t)
    (hexact : ∀ t, hist.exact t = hist'.exact t) :
    render rt target typ { m with series := series } =
      render rt' target typ { m with series := series' } := by
  obtain ⟨tuples, hsorted, hmem, hsamples⟩ := sortedSamples_of_follows hrt target h
  obtain ⟨tuples', hsorted', hmem', hsamples'⟩ := sortedSamples_of_follows hrt' target h'
  have htuples : tuples = tuples' := strictTotal_less.eq_of_pairwise hsorted hsorted' fun t => by
    rw [hmem, hmem', htouched]
  have hsample : hist.sample = hist'.sample := by
    funext t
    rw [History.sample, History.sample, hexact]
  rw [render, render, hsamples, hsamples', htuples, hsample]
  rfl

end Metric

/-- The text of a metric, for a reader: after the two lines of the header one line for each tuple
of label values that was called, in lexicographic order of the tuples.  Each line gives back its
tuple and the value of the calls. -/
def Exposes (m : Metric) (typ : Bytes) (hist : History) (text : Bytes) : Prop :=
  ∃ lines : List (List Bytes × Bytes),
    text = m.header typ ++ (lines.map Prod.snd).flatten ∧
    (lines.Pairwise fun a b => List.Lex (List.Lex fun c d : UInt8 => c < d) a.1 b.1) ∧
    (∀ t, (∃ line, (t, line) ∈ lines) ↔ hist.Touched t) ∧
    ∀ t line, (t, line) ∈ lines →
      readSample m.name m.labelNames line = some (t, hist.exact t) ∧
      (m.NamesOnLine → ∃ body, 10 ∉ body ∧ line = body ++ [10])

lemma exposes_render {rt : Runtime} (hrt : rt.Lawful) {target : Target} {typ : Bytes} {m : Metric}
    {series : AList fun _ : Bytes => Sample} {hist : History}
    (h : Metric.Follows { m with series := series } hist)
    (hfits : ∀ t, hist.Touched t → -2 ^ 63 ≤ hist.exact t ∧ hist.exact t < 2 ^ 63) :
    Exposes m typ hist (Metric.render rt target typ { m with series := series }) := by
  obtain ⟨tuples, hsorted, hmem, hsamples⟩ := Metric.sortedSamples_of_follows hrt target h
  refine ⟨tuples.map fun t => (t, m.sampleLine (hist.sample t)), ?_, ?_, ?_, ?_⟩
  · rw [Metric.render, hsamples, List.flatMap_map, List.map_map, List.flatMap]
    rfl
  · exact List.pairwise_map.mpr (hsorted.imp less_iff_lex.mp)
  · intro t
    simp [← hmem]
  · intro t line hline
    obtain ⟨t, ht, heq⟩ := List.mem_map.mp hline
    obtain ⟨rfl, rfl⟩ := Prod.mk.inj heq
    have htouched := (hmem t).mp ht
    obtain ⟨hlow, hhigh⟩ := hfits t htouched
    refine ⟨?_, fun hnames => sampleLine_eq_line hnames _⟩
    rw [readSample_sampleLine m (h.accepts t htouched).1]
    simp only [History.sample, Int64.toInt_ofInt_of_le hlow hhigh]

/-! ## The whole text -/

lemma flatMap_zipIdx {α β : Type*} (l : List α) (f : α → ℕ → List β) :
    (l.zipIdx.flatMap fun x => f x.1 x.2) =
      (List.range l.length).flatMap fun i => (l[i]?.map fun a => f a i).getD [] := by
  induction l using List.reverseRecOn with
  | nil => rfl
  | append_singleton l a ih =>
    have hfront : ∀ i ∈ List.range l.length,
        ((l ++ [a])[i]?.map fun a => f a i).getD [] = (l[i]?.map fun a => f a i).getD [] := by
      intro i hi
      rw [List.getElem?_append_left (List.mem_range.mp hi)]
    rw [List.zipIdx_append, List.flatMap_append, ih, List.length_append, List.length_singleton,
      List.range_succ, List.flatMap_append, List.flatMap_congr hfront]
    simp

/-- The text of one metric of a registry. -/
def Registry.textOf (rt : Runtime) (r : Registry) (target : Target) : Bytes :=
  ((r.metric target).map (Metric.render rt target target.typ)).getD []

/-- The text of a registry with so many counters and gauges, from the texts of the metrics. -/
def assemble (counters gauges : ℕ) (text : Target → Bytes) : Bytes :=
  ((List.range counters).flatMap fun i => text (.counter i)) ++
    ((List.range gauges).flatMap fun i => text (.gauge i))

lemma Registry.render_eq_assemble (rt : Runtime) (r : Registry) :
    r.render rt = assemble r.counters.length r.gauges.length (r.textOf rt) := by
  rw [render, flatMap_zipIdx r.counters fun m i => m.render rt (.counter i) (ascii "counter"),
    flatMap_zipIdx r.gauges fun m i => m.render rt (.gauge i) (ascii "gauge")]
  rfl

lemma assemble_congr {counters gauges : ℕ} {text text' : Target → Bytes}
    (hcounters : ∀ i < counters, text (.counter i) = text' (.counter i))
    (hgauges : ∀ i < gauges, text (.gauge i) = text' (.gauge i)) :
    assemble counters gauges text = assemble counters gauges text' := by
  rw [assemble, assemble,
    List.flatMap_congr fun i hi => hcounters i (List.mem_range.mp hi),
    List.flatMap_congr fun i hi => hgauges i (List.mem_range.mp hi)]

/-! ## Reordered calls -/

/-- The same calls in another order, with the calls on gauges in the order that they had. -/
def Reordered (cs cs' : List Call) : Prop :=
  cs.Perm cs' ∧
    (cs.filter fun c => c.target matches .gauge _) = cs'.filter fun c => c.target matches .gauge _

/-- A call on a counter adds. -/
lemma update_of_counter {c : Call} {i : ℕ} (h : c.target = .counter i) :
    ∃ delta, c.update = .add delta := by
  cases c with
  | counterInc i labelValues => exact ⟨1, rfl⟩
  | counterAdd i delta labelValues => exact ⟨delta, rfl⟩
  | gaugeSet i v labelValues => cases h
  | gaugeInc i labelValues => cases h
  | gaugeDec i labelValues => cases h

lemma history_perm {cs cs' : List Call} (h : cs.Perm cs') (target : Target) :
    (history target cs).Perm (history target cs') := (h.filter _).map _

/-- The order of additions does not matter. -/
lemma exact_perm {hist hist' : History} (h : hist.Perm hist')
    (hadd : ∀ call ∈ hist, ∃ delta, call.2 = .add delta) (t : List Bytes) :
    hist.exact t = hist'.exact t := by
  refine h.foldl_eq' ?_ 0
  intro call hcall other hother x
  obtain ⟨delta, hdelta⟩ := hadd call hcall
  obtain ⟨delta', hdelta'⟩ := hadd other hother
  rw [hdelta, hdelta']
  split_ifs
  · simp only [Update.exact]
    omega
  · rfl
  · rfl
  · rfl

/-- The history of a gauge is that of the calls on gauges. -/
lemma history_gauge (i : ℕ) (cs : List Call) :
    history (.gauge i) cs =
      history (.gauge i) (cs.filter fun c => c.target matches .gauge _) := by
  rw [history, history, List.filter_filter]
  congr 1
  refine List.filter_congr ?_
  intro c _
  cases c <;> simp [Call.target]

lemma exact_reordered {cs cs' : List Call} (h : Reordered cs cs') (target : Target)
    (t : List Bytes) : (history target cs).exact t = (history target cs').exact t := by
  cases target with
  | counter i =>
    refine exact_perm (history_perm h.1 _) ?_ t
    intro call hcall
    obtain ⟨c, hc, rfl⟩ := List.mem_map.mp hcall
    exact update_of_counter (of_decide_eq_true (List.mem_filter.mp hc).2)
  | gauge i => rw [history_gauge i cs, h.2, ← history_gauge]

lemma touched_reordered {cs cs' : List Call} (h : Reordered cs cs') (target : Target)
    (t : List Bytes) : (history target cs).Touched t ↔ (history target cs').Touched t := by
  simp only [History.Touched, (history_perm h.1 target).mem_iff]

/-! ## The result -/

/-- Calls with the right number of label values, without NUL bytes in them, and whose values fit
into 64 bits.  The last is asked only of the value in the end. -/
structure Proper (r : Registry) (cs : List Call) : Prop where
  arity : ∀ c ∈ cs, ∃ m, r.metric c.target = some m ∧
    c.labelValues.length = m.labelNames.length
  noNul : ∀ c ∈ cs, ∀ v ∈ c.labelValues, 0 ∉ v
  fits : ∀ c ∈ cs, -2 ^ 63 ≤ (history c.target cs).exact c.labelValues ∧
    (history c.target cs).exact c.labelValues < 2 ^ 63

lemma Proper.accepts {r : Registry} {cs : List Call} (h : Proper r cs) :
    ∀ c ∈ cs, ∃ m, r.metric c.target = some m ∧ m.Accepts c.labelValues := by
  intro c hc
  obtain ⟨m, hm, hlen⟩ := h.arity c hc
  exact ⟨m, hm, hlen, h.noNul c hc⟩

lemma Proper.fits_of_touched {r : Registry} {cs : List Call} (h : Proper r cs) {target : Target}
    {t : List Bytes} (ht : (history target cs).Touched t) :
    -2 ^ 63 ≤ (history target cs).exact t ∧ (history target cs).exact t < 2 ^ 63 := by
  obtain ⟨u, hu⟩ := ht
  obtain ⟨c, hc, heq⟩ := List.mem_map.mp hu
  obtain ⟨hmem, htarget⟩ := List.mem_filter.mp hc
  have hfits := h.fits c hmem
  rw [of_decide_eq_true htarget] at hfits
  rw [← (Prod.mk.inj heq).1]
  exact hfits

/-- The text of a metric after calls. -/
lemma Registry.Follows.textOf {r₀ r : Registry} {cs : List Call} (h : Follows r₀ cs r)
    (rt : Runtime) {target : Target} {m : Metric} (hm : r₀.metric target = some m) :
    ∃ series, Metric.Follows { m with series := series } (history target cs) ∧
      r.textOf rt target = Metric.render rt target target.typ { m with series := series } := by
  obtain ⟨series, hmetric, hfollows⟩ := h.metric target m hm
  refine ⟨series, hfollows, ?_⟩
  rw [Registry.textOf, hmetric]
  rfl

/-- The same text after calls in another order, and from another runtime. -/
lemma render_reordered {r₀ r r' : Registry} {cs cs' : List Call} {rt rt' : Runtime}
    (hrt : rt.Lawful) (hrt' : rt'.Lawful) (h : Registry.Follows r₀ cs r)
    (h' : Registry.Follows r₀ cs' r') (hcs : Reordered cs cs') :
    r'.render rt' = r.render rt := by
  have htext : ∀ target m, r₀.metric target = some m →
      r'.textOf rt' target = r.textOf rt target := by
    intro target m hm
    obtain ⟨series, hfollows, htext⟩ := h.textOf rt hm
    obtain ⟨series', hfollows', htext'⟩ := h'.textOf rt' hm
    rw [htext, htext']
    exact (Metric.render_congr hrt hrt' hfollows hfollows' (touched_reordered hcs target)
      (exact_reordered hcs target)).symm
  rw [Registry.render_eq_assemble, Registry.render_eq_assemble, h.counters, h.gauges, h'.counters,
    h'.gauges]
  refine assemble_congr ?_ ?_
  · intro i hi
    exact htext (.counter i) _ (List.getElem?_eq_getElem hi)
  · intro i hi
    exact htext (.gauge i) _ (List.getElem?_eq_getElem hi)

/-- **The text of a registry.**  After any registrations and any proper calls, none of which
panics, the text consists of the texts of the counters and the gauges in the order of their
registration.  Each has one line for each tuple of label values that was called, in increasing
lexicographic order, and a line gives back its tuple and the value of the calls.  The text is the
same for calls with the counter updates in another order, and for any order of the maps. -/
theorem render_exposes_calls {rt : Runtime} (hrt : rt.Lawful) (regs : List Registration)
    (cs : List Call) (hcs : Proper (registered regs) cs) :
    ∃ r, (registered regs).calls cs = some r ∧
      (∃ text, r.render rt = assemble (registered regs).counters.length
          (registered regs).gauges.length text ∧
        ∀ target m, (registered regs).metric target = some m →
          Exposes m target.typ (history target cs) (text target)) ∧
      ∀ (rt' : Runtime) (cs' : List Call), rt'.Lawful → Reordered cs cs' →
        ∃ r', (registered regs).calls cs' = some r' ∧ r'.render rt' = r.render rt := by
  have hnew := fun target m => @series_of_registered regs target m
  obtain ⟨r, hr, hfollows⟩ := Registry.follows_calls hnew hcs.accepts
  refine ⟨r, hr, ⟨r.textOf rt, ?_, ?_⟩, ?_⟩
  · rw [Registry.render_eq_assemble, hfollows.counters, hfollows.gauges]
  · intro target m hm
    obtain ⟨series, hseries, htext⟩ := hfollows.textOf rt hm
    rw [htext]
    exact exposes_render hrt hseries fun t => hcs.fits_of_touched
  · intro rt' cs' hrt' hreordered
    obtain ⟨r', hr', hfollows'⟩ := Registry.follows_calls hnew fun c hc =>
      hcs.accepts c (hreordered.1.mem_iff.mpr hc)
    exact ⟨r', hr', render_reordered hrt hrt' hfollows hfollows' hreordered⟩

/-- A runtime that iterates a map as it is stored and sorts by merging. -/
def mergeRuntime : Runtime where
  iterate _ l := l
  sortSlice lt l := l.mergeSort fun a b => !lt b a

lemma mergeRuntime_lawful : mergeRuntime.Lawful where
  iterate _ l := List.Perm.refl l
  perm lt l := List.mergeSort_perm l _
  sorted := by
    intro lt l hasymm htrans
    have hle : ∀ a b c : Sample, (!lt b a) = true → (!lt c b) = true → (!lt c a) = true := by
      intro a b c hab hbc
      simp only [Bool.not_eq_true'] at hab hbc ⊢
      exact htrans c b a hbc hab
    have htotal : ∀ a b : Sample, (!lt b a || !lt a b) = true := by
      intro a b
      cases hab : lt a b with
      | true => simp [hasymm a b hab]
      | false => simp
    refine (List.pairwise_mergeSort hle htotal l).imp ?_
    intro a b hab
    simpa using hab

/-- A labelled counter with two series, one of them with a quote in its label value, and a gauge
without labels. -/
theorem render_exposes_calls_two_metrics :
    ∃ r, (registered [.counter (ascii "packets") (ascii "Packets.") [ascii "path"],
        .gauge (ascii "sessions") (ascii "Sessions.") []]).calls
          [.counterInc 0 [ascii "wi-fi"], .gaugeSet 0 5 [], .counterAdd 0 2 [ascii "\""],
            .gaugeDec 0 []] = some r ∧
      ∃ text, r.render mergeRuntime = assemble 1 1 text ∧
        Exposes ⟨ascii "packets", ascii "Packets.", [ascii "path"], ∅⟩ (ascii "counter")
          [([ascii "wi-fi"], .add 1), ([ascii "\""], .add 2)] (text (.counter 0)) ∧
        Exposes ⟨ascii "sessions", ascii "Sessions.", [], ∅⟩ (ascii "gauge")
          [([], .store 5), ([], .add (-1))] (text (.gauge 0)) := by
  obtain ⟨r, hr, ⟨text, htext, hexposes⟩, -⟩ := render_exposes_calls mergeRuntime_lawful
    [.counter (ascii "packets") (ascii "Packets.") [ascii "path"],
      .gauge (ascii "sessions") (ascii "Sessions.") []]
    [.counterInc 0 [ascii "wi-fi"], .gaugeSet 0 5 [], .counterAdd 0 2 [ascii "\""],
      .gaugeDec 0 []]
    ⟨by simp [registered, Registry.register, Registry.counter, Registry.gauge, newRegistry,
        Registry.metric, Call.target, Call.labelValues], by decide, by decide⟩
  exact ⟨r, hr, text, htext, hexposes (.counter 0) _ rfl, hexposes (.gauge 0) _ rfl⟩

end Gemina.Metrics
