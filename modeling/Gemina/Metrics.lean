/-
# The metrics registry

The counters and gauges of `internal/metrics`: registration, the updates of the labelled series of
a metric, and the text that `Registry.Render` makes of them.

The text passes through two functions whose result the language leaves open: the order in which a
map is iterated, and the order in which `sort.Slice` leaves elements that the comparison does not
tell apart.  Both are parameters here, with the laws that they have.
-/
import Gemina.Strings
import Gemina.Lib.LexOrder
import Gemina.Lib.Quoted

namespace Gemina.Metrics

/-- `sample`: one series of a metric. -/
structure Sample where
  labelValues : List Bytes
  value : Int64

/-- `metric`: the shared state of a counter or gauge vector. -/
structure Metric where
  name : Bytes
  help : Bytes
  labelNames : List Bytes
  series : AList fun _ : Bytes => Sample

/-- `Registry`. -/
structure Registry where
  counters : List Metric
  gauges : List Metric

/-! ## Registration -/

/-- `NewRegistry`. -/
def newRegistry : Registry := ⟨[], []⟩

/-- `Registry.Counter`. -/
def Registry.counter (r : Registry) (name help : Bytes) (labelNames : List Bytes) : Registry :=
  { r with counters := r.counters ++ [⟨name, help, labelNames, ∅⟩] }

/-- `Registry.Gauge`. -/
def Registry.gauge (r : Registry) (name help : Bytes) (labelNames : List Bytes) : Registry :=
  { r with gauges := r.gauges ++ [⟨name, help, labelNames, ∅⟩] }

/-- A registration at start-up. -/
inductive Registration where
  | counter (name help : Bytes) (labelNames : List Bytes)
  | gauge (name help : Bytes) (labelNames : List Bytes)

def Registry.register (r : Registry) : Registration → Registry
  | .counter name help labelNames => r.counter name help labelNames
  | .gauge name help labelNames => r.gauge name help labelNames

/-- The registry after the given registrations. -/
def registered (regs : List Registration) : Registry := regs.foldl Registry.register newRegistry

/-! ## Updates -/

/-- `strings.Join(labelValues, "\x00")`: the key of a series. -/
def seriesKey (labelValues : List Bytes) : Bytes := List.intercalate [0] labelValues

/-- `metric.sampleFor`: the series of the label values, a new one with value zero if there is none
yet.  The wrong number of label values is a panic. -/
def Metric.sampleFor (m : Metric) (labelValues : List Bytes) : Option Sample :=
  if labelValues.length ≠ m.labelNames.length then none
  else some ((m.series.lookup (seriesKey labelValues)).getD ⟨labelValues, 0⟩)

/-- What is done to the atomic integer of a series. -/
inductive Update where
  | add (delta : Int64)
  | store (v : Int64)

def Update.apply (value : Int64) : Update → Int64
  | .add delta => value + delta
  | .store v => v

/-- An update of the series that `sampleFor` returns. -/
def Metric.update (m : Metric) (labelValues : List Bytes) (u : Update) : Option Metric := do
  let s ← m.sampleFor labelValues
  return { m with
    series := m.series.insert (seriesKey labelValues) { s with value := u.apply s.value } }

/-- `CounterVec.Add`. -/
def Metric.counterAdd (m : Metric) (delta : Int64) (labelValues : List Bytes) : Option Metric :=
  m.update labelValues (.add delta)

/-- `CounterVec.Inc`. -/
def Metric.counterInc (m : Metric) (labelValues : List Bytes) : Option Metric :=
  m.counterAdd 1 labelValues

/-- `GaugeVec.Set`. -/
def Metric.gaugeSet (m : Metric) (v : Int64) (labelValues : List Bytes) : Option Metric :=
  m.update labelValues (.store v)

/-- `GaugeVec.Inc`. -/
def Metric.gaugeInc (m : Metric) (labelValues : List Bytes) : Option Metric :=
  m.update labelValues (.add 1)

/-- `GaugeVec.Dec`. -/
def Metric.gaugeDec (m : Metric) (labelValues : List Bytes) : Option Metric :=
  m.update labelValues (.add (-1))

/-- A metric of a registry, by its place among the counters or the gauges. -/
inductive Target where
  | counter (i : ℕ)
  | gauge (i : ℕ)
  deriving DecidableEq

/-- The metric that a vector points to. -/
def Registry.metric (r : Registry) : Target → Option Metric
  | .counter i => r.counters[i]?
  | .gauge i => r.gauges[i]?

/-- An operation on a metric of the registry. -/
def Registry.onMetric (r : Registry) (f : Metric → Option Metric) : Target → Option Registry
  | .counter i => do
    let m ← r.counters[i]?
    let m' ← f m
    return { r with counters := r.counters.set i m' }
  | .gauge i => do
    let m ← r.gauges[i]?
    let m' ← f m
    return { r with gauges := r.gauges.set i m' }

/-- A call of a method of a vector. -/
inductive Call where
  | counterInc (i : ℕ) (labelValues : List Bytes)
  | counterAdd (i : ℕ) (delta : Int64) (labelValues : List Bytes)
  | gaugeSet (i : ℕ) (v : Int64) (labelValues : List Bytes)
  | gaugeInc (i : ℕ) (labelValues : List Bytes)
  | gaugeDec (i : ℕ) (labelValues : List Bytes)

def Registry.call (r : Registry) : Call → Option Registry
  | .counterInc i labelValues => r.onMetric (·.counterInc labelValues) (.counter i)
  | .counterAdd i delta labelValues => r.onMetric (·.counterAdd delta labelValues) (.counter i)
  | .gaugeSet i v labelValues => r.onMetric (·.gaugeSet v labelValues) (.gauge i)
  | .gaugeInc i labelValues => r.onMetric (·.gaugeInc labelValues) (.gauge i)
  | .gaugeDec i labelValues => r.onMetric (·.gaugeDec labelValues) (.gauge i)

/-- A sequence of calls. -/
def Registry.calls (r : Registry) (cs : List Call) : Option Registry := cs.foldlM Registry.call r

/-! ## Rendering -/

/-- The comparison `<` of strings. -/
def stringLess (a b : Bytes) : Bool := LexOrder.less (fun c d => decide (c < d)) a b

/-- `less`. -/
def less : List Bytes → List Bytes → Bool
  | [], b => decide (0 < b.length)
  | _ :: _, [] => false
  | v :: a, w :: b => if v ≠ w then stringLess v w else less a b

/-- `escape`.  The replacer has single characters only, so it replaces every byte on its own. -/
def escape (v : Bytes) : Bytes :=
  if !v.any fun c => c ∈ [92, 34, 10] then v else Quoted.escape v

/-- The loop of `writeLabels`. -/
def writePairs (first : Bool) : List Bytes → List Bytes → Bytes
  | name :: names, v :: values =>
    (if first then [] else ascii ",") ++
      (name ++ (ascii "=\"" ++ (escape v ++ 34 :: writePairs false names values)))
  | _, _ => []

/-- `writeLabels`. -/
def writeLabels (names values : List Bytes) : Bytes :=
  if names = [] then [] else ascii "\x7b" ++ (writePairs true names values ++ ascii "\x7d")

/-- The line of a series. -/
def Metric.sampleLine (m : Metric) (s : Sample) : Bytes :=
  m.name ++ (writeLabels m.labelNames s.labelValues ++ (ascii " " ++ (formatInt s.value ++ [10])))

/-- The two lines before the series of a metric. -/
def Metric.header (m : Metric) (typ : Bytes) : Bytes :=
  ascii "# HELP " ++ m.name ++ ascii " " ++ m.help ++ [10] ++
    (ascii "# TYPE " ++ m.name ++ ascii " " ++ typ ++ [10])

/-- What the language leaves open: the order in which the map of each metric is iterated, and
`sort.Slice`. -/
structure Runtime where
  iterate : Target → List Sample → List Sample
  sortSlice : (Sample → Sample → Bool) → List Sample → List Sample

/-- An iteration visits every entry once, and `sort.Slice` sorts if its comparison is a strict weak
order. -/
structure Runtime.Lawful (rt : Runtime) : Prop where
  iterate : ∀ target l, (rt.iterate target l).Perm l
  perm : ∀ lt l, (rt.sortSlice lt l).Perm l
  sorted : ∀ lt l, (∀ a b, lt a b = true → lt b a = false) →
    (∀ a b c, lt a b = false → lt b c = false → lt a c = false) →
    (rt.sortSlice lt l).Pairwise fun a b => lt b a = false

/-- The samples of a metric in the order of their lines. -/
def Metric.sortedSamples (rt : Runtime) (target : Target) (m : Metric) : List Sample :=
  let samples := rt.iterate target (m.series.entries.map Sigma.snd)
  rt.sortSlice (fun a b => less a.labelValues b.labelValues) samples

/-- `metric.render`. -/
def Metric.render (rt : Runtime) (target : Target) (typ : Bytes) (m : Metric) : Bytes :=
  m.header typ ++ (m.sortedSamples rt target).flatMap m.sampleLine

/-- The type of a metric in the text. -/
def Target.typ : Target → Bytes
  | .counter _ => ascii "counter"
  | .gauge _ => ascii "gauge"

/-- `Registry.Render`. -/
def Registry.render (rt : Runtime) (r : Registry) : Bytes :=
  (r.counters.zipIdx.flatMap fun x => x.1.render rt (.counter x.2) (ascii "counter")) ++
    (r.gauges.zipIdx.flatMap fun x => x.1.render rt (.gauge x.2) (ascii "gauge"))

/-! ## One update -/

/-- **The key tells the label values of one metric apart**, if there is no NUL byte in them. -/
lemma seriesKey_inj {a b : List Bytes} (hlen : a.length = b.length) (ha : ∀ v ∈ a, 0 ∉ v)
    (hb : ∀ v ∈ b, 0 ∉ v) (h : seriesKey a = seriesKey b) : a = b := by
  by_cases hnil : a = []
  · subst hnil
    exact (List.eq_nil_of_length_eq_zero hlen.symm).symm
  · have hnil' : b ≠ [] := by
      rintro rfl
      exact hnil (List.eq_nil_of_length_eq_zero hlen)
    rw [← List.splitOn_intercalate 0 ha hnil, ← List.splitOn_intercalate 0 hb hnil']
    exact congrArg (List.splitOn 0) h

/-- The value of an update in the integers. -/
def Update.exact (value : ℤ) : Update → ℤ
  | .add delta => value + delta.toInt
  | .store v => v.toInt

/-- The 64-bit integer follows the exact value, also over an overflow. -/
lemma Update.apply_ofInt (u : Update) (x : ℤ) :
    u.apply (Int64.ofInt x) = Int64.ofInt (u.exact x) := by
  cases u with
  | add delta => rw [apply, exact, Int64.ofInt_add, Int64.ofInt_toInt]
  | store v => rw [apply, exact, Int64.ofInt_toInt]

/-- What was done to one metric: label values and updates, in the order of the calls. -/
abbrev History := List (List Bytes × Update)

/-- There was a call with these label values. -/
def History.Touched (hist : History) (labelValues : List Bytes) : Prop :=
  ∃ u, (labelValues, u) ∈ hist

/-- The updates of the label values, from zero. -/
def History.exact (hist : History) (labelValues : List Bytes) : ℤ :=
  hist.foldl (fun x call => if call.1 = labelValues then call.2.exact x else x) 0

/-- The series of the label values. -/
def History.sample (hist : History) (labelValues : List Bytes) : Sample :=
  ⟨labelValues, Int64.ofInt (hist.exact labelValues)⟩

/-- The label values fit the metric and have no NUL byte. -/
def Metric.Accepts (m : Metric) (labelValues : List Bytes) : Prop :=
  labelValues.length = m.labelNames.length ∧ ∀ v ∈ labelValues, 0 ∉ v

/-- The metric has exactly the series of its history. -/
structure Metric.Follows (m : Metric) (hist : History) : Prop where
  accepts : ∀ labelValues, hist.Touched labelValues → m.Accepts labelValues
  lookup : ∀ key s, m.series.lookup key = some s ↔
    ∃ labelValues, hist.Touched labelValues ∧ seriesKey labelValues = key ∧
      hist.sample labelValues = s

namespace History

variable (hist : History) (labelValues other : List Bytes) (u : Update)

lemma touched_concat :
    History.Touched (hist ++ [(labelValues, u)]) other ↔
      hist.Touched other ∨ other = labelValues := by
  simp [Touched, exists_or]

lemma sample_concat_self :
    History.sample (hist ++ [(labelValues, u)]) labelValues =
      { hist.sample labelValues with value := u.apply (hist.sample labelValues).value } := by
  simp [sample, exact, Update.apply_ofInt]

variable {labelValues other}

lemma sample_concat_of_ne (h : other ≠ labelValues) :
    History.sample (hist ++ [(labelValues, u)]) other = hist.sample other := by
  simp [sample, exact, h.symm]

variable {hist}

lemma exact_of_not_touched (h : ¬ hist.Touched labelValues) : hist.exact labelValues = 0 := by
  induction hist using List.reverseRecOn with
  | nil => rfl
  | append_singleton hist call ih =>
    obtain ⟨values, u⟩ := call
    rw [touched_concat, not_or] at h
    rw [← ih h.1]
    simp [exact, Ne.symm h.2]

end History

namespace Metric

variable {m : Metric} {hist : History} {labelValues : List Bytes}

lemma follows_nil (h : m.series = ∅) : m.Follows [] where
  accepts := by
    rintro _ ⟨u, hu⟩
    simp at hu
  lookup := by
    intro key s
    simp [h, History.Touched]

/-- The series that is updated, new or not, has the value of the history. -/
lemma sampleFor_of_follows (h : m.Follows hist) (hv : m.Accepts labelValues) :
    m.sampleFor labelValues = some (hist.sample labelValues) := by
  rw [sampleFor, if_neg (by simpa using hv.1)]
  by_cases ht : hist.Touched labelValues
  · rw [(h.lookup _ _).mpr ⟨labelValues, ht, rfl, rfl⟩, Option.getD_some]
  · have hnone : m.series.lookup (seriesKey labelValues) = none := by
      rw [Option.eq_none_iff_forall_ne_some]
      intro s hs
      -- a series under this key would be one of the label values themselves
      obtain ⟨other, htouched, hkey, -⟩ := (h.lookup _ _).mp hs
      have hother := h.accepts other htouched
      have heq := seriesKey_inj (hother.1.trans hv.1.symm) hother.2 hv.2 hkey
      exact ht (heq ▸ htouched)
    rw [hnone, Option.getD_none, History.sample, History.exact_of_not_touched ht]
    rfl

lemma update_eq (h : m.Follows hist) (hv : m.Accepts labelValues) (u : Update) :
    m.update labelValues u = some { m with
      series := m.series.insert (seriesKey labelValues)
        (History.sample (hist ++ [(labelValues, u)]) labelValues) } := by
  rw [update, sampleFor_of_follows h hv, History.sample_concat_self]
  rfl

/-- **An update adds one call to the history of its metric.** -/
lemma update_of_follows (h : m.Follows hist) (hv : m.Accepts labelValues) (u : Update) :
    ∃ series, m.update labelValues u = some { m with series := series } ∧
      Follows { m with series := series } (hist ++ [(labelValues, u)]) := by
  have haccepts : ∀ other, History.Touched (hist ++ [(labelValues, u)]) other →
      m.Accepts other := by
    intro other ht
    rcases (History.touched_concat ..).mp ht with ht | rfl
    · exact h.accepts other ht
    · exact hv
  refine ⟨_, update_eq h hv u, haccepts, ?_⟩
  intro key s
  by_cases hkey : key = seriesKey labelValues
  · subst hkey
    rw [AList.lookup_insert]
    constructor
    · intro hs
      exact ⟨labelValues, (History.touched_concat ..).mpr (Or.inr rfl), rfl, Option.some.inj hs⟩
    · rintro ⟨other, ht, hkey, rfl⟩
      have hother := haccepts other ht
      rw [seriesKey_inj (hother.1.trans hv.1.symm) hother.2 hv.2 hkey]
  · rw [AList.lookup_insert_ne hkey, h.lookup]
    -- the other keys have their label values and series as before
    constructor
    · rintro ⟨other, ht, rfl, rfl⟩
      have hne : other ≠ labelValues := fun heq => hkey (congrArg seriesKey heq)
      exact ⟨other, (History.touched_concat ..).mpr (Or.inl ht), rfl,
        History.sample_concat_of_ne hist u hne⟩
    · rintro ⟨other, ht, rfl, rfl⟩
      have hne : other ≠ labelValues := fun heq => hkey (congrArg seriesKey heq)
      rcases (History.touched_concat ..).mp ht with ht | heq
      · exact ⟨other, ht, rfl, (History.sample_concat_of_ne hist u hne).symm⟩
      · exact absurd heq hne

end Metric

/-! ## Sequences of calls -/

namespace Call

def target : Call → Target
  | counterInc i _ => .counter i
  | counterAdd i _ _ => .counter i
  | gaugeSet i _ _ => .gauge i
  | gaugeInc i _ => .gauge i
  | gaugeDec i _ => .gauge i

def labelValues : Call → List Bytes
  | counterInc _ labelValues => labelValues
  | counterAdd _ _ labelValues => labelValues
  | gaugeSet _ _ labelValues => labelValues
  | gaugeInc _ labelValues => labelValues
  | gaugeDec _ labelValues => labelValues

def update : Call → Update
  | counterInc _ _ => .add 1
  | counterAdd _ delta _ => .add delta
  | gaugeSet _ v _ => .store v
  | gaugeInc _ _ => .add 1
  | gaugeDec _ _ => .add (-1)

end Call

/-- The calls on one metric. -/
def history (target : Target) (cs : List Call) : History :=
  (cs.filter fun c => c.target = target).map fun c => (c.labelValues, c.update)

lemma history_concat (target : Target) (cs : List Call) (c : Call) :
    history target (cs ++ [c]) =
      history target cs ++ (if c.target = target then [(c.labelValues, c.update)] else []) := by
  rw [history, List.filter_append, List.map_append, ← history]
  by_cases h : c.target = target
  · simp [h]
  · simp [h]

namespace Registry

variable {r : Registry}

/-- Every call is an update of its target. -/
lemma call_eq (r : Registry) (c : Call) :
    r.call c = r.onMetric (fun m => m.update c.labelValues c.update) c.target := by
  cases c <;> rfl

/-- An operation on one metric leaves the others alone. -/
lemma onMetric_of_metric {target : Target} {m m' : Metric} {f : Metric → Option Metric}
    (hm : r.metric target = some m) (hf : f m = some m') :
    ∃ r' : Registry, r.onMetric f target = some r' ∧ r'.metric target = some m' ∧
      (∀ other, other ≠ target → r'.metric other = r.metric other) ∧
      r'.counters.length = r.counters.length ∧ r'.gauges.length = r.gauges.length := by
  cases target with
  | counter i =>
    rw [metric] at hm
    refine ⟨{ r with counters := r.counters.set i m' }, by simp [onMetric, hm, hf], ?_, ?_, ?_, rfl⟩
    · rw [metric, List.getElem?_set_self (List.getElem?_eq_some_iff.mp hm).1]
    · intro other hne
      cases other with
      | counter j =>
        rw [metric, metric, List.getElem?_set_ne]
        rintro rfl
        exact hne rfl
      | gauge j => rfl
    · exact List.length_set
  | gauge i =>
    rw [metric] at hm
    refine ⟨{ r with gauges := r.gauges.set i m' }, by simp [onMetric, hm, hf], ?_, ?_, rfl, ?_⟩
    · rw [metric, List.getElem?_set_self (List.getElem?_eq_some_iff.mp hm).1]
    · intro other hne
      cases other with
      | counter j => rfl
      | gauge j =>
        rw [metric, metric, List.getElem?_set_ne]
        rintro rfl
        exact hne rfl
    · exact List.length_set

/-- A registry after calls: the metrics are those of the registration, with the series of their
histories. -/
structure Follows (r₀ : Registry) (cs : List Call) (r : Registry) : Prop where
  metric : ∀ target m, r₀.metric target = some m →
    ∃ series, r.metric target = some { m with series := series } ∧
      Metric.Follows { m with series := series } (history target cs)
  counters : r.counters.length = r₀.counters.length
  gauges : r.gauges.length = r₀.gauges.length

/-- **One call** on a metric that accepts its label values. -/
lemma Follows.call {r₀ : Registry} {cs : List Call} (h : Follows r₀ cs r) {c : Call} {m : Metric}
    (hm : r₀.metric c.target = some m) (hv : m.Accepts c.labelValues) :
    ∃ r', r.call c = some r' ∧ Follows r₀ (cs ++ [c]) r' := by
  obtain ⟨series, hmetric, hfollows⟩ := h.metric _ _ hm
  obtain ⟨series', hupdate, hfollows'⟩ := Metric.update_of_follows hfollows hv c.update
  obtain ⟨r', hcall, hself, hother, hcounters, hgauges⟩ :=
    onMetric_of_metric (f := fun m => m.update c.labelValues c.update) hmetric hupdate
  refine ⟨r', by rw [call_eq]; exact hcall, ?_, hcounters.trans h.counters,
    hgauges.trans h.gauges⟩
  intro target m' hm'
  rw [history_concat]
  by_cases heq : target = c.target
  · subst heq
    obtain rfl : m = m' := Option.some.inj (hm.symm.trans hm')
    rw [if_pos rfl]
    exact ⟨series', hself, hfollows'⟩
  · rw [if_neg (Ne.symm heq), List.append_nil, hother target heq]
    exact h.metric target m' hm'

/-- **A sequence of calls**, each with label values that its metric accepts. -/
lemma follows_calls {r₀ : Registry} (hnew : ∀ target m, r₀.metric target = some m → m.series = ∅)
    {cs : List Call}
    (hcs : ∀ c ∈ cs, ∃ m, r₀.metric c.target = some m ∧ m.Accepts c.labelValues) :
    ∃ r, r₀.calls cs = some r ∧ Follows r₀ cs r := by
  induction cs using List.reverseRecOn with
  | nil =>
    refine ⟨r₀, rfl, ?_, rfl, rfl⟩
    intro target m hm
    exact ⟨m.series, hm, Metric.follows_nil (hnew target m hm)⟩
  | append_singleton cs c ih =>
    obtain ⟨r, hr, hfollows⟩ := ih fun d hd => hcs d (List.mem_append_left _ hd)
    obtain ⟨m, hm, hv⟩ := hcs c (by simp)
    obtain ⟨r', hcall, hfollows'⟩ := hfollows.call hm hv
    refine ⟨r', ?_, hfollows'⟩
    rw [calls] at hr ⊢
    simp [List.foldlM_append, hr, hcall]

end Registry

/-- A registered metric has no series yet. -/
lemma series_of_registered (regs : List Registration) {target : Target} {m : Metric}
    (h : (registered regs).metric target = some m) : m.series = ∅ := by
  have hmem : m ∈ (registered regs).counters ++ (registered regs).gauges := by
    cases target with
    | counter i => exact List.mem_append_left _ (List.mem_of_getElem? h)
    | gauge i => exact List.mem_append_right _ (List.mem_of_getElem? h)
  clear h
  induction regs using List.reverseRecOn with
  | nil => simp [registered, newRegistry] at hmem
  | append_singleton regs reg ih =>
    rw [registered, List.foldl_append, ← registered] at hmem
    cases reg with
    | counter name help labelNames =>
      simp only [List.foldl_cons, List.foldl_nil, Registry.register, Registry.counter,
        List.mem_append, List.mem_singleton] at hmem ih
      rcases hmem with (hmem | rfl) | hmem
      · exact ih (Or.inl hmem)
      · rfl
      · exact ih (Or.inr hmem)
    | gauge name help labelNames =>
      simp only [List.foldl_cons, List.foldl_nil, Registry.register, Registry.gauge,
        List.mem_append, List.mem_singleton] at hmem ih
      rcases hmem with hmem | hmem | rfl
      · exact ih (Or.inl hmem)
      · exact ih (Or.inr hmem)
      · rfl

end Gemina.Metrics
