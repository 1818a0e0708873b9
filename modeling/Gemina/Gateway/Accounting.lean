/-
# What the metrics of the gateway account for

The text of the metrics adds up over every run: it shows how many hellos were admitted and refused,
what was decided about the data datagrams, and what became of every packet that was delivered to the
exit path.

The order of the file is: what a turn adds to a metric; the balance of a turn and of a run; the
result.
-/
import Gemina.Gateway.Turns

namespace Gemina
namespace DataGateway

variable {C : Crypto}

/-! ## The sums -/

/-- What a report adds to a metric of the exit path. -/
def exitAmounts : Metrics.Target → Metric → List (List Bytes × ℤ)
  | .counter 2, .forwarded _ => [([], 1)]
  | .counter 3, .forwarded bytes => [([], bytes)]
  | .counter 4, .returned _ => [([], 1)]
  | .counter 5, .returned bytes => [([], bytes)]
  | .counter 6, .dropped reason => [([ascii reason], 1)]
  | _, _ => []

/-- What a turn adds to a metric. -/
def Happened.amounts : Metrics.Target → Happened → List (List Bytes × ℤ)
  | .counter 0, .served result _ _ =>
    if result.record.admitted then [([ascii "admitted"], 1)]
    else if result.record.kind = .clientHello then [([ascii "rejected"], 1)] else []
  | .counter 1, .served _ decision _ => decision.toList.map fun label => ([ascii label], 1)
  | .gauge 0, h => if h.admitted then [([], 1)] else []
  | target, h => h.exits.flatMap (exitAmounts target)

/-- What a run adds to a metric. -/
def amounts (target : Metrics.Target) (hs : List Happened) : List (List Bytes × ℤ) :=
  hs.flatMap (Happened.amounts target)

lemma amounts_cons (target : Metrics.Target) (h : Happened) (hs : List Happened) :
    amounts target (h :: hs) = h.amounts target ++ amounts target hs := rfl

lemma amounts_concat (target : Metrics.Target) (hs : List Happened) (h : Happened) :
    amounts target (hs ++ [h]) = amounts target hs ++ h.amounts target := by
  simp [amounts]

lemma history_exitCalls (i : ℕ) (ms : List Metric) :
    Metrics.history (.counter i) (ms.flatMap exitCalls) =
      Metrics.added (ms.flatMap (exitAmounts (.counter i))) := by
  induction ms with
  | nil => rfl
  | cons m ms ih =>
    rw [List.flatMap_cons, List.flatMap_cons, Metrics.history_append, Metrics.added_append, ih]
    congr 1
    rcases i with _ | _ | _ | _ | _ | _ | _ | i <;> cases m <;>
      simp [Metrics.history, exitCalls, exitAmounts, Metrics.added, Metrics.Call.target,
        Metrics.Call.labelValues, Metrics.Call.update]

lemma history_helloCalls (i n : ℕ) (rec : DataRecord) :
    Metrics.history (.counter i) (helloCalls n rec) =
      if i = 0 then Metrics.added (if rec.admitted then [([ascii "admitted"], 1)]
        else if rec.kind = .clientHello then [([ascii "rejected"], 1)] else [])
      else [] := by
  rw [helloCalls]
  rcases i with _ | i <;> split_ifs <;>
    simp_all [Metrics.history, incHandshakes, setActiveSession, Metrics.added, Metrics.Call.target,
      Metrics.Call.labelValues, Metrics.Call.update]

lemma history_decision (i : ℕ) (dec : Option String) :
    Metrics.history (.counter i) (dec.toList.map incDataPackets) =
      if i = 1 then Metrics.added (dec.toList.map fun label => ([ascii label], 1)) else [] := by
  rcases dec with _ | label
  · simp [Metrics.history, Metrics.added]
  · by_cases hi : i = 1
    · simp [Metrics.history, hi, incDataPackets, Metrics.added, Metrics.Call.target,
        Metrics.Call.labelValues, Metrics.Call.update]
    · simp [Metrics.history, hi, Ne.symm hi, incDataPackets, Metrics.Call.target]

/-- The calls of a turn on a counter add what the turn adds. -/
lemma history_calls (i n : ℕ) (h : Happened) :
    Metrics.history (.counter i) (h.calls n) = Metrics.added (h.amounts (.counter i)) := by
  have hnil : ∀ j < 2, ∀ ms : List Metric, ms.flatMap (exitAmounts (.counter j)) = [] := by
    intro j hj ms
    rw [List.flatMap_eq_nil_iff]
    intro m _
    interval_cases j <;> rfl
  cases h with
  | served result dec egress =>
    rw [Happened.calls, Metrics.history_append, Metrics.history_append, history_helloCalls,
      history_decision, history_exitCalls]
    rcases i with _ | _ | i
    · simp [Happened.amounts, hnil 0 (by omega), Metrics.added]
    · simp [Happened.amounts, hnil 1 (by omega), Metrics.added]
    · simp [Happened.amounts, Happened.exits]
  | returned result =>
    rw [Happened.calls, history_exitCalls]
    rcases i with _ | _ | i <;> rfl

lemma history_allCalls (i n : ℕ) (hs : List Happened) :
    Metrics.history (.counter i) (allCalls n hs) = Metrics.added (amounts (.counter i) hs) := by
  induction hs generalizing n with
  | nil => rfl
  | cons h hs ih =>
    rw [allCalls, Metrics.history_append, history_calls, ih, amounts_cons, Metrics.added_append]

/-- The gauge is set to one more by every admitted hello. -/
lemma history_gauge_calls (n : ℕ) (h : Happened) :
    Metrics.history (.gauge 0) (h.calls n) =
      if h.admitted then [([], .store (Int64.ofInt (n + 1 : ℕ)))] else [] := by
  have hexit : ∀ ms : List Metric, Metrics.history (.gauge 0) (ms.flatMap exitCalls) = [] := by
    intro ms
    induction ms with
    | nil => rfl
    | cons m ms ih =>
      rw [List.flatMap_cons, Metrics.history_append, ih]
      cases m <;> rfl
  cases h with
  | served result dec egress =>
    have hdec : Metrics.history (.gauge 0) (dec.toList.map incDataPackets) = [] := by
      cases dec <;> rfl
    rw [Happened.calls, Metrics.history_append, Metrics.history_append, hexit, hdec, helloCalls,
      Happened.admitted]
    split_ifs <;> rfl
  | returned result => exact hexit _

lemma total_gauge (hs : List Happened) :
    Metrics.total (amounts (.gauge 0) hs) [] = (admissions hs : ℤ) := by
  induction hs using List.reverseRecOn with
  | nil => rfl
  | append_singleton hs h ih =>
    rw [amounts_concat, Metrics.total_append, ih, admissions_concat, Happened.amounts]
    split
    · simp [Metrics.total_singleton]
    · simp [Metrics.total]

/-- The gauge shows how many hellos were admitted. -/
lemma amounts_gauge {hs : List Happened} (hfits : admissions hs < 2 ^ 63) :
    Metrics.Amounts (Metrics.history (.gauge 0) (allCalls 0 hs)) (amounts (.gauge 0) hs) := by
  induction hs using List.reverseRecOn with
  | nil => exact ⟨fun t => by simp [allCalls, Metrics.history, amounts, Metrics.History.Touched],
      fun t => rfl⟩
  | append_singleton hs h ih =>
    rw [admissions_concat] at hfits
    have ih := ih (by split at hfits <;> omega)
    rw [allCalls_concat, Metrics.history_append, history_gauge_calls, amounts_concat, zero_add,
      Happened.amounts]
    by_cases hadm : h.admitted = true
    · rw [if_pos hadm] at hfits
      simp only [hadm, if_true]
      -- the gauge is not counted up but set, to the number that the sum has reached
      refine ih.concat ?_
      rw [total_gauge, Metrics.Update.exact, Int64.toInt_ofInt_of_le (by omega) (by omega)]
      push_cast
      rfl
    · simp only [hadm]
      simpa using ih

lemma exitAmounts_nonneg (target : Metrics.Target) (m : Metric) :
    ∀ e ∈ exitAmounts target m, 0 ≤ e.2 := by
  intro e he
  rw [exitAmounts.eq_def] at he
  split at he <;> simp_all

/-- No turn takes anything back. -/
lemma amounts_nonneg (target : Metrics.Target) (hs : List Happened) :
    ∀ e ∈ amounts target hs, 0 ≤ e.2 := by
  intro e he
  obtain ⟨h, -, he⟩ := List.mem_flatMap.mp he
  rw [Happened.amounts.eq_def] at he
  split at he
  · split_ifs at he <;> simp_all
  · obtain ⟨label, -, rfl⟩ := List.mem_map.mp he
    simp
  · split_ifs at he <;> simp_all
  · obtain ⟨m, -, he⟩ := List.mem_flatMap.mp he
    exact exitAmounts_nonneg target m e he

/-- Nothing is added to a metric that there is not. -/
lemma amounts_of_unregistered {target : Metrics.Target}
    (h : (Metrics.registered registrations).metric target = none) (hs : List Happened) :
    amounts target hs = [] := by
  have hexits : ∀ h : Happened, (∀ m, exitAmounts target m = []) →
      h.exits.flatMap (exitAmounts target) = [] := by
    intro h hnil
    simp [hnil]
  rw [amounts, List.flatMap_eq_nil_iff]
  intro h' _
  cases target with
  | counter i =>
    rcases i with _ | _ | _ | _ | _ | _ | _ | i <;> cases h
    exact hexits h' fun m => rfl
  | gauge i =>
    rcases i with _ | i <;> cases h
    exact hexits h' fun m => rfl

/-- What was done to a metric amounts to what the turns add. -/
lemma amounts_allCalls {hs : List Happened} {target : Metrics.Target} {m : Metrics.Metric}
    (hm : (Metrics.registered registrations).metric target = some m)
    (hfits : ∀ t, Metrics.total (amounts target hs) t < 2 ^ 63) :
    Metrics.Amounts (Metrics.history target (allCalls 0 hs)) (amounts target hs) := by
  cases target with
  | counter i =>
    rw [history_allCalls]
    refine Metrics.amounts_added ?_
    intro e he
    have hnonneg := amounts_nonneg (.counter i) hs
    have hle := Metrics.le_total hnonneg he
    have := hnonneg e he
    have := hfits e.1
    omega
  | gauge i =>
    obtain rfl : i = 0 := by
      rcases i with _ | i
      · rfl
      · cases hm
    refine amounts_gauge ?_
    have := hfits []
    rw [total_gauge] at this
    exact_mod_cast this

/-! ## The balance

What the metrics show of one turn balances, and so does what they show of a run. -/

/-- The drops for the reasons of `Egress`. -/
def egressDrops (entries : List (List Bytes × ℤ)) : ℤ :=
  (egressReasons.map fun reason => Metrics.total entries [ascii reason]).sum

/-- What the metrics show balances: every admitted hello is an active session; every first copy is
forwarded or dropped by the exit path, if it is on; and there are so many debug records as there are
refused hellos and drops. -/
structure Balanced (on : Bool) (logged : ℕ) (sums : Metrics.Target → List (List Bytes × ℤ)) :
    Prop where
  admitted : Metrics.total (sums (.counter 0)) [ascii "admitted"] =
    Metrics.total (sums (.gauge 0)) []
  delivered : on = true → Metrics.total (sums (.counter 1)) [ascii "first-copy"] =
    Metrics.total (sums (.counter 2)) [] + egressDrops (sums (.counter 6))
  logged_eq : (logged : ℤ) = Metrics.total (sums (.counter 0)) [ascii "rejected"] +
    egressDrops (sums (.counter 6))

lemma egressDrops_append (entries entries' : List (List Bytes × ℤ)) :
    egressDrops (entries ++ entries') = egressDrops entries + egressDrops entries' := by
  simp only [egressDrops, egressReasons, List.map_cons, List.map_nil, List.sum_cons, List.sum_nil,
    Metrics.total_append]
  ring

/-- What balances can be added up. -/
lemma Balanced.append {on : Bool} {logged logged' : ℕ}
    {sums sums' : Metrics.Target → List (List Bytes × ℤ)} (h : Balanced on logged sums)
    (h' : Balanced on logged' sums') :
    Balanced on (logged + logged') fun target => sums target ++ sums' target := by
  refine ⟨?_, ?_, ?_⟩
  · rw [Metrics.total_append, Metrics.total_append, h.admitted, h'.admitted]
  · intro hon
    rw [Metrics.total_append, Metrics.total_append, egressDrops_append, h.delivered hon,
      h'.delivered hon]
    ring
  · rw [Metrics.total_append, egressDrops_append]
    push_cast
    rw [h.logged_eq, h'.logged_eq]
    ring

/-- A datagram is delivered exactly if the decision is that it is a first copy. -/
lemma decision_eq_firstCopy_iff (C : Crypto) (T : TokenLib) (E : Cipher) (g : DataGateway)
    (amb : Ambient) (b : Bytes) :
    g.decision E b = some "first-copy" ↔ (g.handleDatagram C T E amb b).2.1.deliver = true := by
  rcases hkind : classifyDatagram b with _ | _ | _ | _ | _
  · simp [decision, handleDatagram, hkind]
  · rcases hc : g.dataPlane.handleClassified E g.store.sessionKey b with ⟨e | ⟨payload, dec⟩, d⟩
    · simp [decision, handleDatagram, handleData, hkind, hc]
    · cases dec <;> simp [decision, handleDatagram, handleData, hkind, hc]
  · rcases hadm : g.admitHello C T amb b with ⟨e | answer, g'⟩
    · simp [decision, handleDatagram, handleHandshake, hkind, hadm]
    · simp [decision, handleDatagram, handleHandshake, hkind, hadm]
  · simp [decision, handleDatagram, hkind]
  · rcases hp : decodePing b with e | ⟨_ | _, nonce⟩ <;>
      simp [decision, handleDatagram, hkind, hp]

/-- What the exit path may report of a delivered packet. -/
def EgressReport (m : Metric) : Prop :=
  (∃ bytes, m = .forwarded bytes) ∨ ∃ reason ∈ egressReasons, m = .dropped reason

section served

variable (result : Served) {dec : Option String} {egress : Option Metric}

lemma total_admitted :
    Metrics.total ((Happened.served result dec egress).amounts (.counter 0)) [ascii "admitted"] =
      if result.record.admitted then 1 else 0 := by
  have hne : Metrics.total [([ascii "rejected"], 1)] [ascii "admitted"] = 0 := by decide +kernel
  simp only [Happened.amounts]
  split_ifs
  · simp [Metrics.total_singleton]
  · exact hne
  · rfl

lemma total_rejected :
    Metrics.total ((Happened.served result dec egress).amounts (.counter 0)) [ascii "rejected"] =
      if refusedHello result.record then 1 else 0 := by
  have hne : Metrics.total [([ascii "admitted"], 1)] [ascii "rejected"] = 0 := by decide +kernel
  simp only [Happened.amounts]
  by_cases hadm : result.record.admitted = true
  · simpa [refusedHello, hadm] using hne
  · by_cases hkind : result.record.kind = .clientHello
    · simp [refusedHello, hadm, hkind, Metrics.total_singleton]
    · simp [refusedHello, hadm, hkind, Metrics.total]

lemma total_firstCopy (hdec : ∀ label, dec = some label → label ∈ decisionLabels) :
    Metrics.total ((Happened.served result dec egress).amounts (.counter 1)) [ascii "first-copy"] =
      if dec = some "first-copy" then 1 else 0 := by
  have hlabels : ∀ label ∈ decisionLabels,
      Metrics.total [([ascii label], 1)] [ascii "first-copy"] =
        if label = "first-copy" then 1 else 0 := by decide +kernel
  rcases dec with _ | label
  · rfl
  · simpa [Happened.amounts] using hlabels label (hdec label rfl)

lemma egressDrops_served (hegress : ∀ m, egress = some m → EgressReport m) :
    egressDrops ((Happened.served result dec egress).amounts (.counter 6)) =
      if egress.any isDropped then 1 else 0 := by
  have hreasons : ∀ reason ∈ egressReasons, egressDrops [([ascii reason], 1)] = 1 := by
    decide +kernel
  rcases egress with _ | m
  · rfl
  · rcases hegress m rfl with ⟨bytes, rfl⟩ | ⟨reason, hreason, rfl⟩
    · rfl
    · exact hreasons reason hreason

lemma total_forwarded (hegress : ∀ m, egress = some m → EgressReport m) :
    Metrics.total ((Happened.served result dec egress).amounts (.counter 2)) [] =
      if egress.any fun m => !isDropped m then 1 else 0 := by
  rcases egress with _ | m
  · rfl
  · rcases hegress m rfl with ⟨bytes, rfl⟩ | ⟨reason, hreason, rfl⟩ <;> rfl

/-- A turn of `Serve` balances. -/
lemma balanced_served {on : Bool}
    (hdec : ∀ label, dec = some label → label ∈ decisionLabels)
    (hegress : ∀ m, egress = some m → EgressReport m)
    (hiff : on = true → (dec = some "first-copy" ↔ egress.isSome = true)) :
    Balanced on (Happened.served result dec egress).logged fun target =>
      (Happened.served result dec egress).amounts target := by
  refine ⟨?_, ?_, ?_⟩
  · rw [total_admitted, Happened.amounts, Happened.admitted]
    split <;> rfl
  · intro hon
    rw [total_firstCopy result hdec, total_forwarded result hegress,
      egressDrops_served result hegress, if_congr (hiff hon) rfl rfl]
    rcases egress with _ | m
    · rfl
    · cases hm : isDropped m <;> simp [hm]
  · rw [total_rejected, egressDrops_served result hegress, Happened.logged]
    push_cast
    rfl

end served

/-- A turn of `ServeReturn` balances: it adds nothing to what the balance is about. -/
lemma balanced_returned {on : Bool} {result : ReturnResult}
    (h : ∀ m ∈ result.metrics,
      (∃ bytes, m = .returned bytes) ∨ ∃ reason ∈ returnReasons, m = .dropped reason) :
    Balanced on (Happened.returned result).logged fun target =>
      (Happened.returned result).amounts target := by
  have hzero : ∀ target t, (∀ m ∈ result.metrics, ∀ e ∈ exitAmounts target m, e.1 ≠ t) →
      Metrics.total (result.metrics.flatMap (exitAmounts target)) t = 0 := by
    intro target t hne
    refine Metrics.total_eq_zero ?_
    intro e he
    obtain ⟨m, hm, he⟩ := List.mem_flatMap.mp he
    exact hne m hm e he
  have hforwarded : Metrics.total ((Happened.returned result).amounts (.counter 2)) [] = 0 := by
    refine hzero (.counter 2) [] ?_
    intro m hm e he
    rcases h m hm with ⟨bytes, rfl⟩ | ⟨reason, -, rfl⟩ <;> cases he
  have hdrops : egressDrops ((Happened.returned result).amounts (.counter 6)) = 0 := by
    have hreasons : ∀ reason ∈ returnReasons, ∀ reason' ∈ egressReasons,
        [ascii reason] ≠ [ascii reason'] := by decide +kernel
    refine List.sum_eq_zero ?_
    intro x hx
    obtain ⟨reason', hreason', rfl⟩ := List.mem_map.mp hx
    refine hzero (.counter 6) _ ?_
    intro m hm e he
    rcases h m hm with ⟨bytes, rfl⟩ | ⟨reason, hreason, rfl⟩
    · cases he
    · rw [List.mem_singleton.mp he]
      exact hreasons reason hreason reason' hreason'
  have hnone : ∀ i < 2, ∀ t,
      Metrics.total ((Happened.returned result).amounts (.counter i)) t = 0 := by
    intro i hi t
    interval_cases i
    · exact hzero (.counter 0) t fun m _ e he => by cases he
    · exact hzero (.counter 1) t fun m _ e he => by cases he
  refine ⟨?_, ?_, ?_⟩
  · rw [hnone 0 (by omega)]
    rfl
  · intro _
    rw [hnone 1 (by omega), hforwarded, hdrops]
    rfl
  · rw [hnone 0 (by omega), hdrops]
    rfl

/-- The exit path stays as it is, on or off. -/
lemma exit_isSome_turn (hC : C.Lawful) (T : TokenLib) (E : Cipher) {g : DataGateway}
    (hg : g.Sound) (t : Turn) : (g.turn C T E t).2.exit.isSome = g.exit.isSome := by
  cases t with
  | datagram i =>
    have hout := serve_outcome hC T E hg i
    simp only [turn]
    generalize g.serve C T E i = out at hout
    cases hout with
    | refused => rfl
    | admitted _ hadm =>
      have hstep := hadm.leased
      rcases hr : g.exit with _ | r
      · rw [hr] at hstep
        cases hstep
        rfl
      · rw [hr] at hstep
        cases hstep
        rfl
    | rejected => rfl
    | accepted => simp [afterAccepted]
    | other => rfl
  | packet now sendTo packet =>
    have hout := serveReturn_outcome E g now sendTo packet
    simp only [turn]
    generalize g.serveReturn E now sendTo packet = out at hout
    cases hout with
    | dropped => rfl
    | framed _ hexit => simp [afterFramed, hexit]

/-- **Every turn balances.** -/
lemma balanced_turn (hC : C.Lawful) (T : TokenLib) (E : Cipher) {g : DataGateway} (hg : g.Sound)
    (t : Turn) : Balanced g.exit.isSome (g.turn C T E t).1.logged fun target =>
      (g.turn C T E t).1.amounts target := by
  have hexit := exit_isSome_turn hC T E hg t
  cases t with
  | datagram i =>
    simp only [turn] at hexit ⊢
    refine balanced_served _ (fun label => decision_mem) ?_ ?_
    · intro m hm
      rw [egressMetric] at hm
      split at hm
      · cases hm
      · split at hm
        · cases hm
          rcases egress_metric_cases _ _ _ _ with ⟨hm, -⟩ | ⟨reason, hreason, hm, -⟩
          · exact Or.inl ⟨_, hm⟩
          · exact Or.inr ⟨reason, hreason, hm⟩
        · cases hm
    · intro hon
      rw [hon] at hexit
      obtain ⟨r, hr⟩ := Option.isSome_iff_exists.mp hexit
      have hrec : (g.serve C T E i).1.record =
          (g.handleDatagram C T E i.toAmbient (i.datagram.take bufSize)).2.1 :=
        forward_record _ _ _ _
      rw [decision_eq_firstCopy_iff C T E g i.toAmbient, ← hrec, egressMetric, hr]
      cases (g.serve C T E i).1.record.deliver <;> simp
  | packet now sendTo packet =>
    exact balanced_returned (serveReturn_metric_cases E g now sendTo packet)

/-- **Every run balances.** -/
lemma balanced_happened (hC : C.Lawful) (T : TokenLib) (E : Cipher) {g : DataGateway}
    (hg : g.Sound) (ts : List Turn) :
    Balanced g.exit.isSome ((happened C T E g ts).map Happened.logged).sum fun target =>
      amounts target (happened C T E g ts) := by
  induction ts generalizing g with
  | nil => exact ⟨rfl, fun _ => rfl, rfl⟩
  | cons t ts ih =>
    have hrest := ih (hg.turn hC T E t)
    rw [exit_isSome_turn hC T E hg t] at hrest
    simpa only [happened_cons, List.map_cons, List.sum_cons, amounts_cons] using
      (balanced_turn hC T E hg t).append hrest

/-! ## The result -/

/-- A gateway without exit path, or with one over the allocator of a pool. -/
def Fresh (exit : Option Router) : Prop :=
  ∀ r, exit = some r → ∃ pool, newAllocator pool = .ok r.alloc

lemma Fresh.sound {exit : Option Router} (h : Fresh exit) (identityPriv : Bytes) (service : Service)
    (dedupCapacity : ℤ) : Sound
      { newDataGateway identityPriv service dedupCapacity with exit := exit } := by
  refine ⟨?_, ?_, DataPlane.agrees_new _ _⟩
  · intro r hr
    obtain ⟨pool, hpool⟩ := h r hr
    exact (newAllocator_ok hpool).1
  · intro r hr id
    obtain ⟨pool, hpool⟩ := h r hr
    simp [newDataGateway, SessionStore.new, (newAllocator_ok hpool).2.1 id]

/-- **The metrics of the gateway account for what it does.**  In every run of turns, from a new
gateway, the metrics never panic, and the gateway does what it does without them.  The sessions that
it counts are the ids that have a key.  The debug log, if it is wanted, has turn by turn the error
of the refused hello and that of the dropped packet.  What the metrics show balances, also with the
length of the log.  The text is that of the seven counters and the gauge, and each shows the sums of
what the turns added to it, as long as they fit into 64 bits. -/
theorem metrics_account (hC : C.Lawful) (T : TokenLib) (E : Cipher) (identityPriv : Bytes)
    (service : Service) (dedupCapacity : ℤ) (debug : Bool) {exit : Option Router}
    (hexit : Fresh exit) (ts : List Turn) {o₀ : Observed}
    (ho₀ : Observed.new identityPriv service dedupCapacity debug exit = o₀) {hs : List Happened}
    (hhs : happened C T E o₀.gateway ts = hs) :
    ∃ log o, o₀.run C T E ts = some (hs.map Happened.done, log, o) ∧
      o.gateway = Mealy.state (turn C T E) o₀.gateway ts ∧
      (o.sessions.Nodup ∧ (∀ id, id ∈ o.sessions ↔ (o.gateway.store.keys id).isSome = true) ∧
        (o.sessions.length : ℤ) = Metrics.total (amounts (.gauge 0) hs) []) ∧
      log = (if debug then debugLog C T E o₀.gateway ts else []) ∧
      (∃ logged, Balanced exit.isSome logged (fun target => amounts target hs) ∧
        log.length = if debug then logged else 0) ∧
      ∀ rt : Metrics.Runtime, rt.Lawful →
        (∀ target, ((amounts target hs).map Prod.snd).sum < 2 ^ 63) →
        o.metrics.render rt = Metrics.assemble 7 1 (o.metrics.textOf rt) ∧
        ∀ target m, (Metrics.registered registrations).metric target = some m →
          Metrics.Sums m target.typ (amounts target hs) (o.metrics.textOf rt target) := by
  subst ho₀ hhs
  have hsound := hexit.sound identityPriv service dedupCapacity
  have hstart : Observes [] (Observed.new identityPriv service dedupCapacity debug exit) := by
    refine ⟨hsound, Metrics.follows_registered _, List.nodup_nil, ?_, rfl⟩
    intro id
    simp [Observed.new, newDataGateway, SessionStore.new]
  obtain ⟨log, o, hrun, hgateway, hlog, hlogged, hobserves⟩ := hstart.run hC T E ts
  rw [List.nil_append] at hobserves
  have htracks := hobserves.tracks
  refine ⟨log, o, hrun, hgateway, ⟨htracks.nodup, htracks.keys, ?_⟩, hlog,
    ⟨_, balanced_happened hC T E hsound ts, hlogged⟩, ?_⟩
  · rw [total_gauge, htracks.length_eq]
  intro rt hrt hsmall
  have hfits := fun target t =>
    (Metrics.total_le_sum (amounts_nonneg target _) t).trans_lt (hsmall target)
  refine ⟨?_, ?_⟩
  · rw [Metrics.Registry.render_eq_assemble, htracks.counted.counters, htracks.counted.gauges]
    rfl
  · intro target m hm
    obtain ⟨series, hfollows, htext⟩ := htracks.counted.textOf rt hm
    rw [htext]
    refine Metrics.sums_of_follows hrt hfollows (amounts_allCalls hm (hfits target)) ?_
    intro t
    exact ⟨le_trans (by norm_num) (Metrics.total_nonneg (amounts_nonneg target _) t),
      hfits target t⟩

/-- A client is admitted, and a second hello with its id is refused; a packet of it comes over two
paths, and there is one packet back. -/
def sampleTurns : List Turn :=
  [.datagram (Traffic.sampleInput 0 (helloFrom 1)),
    .datagram (Traffic.sampleInput 1 (helloFrom 1)),
    .datagram (Traffic.sampleInput 2 (Traffic.sampleFrame 1)),
    .datagram (Traffic.sampleInput 3 (Traffic.sampleFrame 1)),
    .packet 4 Traffic.sampleSink Traffic.sampleReturn]

def sampleObserved : Observed :=
  Observed.new [1] ⟨.modeOpen, []⟩ 64 true (some ⟨Traffic.sampleAllocator, newPathSet 0⟩)

def sampleHappened : List Happened :=
  happened sumCrypto plainTokenLib checksumCipher sampleObserved.gateway sampleTurns

/-- The operator sees one session, one refused hello, a first copy that was forwarded and a
duplicate that was not. -/
theorem metrics_account_one_client :
    ∃ log o, sampleObserved.run sumCrypto plainTokenLib checksumCipher sampleTurns =
        some (sampleHappened.map Happened.done, log, o) ∧
      log = [⟨"handshake rejected", errSessionReused.text⟩] ∧ o.sessions.length = 1 ∧
      Metrics.Sums ⟨ascii "gemina_data_packets_total", ascii "Data datagrams by decision.",
          [ascii "decision"], ∅⟩ (ascii "counter")
        [([ascii "first-copy"], 1), ([ascii "duplicate"], 1)]
        (o.metrics.textOf Metrics.mergeRuntime (.counter 1)) := by
  have hdata : amounts (.counter 1) sampleHappened =
      [([ascii "first-copy"], 1), ([ascii "duplicate"], 1)] := by decide +kernel
  have hgauge : amounts (.gauge 0) sampleHappened = [([], 1)] := by decide +kernel
  have hexit : Fresh (some ⟨Traffic.sampleAllocator, newPathSet 0⟩) := by
    rintro r ⟨⟩
    exact ⟨_, Traffic.newAllocator_sample⟩
  obtain ⟨log, o, hrun, -, ⟨-, -, hsessions⟩, hlog, -, htext⟩ :=
    metrics_account sumCrypto_lawful plainTokenLib checksumCipher [1] ⟨.modeOpen, []⟩ 64 true hexit
      sampleTurns rfl (show _ = sampleHappened from rfl)
  have hsmall : ∀ target, ((amounts target sampleHappened).map Prod.snd).sum < 2 ^ 63 := by
    have hcounters : ∀ i < 7,
        ((amounts (.counter i) sampleHappened).map Prod.snd).sum < 2 ^ 63 := by decide +kernel
    rintro (i | i)
    · by_cases hi : i < 7
      · exact hcounters i hi
      · have hlen : (Metrics.registered registrations).counters.length ≤ i := not_lt.mp hi
        rw [@amounts_of_unregistered (.counter i) (List.getElem?_eq_none hlen)]
        simp
    · rcases i with _ | i
      · simp [hgauge]
      · rw [@amounts_of_unregistered (.gauge (i + 1)) rfl]
        simp
  refine ⟨log, o, hrun, ?_, ?_, ?_⟩
  · rw [hlog]
    decide +kernel
  · rw [hgauge, Metrics.total_singleton] at hsessions
    exact_mod_cast hsessions
  · rw [← hdata]
    exact (htext Metrics.mergeRuntime Metrics.mergeRuntime_lawful hsmall).2 (.counter 1) _ rfl

end DataGateway
end Gemina
