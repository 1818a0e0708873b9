/-
# Runs of a deterministic machine with outputs

A machine is a step function that maps a state and an input to an output and a new state.
A run over a list of inputs has a final state and a trace, the inputs paired with their
outputs.  The induction over runs is packaged once, as a rule for invariants that relate
the trace produced so far to the state reached.
-/
import Mathlib

namespace Mealy

variable {σ ι ω : Type*}

/-- The state after a list of inputs. -/
def state (step : σ → ι → ω × σ) (s : σ) : List ι → σ
  | [] => s
  | i :: is => state step (step s i).2 is

/-- The inputs of a run, each with the output it produced. -/
def trace (step : σ → ι → ω × σ) (s : σ) : List ι → List (ι × ω)
  | [] => []
  | i :: is => (i, (step s i).1) :: trace step (step s i).2 is

variable (step : σ → ι → ω × σ) (s : σ)

@[simp] lemma state_nil : state step s [] = s := rfl

@[simp] lemma trace_nil : trace step s [] = [] := rfl

lemma trace_inputs (is : List ι) : (trace step s is).map Prod.fst = is := by
  induction is generalizing s with
  | nil => rfl
  | cons i is ih => simp [trace, ih]

lemma state_append (is js : List ι) :
    state step s (is ++ js) = state step (state step s is) js := by
  induction is generalizing s with
  | nil => rfl
  | cons i is ih => exact ih _

lemma trace_append (is js : List ι) :
    trace step s (is ++ js) = trace step s is ++ trace step (state step s is) js := by
  induction is generalizing s with
  | nil => rfl
  | cons i is ih =>
    simp only [List.cons_append, trace, state, List.cons.injEq, true_and]
    exact ih _

lemma state_concat (is : List ι) (i : ι) :
    state step s (is ++ [i]) = (step (state step s is) i).2 := by
  rw [state_append]
  rfl

lemma trace_concat (is : List ι) (i : ι) :
    trace step s (is ++ [i]) = trace step s is ++ [(i, (step (state step s is) i).1)] := by
  rw [trace_append]
  rfl

/-- Cutting a trace at an event cuts the run: the event is the step that was taken in the
state reached by the part before it. -/
lemma trace_eq_append_cons {is : List ι} {t₁ t₂ : List (ι × ω)} {e : ι × ω}
    (h : trace step s is = t₁ ++ e :: t₂) :
    ∃ is₁ is₂, is = is₁ ++ e.1 :: is₂ ∧ t₁ = trace step s is₁ ∧
      e.2 = (step (state step s is₁) e.1).1 := by
  induction t₁ generalizing s is with
  | nil =>
    cases is with
    | nil => simp at h
    | cons i is =>
      simp only [trace, List.nil_append, List.cons.injEq] at h
      obtain ⟨rfl, -⟩ := h
      exact ⟨[], is, rfl, rfl, rfl⟩
  | cons e' t₁ ih =>
    cases is with
    | nil => simp at h
    | cons i is =>
      simp only [trace, List.cons_append, List.cons.injEq] at h
      obtain ⟨rfl, h⟩ := h
      obtain ⟨is₁, is₂, rfl, rfl, he⟩ := ih _ h
      exact ⟨i :: is₁, is₂, rfl, rfl, he⟩

/-- **The invariant rule, from some point on.**  A relation between trace and state that holds
after a run and is kept by every step holds after every longer run. -/
theorem invariant_append {step : σ → ι → ω × σ} {s : σ} {P : List (ι × ω) → σ → Prop} {is : List ι}
    (h0 : P (trace step s is) (state step s is))
    (hstep : ∀ t s i, P t s → P (t ++ [(i, (step s i).1)]) (step s i).2) (js : List ι) :
    P (trace step s (is ++ js)) (state step s (is ++ js)) := by
  induction js using List.reverseRecOn with
  | nil => simpa using h0
  | append_singleton js i ih =>
    rw [← List.append_assoc, trace_concat, state_concat]
    exact hstep _ _ i ih

/-- **The invariant rule.**  A relation between trace and state that holds of the empty run
and is kept by every step holds of every run. -/
theorem invariant {step : σ → ι → ω × σ} {s : σ} {P : List (ι × ω) → σ → Prop}
    (h0 : P [] s)
    (hstep : ∀ t s i, P t s → P (t ++ [(i, (step s i).1)]) (step s i).2) (is : List ι) :
    P (trace step s is) (state step s is) :=
  @invariant_append _ _ _ step s P [] h0 hstep is

/-! ## Conditions on the steps of a run -/

/-- Every step of the run meets a condition on its input and the state before it. -/
def Along (step : σ → ι → ω × σ) (P : σ → ι → Prop) (s : σ) : List ι → Prop
  | [] => True
  | i :: is => P s i ∧ Along step P (step s i).2 is

/-- **The invariant rule under a condition.**  What the steps that meet the condition keep holds
after every run whose steps all meet it. -/
theorem Along.invariant_mem {step : σ → ι → ω × σ} {P : σ → ι → Prop} {Q : σ → Prop} {s : σ}
    {is : List ι} (h : Along step P s is) (h0 : Q s)
    (hstep : ∀ s, ∀ i ∈ is, Q s → P s i → Q (step s i).2) : Q (state step s is) := by
  induction is generalizing s with
  | nil => exact h0
  | cons i is ih =>
    refine ih h.2 (hstep s i List.mem_cons_self h0 h.1) fun s j hj => ?_
    exact hstep s j (List.mem_cons_of_mem _ hj)

/-! ## Deleting inputs

The inputs of a run are marked, and the run over the marked inputs alone is compared with the
whole run. -/

/-- The run over marked inputs that ignores the marks. -/
def whole (step : σ → ι → ω × σ) (s : σ) (x : ι × Bool) : ω × σ := step s x.1

/-- The inputs that are marked. -/
def kept (xs : List (ι × Bool)) : List ι := (xs.filter Prod.snd).map Prod.fst

/-- The events of the whole run whose inputs are marked. -/
def keptEvents (t : List ((ι × Bool) × ω)) : List (ι × ω) :=
  (t.filter fun e => e.1.2).map fun e => (e.1.1, e.2)

/-- **The deletion rule.**  Let a relation between the states of two runs be kept when both
take a step with the same input, and when only the first takes a step that may be deleted.
Then the two runs stay related, and their common steps have related outputs. -/
theorem deletion {step : σ → ι → ω × σ} {R : σ → σ → Prop} {D : ι → ω → Prop}
    {Q : ι → ω → ω → Prop}
    (hkeep : ∀ s s' i, R s s' →
      R (step s i).2 (step s' i).2 ∧ Q i (step s i).1 (step s' i).1)
    (hdrop : ∀ s s' i, R s s' → D i (step s i).1 → R (step s i).2 s')
    (xs : List (ι × Bool)) {s s' : σ} (hR : R s s')
    (hdel : ∀ i o, ((i, false), o) ∈ trace (whole step) s xs → D i o) :
    R (state (whole step) s xs) (state step s' (kept xs)) ∧
      List.Forall₂ (fun e e' => e.1 = e'.1 ∧ Q e.1 e.2 e'.2)
        (keptEvents (trace (whole step) s xs)) (trace step s' (kept xs)) := by
  induction xs generalizing s s' with
  | nil => exact ⟨hR, List.Forall₂.nil⟩
  | cons x xs ih =>
    obtain ⟨i, b⟩ := x
    have hdel' : ∀ i' o, ((i', false), o) ∈ trace (whole step) (step s i).2 xs → D i' o :=
      fun i' o h => hdel i' o (List.mem_cons_of_mem _ h)
    cases b with
    | false =>
      have hD : D i (step s i).1 := hdel i _ List.mem_cons_self
      simpa [state, trace, whole, kept, keptEvents] using ih (hdrop s s' i hR hD) hdel'
    | true =>
      obtain ⟨hR', hQ⟩ := hkeep s s' i hR
      obtain ⟨hst, htr⟩ := ih hR' hdel'
      refine ⟨by simpa [state, whole, kept] using hst, ?_⟩
      have hcons := List.Forall₂.cons
        (R := fun e e' : ι × ω => e.1 = e'.1 ∧ Q e.1 e.2 e'.2)
        (a := (i, (step s i).1)) (b := (i, (step s' i).1)) ⟨rfl, hQ⟩ htr
      simpa [trace, whole, kept, keptEvents] using hcons

end Mealy
