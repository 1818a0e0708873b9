/-
# Lexicographic comparison

Comparisons that are computed, as a program passes them to a sorting function: what makes them
strict total orders, their extension to lists, and that a sorted list without repetitions is
determined by its members.
-/
import Mathlib

namespace LexOrder

variable {α : Type*}

/-- A comparison that is a strict total order. -/
structure StrictTotal (lt : α → α → Bool) : Prop where
  irrefl : ∀ a, lt a a = false
  trans : ∀ a b c, lt a b = true → lt b c = true → lt a c = true
  connected : ∀ a b, a ≠ b → lt a b = true ∨ lt b a = true

namespace StrictTotal

variable {lt : α → α → Bool} (h : StrictTotal lt) {a b c : α}
include h

lemma asymm (hab : lt a b = true) : lt b a = false := by
  by_contra hba
  rw [Bool.not_eq_false] at hba
  have haa := h.trans a b a hab hba
  rw [h.irrefl] at haa
  cases haa

/-- What is not before the second, which is not before the third, is not before the third. -/
lemma neg_trans (hab : lt a b = false) (hbc : lt b c = false) : lt a c = false := by
  by_contra hac
  rw [Bool.not_eq_false] at hac
  by_cases heq : a = b
  · rw [heq, hbc] at hac
    cases hac
  · rcases h.connected a b heq with hlt | hlt
    · rw [hab] at hlt
      cases hlt
    · have := h.trans b a c hlt hac
      rw [hbc] at this
      cases this

lemma pairwise_of_nodup {l : List α} (hsorted : l.Pairwise fun a b => lt b a = false)
    (hnodup : l.Nodup) : l.Pairwise fun a b => lt a b = true := by
  refine (hsorted.and hnodup).imp ?_
  rintro a b ⟨hba, hne⟩
  rcases h.connected a b hne with hlt | hlt
  · exact hlt
  · rw [hba] at hlt
    cases hlt

lemma nodup_of_pairwise {l : List α} (hl : l.Pairwise fun a b => lt a b = true) : l.Nodup := by
  refine hl.imp ?_
  rintro a b hab rfl
  rw [h.irrefl] at hab
  cases hab

/-- **A sorted list without repetitions is determined by its members.** -/
lemma eq_of_pairwise {l l' : List α} (hl : l.Pairwise fun a b => lt a b = true)
    (hl' : l'.Pairwise fun a b => lt a b = true) (hmem : ∀ a, a ∈ l ↔ a ∈ l') : l = l' := by
  have hperm := (List.perm_ext_iff_of_nodup (h.nodup_of_pairwise hl)
    (h.nodup_of_pairwise hl')).mpr hmem
  refine hperm.eq_of_pairwise ?_ hl hl'
  intro a b _ _ hab hba
  rw [h.asymm hab] at hba
  cases hba

end StrictTotal

/-! ## Lists -/

variable [DecidableEq α]

/-- The lexicographic comparison of lists. -/
def less (lt : α → α → Bool) : List α → List α → Bool
  | _, [] => false
  | [], _ :: _ => true
  | a :: l, b :: l' => if a ≠ b then lt a b else less lt l l'

variable {lt : α → α → Bool}

lemma less_iff_lex (h : ∀ a, lt a a = false) {l l' : List α} :
    less lt l l' = true ↔ List.Lex (fun a b => lt a b = true) l l' := by
  induction l generalizing l' with
  | nil =>
    cases l' with
    | nil => simp [less]
    | cons b l' => simp [less]
  | cons a l ih =>
    cases l' with
    | nil => simp [less]
    | cons b l' =>
      rw [less, List.cons_lex_cons_iff]
      by_cases hab : a = b
      · subst hab
        simp [ih, h]
      · simp [hab]

lemma less_irrefl (l : List α) : less lt l l = false := by
  induction l with
  | nil => rfl
  | cons a l ih => simpa [less] using ih

lemma less_trans (h : StrictTotal lt) {l l' l'' : List α} (hl : less lt l l' = true)
    (hl' : less lt l' l'' = true) : less lt l l'' = true := by
  induction l generalizing l' l'' with
  | nil =>
    cases l'' with
    | nil => simp [less] at hl'
    | cons c l'' => rfl
  | cons a l ih =>
    rcases l' with _ | ⟨b, l'⟩
    · simp [less] at hl
    rcases l'' with _ | ⟨c, l''⟩
    · simp [less] at hl'
    rw [less] at hl hl' ⊢
    -- the first place where two of the three lists differ
    by_cases hab : a = b
    · subst hab
      by_cases hac : a = c
      · subst hac
        simp only [ne_eq, not_true_eq_false, if_false] at hl hl' ⊢
        exact ih hl hl'
      · simpa [hac] using hl'
    · by_cases hbc : b = c
      · subst hbc
        simpa [hab] using hl
      · rw [if_pos hab] at hl
        rw [if_pos hbc] at hl'
        have hac := h.trans a b c hl hl'
        have hne : a ≠ c := by
          rintro rfl
          rw [h.irrefl] at hac
          cases hac
        rw [if_pos hne]
        exact hac

lemma less_connected (h : StrictTotal lt) {l l' : List α} (hne : l ≠ l') :
    less lt l l' = true ∨ less lt l' l = true := by
  induction l generalizing l' with
  | nil =>
    cases l' with
    | nil => exact absurd rfl hne
    | cons b l' => exact Or.inl rfl
  | cons a l ih =>
    cases l' with
    | nil => exact Or.inr rfl
    | cons b l' =>
      rw [less, less]
      by_cases hab : a = b
      · subst hab
        simp only [ne_eq, not_true_eq_false, if_false]
        exact ih fun heq => hne (by rw [heq])
      · rw [if_pos hab, if_pos (Ne.symm hab)]
        exact h.connected a b hab

/-- **The lexicographic comparison is a strict total order again.** -/
lemma StrictTotal.less (h : StrictTotal lt) : StrictTotal (less lt) where
  irrefl := less_irrefl
  trans _ _ _ := less_trans h
  connected _ _ := less_connected h

end LexOrder
