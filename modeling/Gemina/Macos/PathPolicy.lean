/-
# Which paths a packet is sent over

The policy of the macOS app (`apps/macos/Core/PathPolicy.swift`): from the states of the paths it
selects the ids that the next packet is sent over.

The ids are an arbitrary type with decidable equality.  In the source they are strings, which Swift
compares up to canonical equivalence.
-/
import Mathlib

namespace Gemina
namespace Macos

/-- `PolicyMode`. -/
inductive PolicyMode where
  | duplicate
  | failover
  | smart
  | auto
deriving DecidableEq, Repr

variable {ID : Type*} [DecidableEq ID]

/-- `PathInfo`. -/
structure PathInfo (ID : Type*) where
  id : ID
  up : Bool
  metered : Bool
deriving DecidableEq

/-- `PathPolicy`. -/
structure PathPolicy (ID : Type*) where
  mode : PolicyMode
  preferredID : Option ID
deriving DecidableEq

namespace PathPolicy

/-- `effectiveMode`. -/
def effectiveMode (policy : PathPolicy ID) (up : List (PathInfo ID)) : PolicyMode :=
  if policy.mode ≠ .auto then policy.mode
  else if up.all fun p => !p.metered then .duplicate else .smart

/-- `choosePrimary`, of a list that is not empty. -/
def choosePrimary (policy : PathPolicy ID) (up : List (PathInfo ID)) (h : up ≠ []) : PathInfo ID :=
  match policy.preferredID.bind fun id => up.find? fun p => p.id = id with
  | some primary => primary
  | none => (up.find? fun p => !p.metered).getD (up.head h)

/-- `sendPaths`. -/
def sendPaths (policy : PathPolicy ID) (paths : List (PathInfo ID)) (primaryUnstable : Bool) :
    List ID :=
  let up := paths.filter fun p => p.up
  if h : up.length > 1 then
    let primary := policy.choosePrimary up (List.ne_nil_of_length_pos (by omega))
    match policy.effectiveMode up with
    | .duplicate => up.map fun p => p.id
    | .failover => [primary.id]
    | .smart => if primaryUnstable then up.map fun p => p.id else [primary.id]
    | .auto => up.map fun p => p.id
  else up.map fun p => p.id

/-! ## The selection -/

variable (policy : PathPolicy ID) (paths : List (PathInfo ID)) (primaryUnstable : Bool)

lemma choosePrimary_mem (up : List (PathInfo ID)) (h : up ≠ []) :
    policy.choosePrimary up h ∈ up := by
  rw [choosePrimary]
  split
  · rename_i primary hprimary
    obtain ⟨id, -, hfind⟩ := Option.bind_eq_some_iff.mp hprimary
    exact List.mem_of_find?_eq_some hfind
  · cases hfind : up.find? fun p => !p.metered with
    | some primary => exact List.mem_of_find?_eq_some hfind
    | none => exact List.head_mem h

lemma choosePrimary_mode (mode : PolicyMode) (up : List (PathInfo ID)) (h : up ≠ []) :
    { policy with mode := mode }.choosePrimary up h = policy.choosePrimary up h := rfl

/-- The ids of the paths that are up. -/
def upIDs (paths : List (PathInfo ID)) : List ID := (paths.filter fun p => p.up).map fun p => p.id

/-- **The selection is all paths that are up, or one of them.** -/
lemma sendPaths_cases :
    policy.sendPaths paths primaryUnstable = upIDs paths ∨
      ∃ primary ∈ paths.filter (fun p => p.up),
        policy.sendPaths paths primaryUnstable = [primary.id] := by
  rw [sendPaths]
  by_cases h : (paths.filter fun p => p.up).length > 1
  · have hmem := policy.choosePrimary_mem (paths.filter fun p => p.up)
      (List.ne_nil_of_length_pos (by omega))
    simp only [h, dif_pos]
    cases policy.effectiveMode (paths.filter fun p => p.up) with
    | duplicate => exact Or.inl rfl
    | failover => exact Or.inr ⟨_, hmem, rfl⟩
    | smart =>
      cases primaryUnstable with
      | true => exact Or.inl rfl
      | false => exact Or.inr ⟨_, hmem, rfl⟩
    | auto => exact Or.inl rfl
  · simp only [h]
    exact Or.inl rfl

omit [DecidableEq ID] in
lemma mem_upIDs {id : ID} : id ∈ upIDs paths ↔ ∃ p ∈ paths, p.up = true ∧ p.id = id := by
  simp [upIDs, and_assoc]

/-- Only paths that are up are selected. -/
lemma sendPaths_subset_upIDs : policy.sendPaths paths primaryUnstable ⊆ upIDs paths := by
  rcases policy.sendPaths_cases paths primaryUnstable with h | ⟨primary, hprimary, h⟩
  · rw [h]
    exact List.Subset.refl _
  · rw [h]
    intro id hid
    rw [List.mem_singleton.mp hid]
    exact List.mem_map_of_mem hprimary

lemma sendPaths_eq_nil_iff :
    policy.sendPaths paths primaryUnstable = [] ↔ ∀ p ∈ paths, p.up = false := by
  have hup : upIDs paths = [] ↔ ∀ p ∈ paths, p.up = false := by simp [upIDs]
  rcases policy.sendPaths_cases paths primaryUnstable with h | ⟨primary, hprimary, h⟩
  · rw [h, hup]
  · rw [h]
    obtain ⟨hmem, hprimaryUp⟩ := List.mem_filter.mp hprimary
    constructor
    · intro hnil
      cases hnil
    · intro hdown
      rw [hdown primary hmem] at hprimaryUp
      cases hprimaryUp

/-! ## The modes -/

lemma sendPaths_duplicate :
    { policy with mode := .duplicate }.sendPaths paths primaryUnstable = upIDs paths := by
  rw [sendPaths]
  simp only [effectiveMode, ne_eq, reduceCtorEq, not_false_eq_true, if_true, upIDs, dite_eq_ite,
    ite_self]

/-- Smart sends over all paths if the primary is unstable, and is failover otherwise. -/
lemma sendPaths_smart :
    { policy with mode := .smart }.sendPaths paths primaryUnstable
      = if primaryUnstable then upIDs paths
        else { policy with mode := .failover }.sendPaths paths primaryUnstable := by
  rw [sendPaths, sendPaths]
  simp only [effectiveMode, ne_eq, reduceCtorEq, not_false_eq_true, if_true]
  cases primaryUnstable <;> simp [upIDs, choosePrimary_mode]

/-- **Auto is duplicate or smart**, as the paths that are up are unmetered or not. -/
lemma sendPaths_auto :
    { policy with mode := .auto }.sendPaths paths primaryUnstable
      = if ∀ p ∈ paths, p.up = true → p.metered = false
        then { policy with mode := .duplicate }.sendPaths paths primaryUnstable
        else { policy with mode := .smart }.sendPaths paths primaryUnstable := by
  have hall : ((paths.filter fun p => p.up).all fun p => !p.metered) = true ↔
      ∀ p ∈ paths, p.up = true → p.metered = false := by
    simp only [List.all_eq_true, List.mem_filter, and_imp, Bool.not_eq_true']
  rw [sendPaths, sendPaths, sendPaths]
  simp only [effectiveMode, ne_eq, not_true_eq_false, if_false, reduceCtorEq, not_false_eq_true,
    if_true, hall]
  split_ifs <;> rfl

lemma failover_subset_smart :
    { policy with mode := .failover }.sendPaths paths primaryUnstable
      ⊆ { policy with mode := .smart }.sendPaths paths primaryUnstable := by
  rw [sendPaths_smart]
  split
  · exact sendPaths_subset_upIDs _ _ _
  · exact List.Subset.refl _

lemma smart_subset_duplicate :
    { policy with mode := .smart }.sendPaths paths primaryUnstable
      ⊆ { policy with mode := .duplicate }.sendPaths paths primaryUnstable := by
  rw [sendPaths_duplicate]
  exact sendPaths_subset_upIDs _ _ _

end PathPolicy

end Macos
end Gemina
