import Mathlib.Data.List.Basic

/-! Decisions by the first rule whose condition holds. -/

namespace DataMax.Library

universe u
variable {Outcome : Type u}

/-- The outcome of the first rule that holds. -/
def firstMatch : List (Bool × Outcome) → Outcome → Outcome
  | [], otherwise => otherwise
  | (holds, outcome) :: rest, otherwise => if holds then outcome else firstMatch rest otherwise

variable {rules refusals permissions : List (Bool × Outcome)} {otherwise : Outcome} {good : Outcome → Prop}

attribute [local simp] firstMatch in
theorem firstMatch_append (first second : List (Bool × Outcome)) (otherwise : Outcome) :
    firstMatch (first ++ second) otherwise = firstMatch first (firstMatch second otherwise) := by
  induction first with
  | nil => rfl
  | cons rule rest ih => simp [ih]

/-- Rules with bad outcomes must not hold. -/
theorem good_firstMatch_refusals (bad : ∀ rule ∈ refusals, ¬ good rule.2) :
    good (firstMatch refusals otherwise) ↔ (∀ rule ∈ refusals, rule.1 = false) ∧ good otherwise := by
  induction refusals with
  | nil => simp [firstMatch]
  | cons rule rest ih =>
    obtain ⟨holds, outcome⟩ := rule
    obtain ⟨here, later⟩ := List.forall_mem_cons.mp bad
    cases holds with
    | true => simpa [firstMatch] using here
    | false => simpa [firstMatch] using ih later

/-- Of rules with good outcomes one must hold. -/
theorem good_firstMatch_permissions (fine : ∀ rule ∈ permissions, good rule.2) (bad : ¬ good otherwise) :
    good (firstMatch permissions otherwise) ↔ ∃ rule ∈ permissions, rule.1 = true := by
  induction permissions with
  | nil => simpa [firstMatch] using bad
  | cons rule rest ih =>
    obtain ⟨holds, outcome⟩ := rule
    obtain ⟨here, later⟩ := List.forall_mem_cons.mp fine
    cases holds with
    | true => simpa [firstMatch] using here
    | false => simpa [firstMatch] using ih later

/-- Refusals come first: no refusal may hold, and some permission must. -/
theorem good_firstMatch_iff (refused : ∀ rule ∈ refusals, ¬ good rule.2) (fine : ∀ rule ∈ permissions, good rule.2)
    (bad : ¬ good otherwise) : good (firstMatch (refusals ++ permissions) otherwise) ↔
      (∀ rule ∈ refusals, rule.1 = false) ∧ ∃ rule ∈ permissions, rule.1 = true := by
  rw [firstMatch_append, good_firstMatch_refusals refused, good_firstMatch_permissions fine bad]

end DataMax.Library
