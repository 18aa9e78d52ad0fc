import Mathlib.Data.List.Basic

/-! Identifiers, instants and errors shared by the stored records. -/

namespace DataMax.Domain

/-- A UUID by its hyphenated lower-case text. The byte order of UUIDs is the
order of these texts, since the hyphens stand at the same places. -/
structure Uuid where
  text : String
  deriving DecidableEq

instance : LT Uuid := ⟨fun left right => left.text < right.text⟩

instance : DecidableLT Uuid := fun left right => inferInstanceAs (Decidable (left.text < right.text))

instance : Ord Uuid := ⟨compareOn Uuid.text⟩

instance : Std.TransOrd Uuid := inferInstanceAs (Std.TransCmp (compareOn Uuid.text))

instance : Std.LawfulEqOrd Uuid where
  eq_of_compare := by
    rintro ⟨left⟩ ⟨right⟩ same
    have texts : compare left right = .eq := same
    exact congrArg Uuid.mk (Std.LawfulEqCmp.eq_of_compare texts)

theorem Uuid.lt_asymm {left right : Uuid} (less : left < right) : ¬ right < left := String.lt_asymm less

theorem Uuid.lt_of_ne {left right : Uuid} (different : left ≠ right) (notLess : ¬ left < right) :
    right < left := by
  rcases left with ⟨left⟩
  rcases right with ⟨right⟩
  have texts : ¬ left ≤ right := fun atMost =>
    different (congrArg Uuid.mk (String.le_antisymm atMost (String.not_lt.mp notLess)))
  exact String.not_le.mp texts

abbrev TenantId := Uuid
abbrev DatasetId := Uuid
abbrev ReportPlanId := Uuid
abbrev WorkflowExecutionId := Uuid
abbrev WorkflowEventId := Uuid
abbrev WorkflowTaskId := Uuid

/-- An instant, counted in the resolution of the database column. -/
abbrev DateTime := Int

inductive StorageError where
  | message (text : String)
  | uniqueViolation
  | foreignKeyViolation
  deriving DecidableEq

end DataMax.Domain
