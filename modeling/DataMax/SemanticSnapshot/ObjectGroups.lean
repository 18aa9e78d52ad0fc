import DataMax.Library.Separated
import DataMax.SemanticSnapshot.Observations

/-! Which observations are taken for one object. The parts of an object's key are joined with a
bar, and names may have bars of their own. -/

namespace DataMax.SemanticSnapshot

open Domain Library

/-- Two observations of one table, or of one object of another kind. -/
inductive SameObject (first second : SemanticObservation) : Prop where
  | table (firstTable : isDatabaseTable first = true) (secondTable : isDatabaseTable second = true)
      (objectKind : normalizedIdentityKey first.objectKind = normalizedIdentityKey second.objectKind)
      (sourceKind : normalizedIdentityKey first.sourceKind = normalizedIdentityKey second.sourceKind)
      (sourceSystem : normalizedIdentityKey (sourceScope first).1 = normalizedIdentityKey (sourceScope second).1)
      (sourceSchema : normalizedIdentityKey (sourceScope first).2.1 = normalizedIdentityKey (sourceScope second).2.1)
      (sourceObject : normalizedIdentityKey (sourceScope first).2.2 = normalizedIdentityKey (sourceScope second).2.2)
  | other (firstOther : isDatabaseTable first = false) (secondOther : isDatabaseTable second = false)
      (objectKind : first.objectKind = second.objectKind) (sourceId : first.sourceId = second.sourceId)
      (objectKey : first.objectKey = second.objectKey)

variable {first second : SemanticObservation}

/-- The parts of the key, cut at their bars. -/
def keyPieces (observation : SemanticObservation) : List (List Char) :=
  (objectGroupParts observation).flatMap fun part => part.toList.splitOn '|'

/-- How many bars each part of the key has. -/
def keyBars (observation : SemanticObservation) : List Nat :=
  (objectGroupParts observation).map fun part => part.toList.count '|'

theorem sameObject_iff : SameObject first second ↔ objectGroupParts first = objectGroupParts second := by
  unfold objectGroupParts
  cases firstKind : isDatabaseTable first <;> cases secondKind : isDatabaseTable second
  · simp only [Bool.false_eq_true, if_false, List.cons.injEq, and_true]
    constructor
    · intro same
      cases same with
      | table firstTable => simp [firstKind] at firstTable
      | other _ _ objectKind sourceId objectKey => exact ⟨objectKind, sourceId, objectKey⟩
    · rintro ⟨objectKind, sourceId, objectKey⟩
      exact .other firstKind secondKind objectKind sourceId objectKey
  · constructor
    · intro same
      cases same with
      | table firstTable => simp [firstKind] at firstTable
      | other _ secondOther => simp [secondKind] at secondOther
    · intro parts
      simp at parts
  · constructor
    · intro same
      cases same with
      | table _ secondTable => simp [secondKind] at secondTable
      | other firstOther => simp [firstKind] at firstOther
    · intro parts
      simp at parts
  · simp only [if_true, List.cons.injEq, and_true]
    constructor
    · intro same
      cases same with
      | table _ _ objectKind sourceKind system schema object => exact ⟨objectKind, sourceKind, system, schema, object⟩
      | other firstOther => simp [firstKind] at firstOther
    · rintro ⟨objectKind, sourceKind, system, schema, object⟩
      exact .table firstKind secondKind objectKind sourceKind system schema object

theorem objectGroupParts_ne_nil (observation : SemanticObservation) :
    (objectGroupParts observation).map String.toList ≠ [] := by
  unfold objectGroupParts
  split <;> exact List.cons_ne_nil _ _

/-- A key gives away the pieces between bars, and nothing else. -/
theorem objectGroupKey_eq_iff : objectGroupKey first = objectGroupKey second ↔ keyPieces first = keyPieces second := by
  have pieces : ∀ observation, keyPieces observation =
      ((objectGroupParts observation).map String.toList).flatMap (·.splitOn '|') := by
    intro observation
    rw [keyPieces, List.flatMap_map]
  have bar : "|".toList = ['|'] := rfl
  rw [pieces, pieces, ← joined_eq_iff '|' (objectGroupParts_ne_nil first) (objectGroupParts_ne_nil second),
    ← String.toList_inj, objectGroupKey, objectGroupKey, String.toList_intercalate, String.toList_intercalate, bar]

theorem objectGroupParts_eq_iff : objectGroupParts first = objectGroupParts second ↔
    keyPieces first = keyPieces second ∧ keyBars first = keyBars second := by
  have texts : objectGroupParts first = objectGroupParts second ↔
      (objectGroupParts first).map String.toList = (objectGroupParts second).map String.toList :=
    (List.map_injective_iff.mpr fun _ _ same => String.toList_inj.mp same).eq_iff.symm
  rw [texts, parts_eq_iff '|', List.flatMap_map, List.flatMap_map, List.map_map, List.map_map]
  rfl

/-- One key stands for one object unless the pieces are the same and the bars fall into different
parts. -/
theorem objectGroupKey_denotes_iff (first second : SemanticObservation) :
    (objectGroupKey first = objectGroupKey second ↔ SameObject first second) ↔
      (keyPieces first = keyPieces second → keyBars first = keyBars second) := by
  rw [objectGroupKey_eq_iff, sameObject_iff, objectGroupParts_eq_iff]
  constructor
  · intro faithful pieces
    exact (faithful.mp pieces).2
  · intro aligned
    exact ⟨fun pieces => ⟨pieces, aligned pieces⟩, And.left⟩

/-- A column of a table in a schema of the warehouse. -/
def warehouseColumn (schema table : String) : SemanticObservation where
  id := "column"
  sourceKind := "database"
  sourceId := "warehouse"
  sourceIdentity := some ⟨"warehouse", schema, table⟩
  observationKind := "field"
  objectKind := "database_table"
  objectKey := table
  technicalName := "id"
  labelHint := none
  attributes := .null
  evidenceRefs := []

theorem different_tables_share_key :
    ¬ (objectGroupKey (warehouseColumn "sales|eu" "orders") = objectGroupKey (warehouseColumn "sales" "eu|orders") ↔
      SameObject (warehouseColumn "sales|eu" "orders") (warehouseColumn "sales" "eu|orders")) := by
  have first : objectGroupParts (warehouseColumn "sales|eu" "orders") =
      ["database_table", "database", "warehouse", "sales|eu", "orders"] := by decide +kernel
  have second : objectGroupParts (warehouseColumn "sales" "eu|orders") =
      ["database_table", "database", "warehouse", "sales", "eu|orders"] := by decide +kernel
  rw [objectGroupKey_eq_iff, sameObject_iff, keyPieces, keyPieces, first, second]
  decide

end DataMax.SemanticSnapshot
