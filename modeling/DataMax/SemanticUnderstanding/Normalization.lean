import DataMax.Domain.Text
import DataMax.Library.Selection
import DataMax.SemanticSnapshot.Rebuild
import DataMax.SemanticUnderstanding.Records

/-! The normalization of a semantic model: texts trimmed, one entry for each id,
sorted lists of a bounded length, and references to kept entries only. -/

namespace DataMax.SemanticUnderstanding

open Domain Library
open SemanticSnapshot (datasetSemanticSchemaVersion datasetSemanticGenerationVersion)

section Functions

def pipelineStageRank (id : String) : Nat :=
  if id = "source" then 0
  else if id = "structure" then 1
  else if id = "labels" then 2
  else if id = "relations" then 3
  else if id = "facts" then 4
  else 5

def normalizedConfidence (value : Float64) : Float64 :=
  if value.isFinite then value.clamp (.ofRat 0) (.ofRat 1) else .ofRat 0

/-- The trimmed texts that are not empty, in order, each once. -/
def distinctTexts (values : List String) : List String :=
  distinctBy id ((values.map trim).filter fun value => decide (value ≠ ""))

def normalizedStrings (values : List String) (limit : Nat) : List String := (distinctTexts values).take limit

def trimmedEvidence (evidence : SemanticEvidenceRef) : SemanticEvidenceRef :=
  ⟨trim evidence.sourceKind, trim evidence.sourceId, trim evidence.label⟩

def normalizedEvidence (values : List SemanticEvidenceRef) : List SemanticEvidenceRef :=
  (distinctBy evidenceKey ((values.map trimmedEvidence).filter fun evidence =>
    decide (evidence.sourceKind ≠ "" ∧ evidence.sourceId ≠ ""))).take maxEvidenceRefs

def compareConfidence (left right : Float64) : Ordering := (left.partialCmp right).getD .eq

def compareObjects (left right : SemanticObject) : Ordering :=
  (compare (statusRank left.status) (statusRank right.status)).then <|
    (compare right.coverageCount left.coverageCount).then <|
    (compareConfidence right.confidence left.confidence).then <|
    (compare left.label right.label).then <|
    compare left.id right.id

def compareFields (left right : SemanticField) : Ordering :=
  (compare (statusRank left.status) (statusRank right.status)).then <|
    (compare right.nonEmptyCount left.nonEmptyCount).then <|
    (compareConfidence right.confidence left.confidence).then <|
    (compare left.label right.label).then <|
    compare left.id right.id

def compareRelations (left right : SemanticRelation) : Ordering :=
  (compare (evidenceRank left.evidenceClass) (evidenceRank right.evidenceClass)).then <|
    (compareConfidence right.confidence left.confidence).then <|
    (compare left.sourceId right.sourceId).then <|
    (compare left.targetId right.targetId).then <|
    compare left.id right.id

def compareStages (left right : SemanticPipelineStage) : Ordering :=
  (compare (pipelineStageRank left.id) (pipelineStageRank right.id)).then (compare left.id right.id)

def normalizedObject (object : SemanticObject) : SemanticObject :=
  { object with
    confidence := normalizedConfidence object.confidence
    evidenceRefs := normalizedEvidence object.evidenceRefs }

def normalizedField (field : SemanticField) : SemanticField :=
  { field with
    confidence := normalizedConfidence field.confidence
    examples := normalizedStrings field.examples maxExamples
    evidenceRefs := normalizedEvidence field.evidenceRefs }

def normalizedRelation (relation : SemanticRelation) : SemanticRelation :=
  { relation with
    confidence := normalizedConfidence relation.confidence
    evidenceRefs := normalizedEvidence relation.evidenceRefs }

def normalizedGroup (validNodeIds : List String) (group : SemanticSourceGroup) : SemanticSourceGroup :=
  { group with
    objectIds := (normalizedStrings group.objectIds maxObjects).filter (decide <| · ∈ validNodeIds) }

/-- The relation joins two different nodes among the valid ones. -/
def joinsNodes (validNodeIds : List String) (relation : SemanticRelation) : Bool :=
  decide (relation.sourceId ∈ validNodeIds ∧ relation.targetId ∈ validNodeIds ∧
    relation.sourceId ≠ relation.targetId)

def normalizeSemanticUnderstanding (model : DatasetSemanticUnderstanding) : DatasetSemanticUnderstanding :=
  let uniqueObjects := dedupeBy SemanticObject.id compareObjects (model.objects.map normalizedObject)
  let objects := uniqueObjects.take maxObjects
  let objectIds := objects.map SemanticObject.id
  let uniqueFields := dedupeBy SemanticField.id compareFields
    ((model.fields.map normalizedField).filter fun field => decide (field.objectId ∈ objectIds))
  let fields := uniqueFields.take maxFields
  let validNodeIds := objectIds ++ fields.map SemanticField.id
  let uniqueRelations := dedupeBy SemanticRelation.id compareRelations
    ((model.relations.map normalizedRelation).filter (joinsNodes validNodeIds))
  { model with
    schemaVersion := datasetSemanticSchemaVersion
    generationVersion := datasetSemanticGenerationVersion
    summary := { model.summary with limitations := distinctTexts model.summary.limitations }
    objects := objects
    fields := fields
    relations := uniqueRelations.take maxRelations
    sourceGroups := dedupAdjacent SemanticSourceGroup.id
      (sortBy (compareOn SemanticSourceGroup.id) (model.sourceGroups.map (normalizedGroup validNodeIds)))
    pipeline := dedupAdjacent SemanticPipelineStage.id (sortBy compareStages model.pipeline)
    truncated := {
      objects := uniqueObjects.length - maxObjects
      fields := uniqueFields.length - maxFields
      relations := uniqueRelations.length - maxRelations } }

end Functions

section Confidence

theorem normalizedConfidence_isFinite (value : Float64) : (normalizedConfidence value).isFinite = true := by
  obtain ⟨⟨zero, one⟩, -⟩ := Float64.unitInterval
  rw [normalizedConfidence]
  split
  · rename_i finite
    rcases Float64.clamp_cases (.ofRat 0) (.ofRat 1) value with same | same | ⟨same, _⟩
    · rw [same]
      exact zero
    · rw [same]
      exact one
    · rw [same]
      exact finite
  · exact zero

theorem normalizedConfidence_ne_nan (value : Float64) : normalizedConfidence value ≠ .nan := by
  intro same
  have finite := normalizedConfidence_isFinite value
  rw [same] at finite
  cases finite

theorem normalizedConfidence_idem (value : Float64) :
    normalizedConfidence (normalizedConfidence value) = normalizedConfidence value := by
  obtain ⟨-, ordered⟩ := Float64.unitInterval
  rw [normalizedConfidence, if_pos (normalizedConfidence_isFinite value), normalizedConfidence]
  split
  · exact Float64.clamp_clamp ordered value
  · rw [Float64.clamp, Float64.lt_irrefl, ordered]
    rfl

end Confidence

section Texts

variable {values : List String} {limit : Nat} {value : String}

theorem distinctTexts_sorted (values : List String) :
    (distinctTexts values).Pairwise fun first second => compare first second = .lt :=
  distinctBy_sorted id _

theorem mem_distinctTexts : value ∈ distinctTexts values ↔ value ∈ values.map trim ∧ value ≠ "" := by
  rw [distinctTexts, mem_distinctBy_of_injective Function.injective_id, List.mem_filter, decide_eq_true_eq]

theorem map_trim_eq_self (trimmed : ∀ value ∈ values, trim value = value) : values.map trim = values := by
  conv_rhs => rw [← List.map_id values]
  exact List.map_congr_left trimmed

theorem distinctTexts_trimmed (inside : value ∈ distinctTexts values) : trim value = value ∧ value ≠ "" := by
  rw [mem_distinctTexts] at inside
  obtain ⟨listed, nonempty⟩ := inside
  obtain ⟨text, _, rfl⟩ := List.mem_map.mp listed
  exact ⟨trim_trim text, nonempty⟩

/-- Part of a list of distinct texts is a list of distinct texts. -/
theorem distinctTexts_sublist {kept : List String} (part : kept.Sublist (distinctTexts values)) :
    distinctTexts kept = kept := by
  have trimmed : ∀ value ∈ kept, trim value = value ∧ value ≠ "" := fun value inside =>
    distinctTexts_trimmed (part.subset inside)
  have filtered : (kept.filter fun value => decide (value ≠ "")) = kept :=
    List.filter_eq_self.mpr fun value inside => decide_eq_true (trimmed value inside).2
  rw [distinctTexts, map_trim_eq_self fun value inside => (trimmed value inside).1, filtered]
  exact distinctBy_eq_self Function.injective_id ((distinctTexts_sorted values).sublist part)

theorem distinctTexts_idem (values : List String) : distinctTexts (distinctTexts values) = distinctTexts values :=
  distinctTexts_sublist (List.Sublist.refl _)

theorem normalizedStrings_sublist {kept : List String} (part : kept.Sublist (normalizedStrings values limit)) :
    normalizedStrings kept limit = kept := by
  have short : kept.length ≤ limit := part.length_le.trans (List.length_take_le limit _)
  rw [normalizedStrings, distinctTexts_sublist (part.trans (List.take_sublist limit _)),
    List.take_of_length_le short]

end Texts

section Evidence

variable {values : List SemanticEvidenceRef} {evidence : SemanticEvidenceRef}

theorem mem_normalizedEvidence (inside : evidence ∈ normalizedEvidence values) :
    evidence ∈ values.map trimmedEvidence ∧ evidence.IsSourced := by
  have kept := distinctBy_subset (List.mem_of_mem_take inside)
  rw [List.mem_filter, decide_eq_true_eq] at kept
  exact kept

theorem normalizedEvidence_length (values : List SemanticEvidenceRef) :
    (normalizedEvidence values).length ≤ maxEvidenceRefs :=
  List.length_take_le _ _

theorem trimmedEvidence_idem (evidence : SemanticEvidenceRef) :
    trimmedEvidence (trimmedEvidence evidence) = trimmedEvidence evidence := by
  simp only [trimmedEvidence, trim_trim]

theorem normalizedEvidence_idem (values : List SemanticEvidenceRef) :
    normalizedEvidence (normalizedEvidence values) = normalizedEvidence values := by
  have trimmed : (normalizedEvidence values).map trimmedEvidence = normalizedEvidence values := by
    conv_rhs => rw [← List.map_id (normalizedEvidence values)]
    apply List.map_congr_left
    intro evidence inside
    obtain ⟨original, _, rfl⟩ := List.mem_map.mp (mem_normalizedEvidence inside).1
    exact trimmedEvidence_idem original
  have sourced : ∀ evidence ∈ normalizedEvidence values,
      decide (evidence.sourceKind ≠ "" ∧ evidence.sourceId ≠ "") = true := fun evidence inside =>
    decide_eq_true (mem_normalizedEvidence inside).2
  have sorted : (normalizedEvidence values).Pairwise fun first second =>
      compare (evidenceKey first) (evidenceKey second) = .lt :=
    (distinctBy_sorted evidenceKey _).sublist (List.take_sublist _ _)
  conv_lhs => rw [normalizedEvidence]
  rw [trimmed, List.filter_eq_self.mpr sourced, distinctBy_eq_self evidenceKey_injective sorted,
    List.take_of_length_le (normalizedEvidence_length values)]

end Evidence

section Orders

/-! The comparators are total orders on entries whose confidence is a number. -/

theorem compareConfidence_eq {left right : Float64} (leftNumber : left ≠ .nan) (rightNumber : right ≠ .nan) :
    compareConfidence left right = compare left right := by
  rw [compareConfidence, Float64.partialCmp_eq_compare leftNumber rightNumber, Option.getD_some]

def objectOrder : SemanticObject → SemanticObject → Ordering :=
  compareLex (compareOn fun object => statusRank object.status) <|
    compareLex (fun left right => compareOn SemanticObject.coverageCount right left) <|
    compareLex (fun left right => compareOn SemanticObject.confidence right left) <|
    compareLex (compareOn SemanticObject.label) (compareOn SemanticObject.id)

def fieldOrder : SemanticField → SemanticField → Ordering :=
  compareLex (compareOn fun field => statusRank field.status) <|
    compareLex (fun left right => compareOn SemanticField.nonEmptyCount right left) <|
    compareLex (fun left right => compareOn SemanticField.confidence right left) <|
    compareLex (compareOn SemanticField.label) (compareOn SemanticField.id)

def relationOrder : SemanticRelation → SemanticRelation → Ordering :=
  compareLex (compareOn fun relation => evidenceRank relation.evidenceClass) <|
    compareLex (fun left right => compareOn SemanticRelation.confidence right left) <|
    compareLex (compareOn SemanticRelation.sourceId) <|
    compareLex (compareOn SemanticRelation.targetId) (compareOn SemanticRelation.id)

instance : Std.TransCmp objectOrder := by unfold objectOrder; infer_instance

instance : Std.TransCmp fieldOrder := by unfold fieldOrder; infer_instance

instance : Std.TransCmp relationOrder := by unfold relationOrder; infer_instance

instance : Std.TransCmp compareStages :=
  inferInstanceAs (Std.TransCmp (compareLex (compareOn fun stage : SemanticPipelineStage =>
    pipelineStageRank stage.id) (compareOn SemanticPipelineStage.id)))

theorem objectOrder_separates (left right : SemanticObject) (same : objectOrder left right = .eq) :
    left.id = right.id := by
  simp only [objectOrder, compareLex_eq_eq, compareOn] at same
  exact Std.LawfulEqOrd.eq_of_compare same.2.2.2.2

theorem fieldOrder_separates (left right : SemanticField) (same : fieldOrder left right = .eq) :
    left.id = right.id := by
  simp only [fieldOrder, compareLex_eq_eq, compareOn] at same
  exact Std.LawfulEqOrd.eq_of_compare same.2.2.2.2

theorem relationOrder_separates (left right : SemanticRelation) (same : relationOrder left right = .eq) :
    left.id = right.id := by
  simp only [relationOrder, compareLex_eq_eq, compareOn] at same
  exact Std.LawfulEqOrd.eq_of_compare same.2.2.2.2

/-- Stages and groups are told apart by their ids alone. -/
theorem compareStages_level (left right : SemanticPipelineStage) :
    compareStages left right = .eq ↔ left.id = right.id := by
  constructor
  · intro same
    rw [compareStages, Ordering.then_eq_eq] at same
    exact Std.LawfulEqOrd.eq_of_compare same.2
  · intro same
    rw [compareStages, same]
    simp

theorem compareGroups_level (left right : SemanticSourceGroup) :
    compareOn SemanticSourceGroup.id left right = .eq ↔ left.id = right.id := by
  simp [compareOn]

theorem compareObjects_eq {left right : SemanticObject} (leftNumber : left.confidence ≠ .nan)
    (rightNumber : right.confidence ≠ .nan) : compareObjects left right = objectOrder left right := by
  rw [compareObjects, compareConfidence_eq rightNumber leftNumber]
  rfl

theorem compareFields_eq {left right : SemanticField} (leftNumber : left.confidence ≠ .nan)
    (rightNumber : right.confidence ≠ .nan) : compareFields left right = fieldOrder left right := by
  rw [compareFields, compareConfidence_eq rightNumber leftNumber]
  rfl

theorem compareRelations_eq {left right : SemanticRelation} (leftNumber : left.confidence ≠ .nan)
    (rightNumber : right.confidence ≠ .nan) : compareRelations left right = relationOrder left right := by
  rw [compareRelations, compareConfidence_eq rightNumber leftNumber]
  rfl

end Orders

section Stages

variable (model : DatasetSemanticUnderstanding)

def DatasetSemanticUnderstanding.objectIds : List String := model.objects.map SemanticObject.id

def DatasetSemanticUnderstanding.nodeIds : List String :=
  model.objectIds ++ model.fields.map SemanticField.id

def candidateObjects : List SemanticObject := model.objects.map normalizedObject

def candidateFields (objectIds : List String) : List SemanticField :=
  (model.fields.map normalizedField).filter fun field => decide (field.objectId ∈ objectIds)

def candidateRelations (nodeIds : List String) : List SemanticRelation :=
  (model.relations.map normalizedRelation).filter (joinsNodes nodeIds)

def candidateGroups (nodeIds : List String) : List SemanticSourceGroup :=
  model.sourceGroups.map (normalizedGroup nodeIds)

theorem candidateObjects_number : ∀ object ∈ candidateObjects model, object.confidence ≠ .nan := by
  intro object inside
  obtain ⟨original, _, rfl⟩ := List.mem_map.mp inside
  exact normalizedConfidence_ne_nan original.confidence

theorem candidateFields_number (objectIds : List String) :
    ∀ field ∈ candidateFields model objectIds, field.confidence ≠ .nan := by
  intro field inside
  obtain ⟨original, _, rfl⟩ := List.mem_map.mp (List.mem_filter.mp inside).1
  exact normalizedConfidence_ne_nan original.confidence

theorem candidateRelations_number (nodeIds : List String) :
    ∀ relation ∈ candidateRelations model nodeIds, relation.confidence ≠ .nan := by
  intro relation inside
  obtain ⟨original, _, rfl⟩ := List.mem_map.mp (List.mem_filter.mp inside).1
  exact normalizedConfidence_ne_nan original.confidence

def rankedObjects : List SemanticObject := dedupeBy SemanticObject.id compareObjects (candidateObjects model)

def rankedFields (objectIds : List String) : List SemanticField :=
  dedupeBy SemanticField.id compareFields (candidateFields model objectIds)

def rankedRelations (nodeIds : List String) : List SemanticRelation :=
  dedupeBy SemanticRelation.id compareRelations (candidateRelations model nodeIds)

theorem compareObjects_agree : ∀ left ∈ candidateObjects model, ∀ right ∈ candidateObjects model,
    compareObjects left right = objectOrder left right :=
  fun left inside right within =>
    compareObjects_eq (candidateObjects_number model left inside) (candidateObjects_number model right within)

theorem compareFields_agree (objectIds : List String) : ∀ left ∈ candidateFields model objectIds,
    ∀ right ∈ candidateFields model objectIds, compareFields left right = fieldOrder left right :=
  fun left inside right within =>
    compareFields_eq (candidateFields_number model objectIds left inside)
      (candidateFields_number model objectIds right within)

theorem compareRelations_agree (nodeIds : List String) : ∀ left ∈ candidateRelations model nodeIds,
    ∀ right ∈ candidateRelations model nodeIds, compareRelations left right = relationOrder left right :=
  fun left inside right within =>
    compareRelations_eq (candidateRelations_number model nodeIds left inside)
      (candidateRelations_number model nodeIds right within)

/-! What the normalization leaves in each list, each filtered by the ids that
the lists before it kept. -/

theorem normalize_objects :
    (normalizeSemanticUnderstanding model).objects = (rankedObjects model).take maxObjects := rfl

theorem normalize_fields :
    (normalizeSemanticUnderstanding model).fields =
      (rankedFields model (normalizeSemanticUnderstanding model).objectIds).take maxFields := rfl

theorem normalize_relations :
    (normalizeSemanticUnderstanding model).relations =
      (rankedRelations model (normalizeSemanticUnderstanding model).nodeIds).take maxRelations := rfl

theorem normalize_sourceGroups :
    (normalizeSemanticUnderstanding model).sourceGroups =
      dedupeBy SemanticSourceGroup.id (compareOn SemanticSourceGroup.id)
        (candidateGroups model (normalizeSemanticUnderstanding model).nodeIds) :=
  dedupAdjacent_sortBy compareGroups_level

theorem normalize_pipeline :
    (normalizeSemanticUnderstanding model).pipeline =
      dedupeBy SemanticPipelineStage.id compareStages model.pipeline :=
  dedupAdjacent_sortBy compareStages_level

theorem normalize_truncated :
    (normalizeSemanticUnderstanding model).truncated =
      ⟨(rankedObjects model).length - maxObjects,
        (rankedFields model (normalizeSemanticUnderstanding model).objectIds).length - maxFields,
        (rankedRelations model (normalizeSemanticUnderstanding model).nodeIds).length - maxRelations⟩ := rfl

end Stages

end DataMax.SemanticUnderstanding
