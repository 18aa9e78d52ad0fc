import DataMax.SemanticUnderstanding.Integrity

/-! Normalizing a normalized model. -/

namespace DataMax.SemanticUnderstanding

open Domain Library
open SemanticSnapshot (datasetSemanticSchemaVersion datasetSemanticGenerationVersion)

theorem normalizedObject_idem (object : SemanticObject) :
    normalizedObject (normalizedObject object) = normalizedObject object := by
  simp only [normalizedObject, normalizedConfidence_idem, normalizedEvidence_idem]

theorem normalizedField_idem (field : SemanticField) :
    normalizedField (normalizedField field) = normalizedField field := by
  have examples : normalizedStrings (normalizedStrings field.examples maxExamples) maxExamples =
      normalizedStrings field.examples maxExamples := normalizedStrings_sublist (List.Sublist.refl _)
  simp only [normalizedField, normalizedConfidence_idem, normalizedEvidence_idem, examples]

theorem normalizedRelation_idem (relation : SemanticRelation) :
    normalizedRelation (normalizedRelation relation) = normalizedRelation relation := by
  simp only [normalizedRelation, normalizedConfidence_idem, normalizedEvidence_idem]

theorem normalizedGroup_idem (nodeIds : List String) (group : SemanticSourceGroup) :
    normalizedGroup nodeIds (normalizedGroup nodeIds group) = normalizedGroup nodeIds group := by
  have texts := normalizedStrings_sublist
    (List.filter_sublist (p := (decide <| · ∈ nodeIds)) (l := normalizedStrings group.objectIds maxObjects))
  simp only [normalizedGroup, texts, List.filter_filter, Bool.and_self]

variable (model : DatasetSemanticUnderstanding)

theorem candidateObjects_normalize :
    candidateObjects (normalizeSemanticUnderstanding model) = (normalizeSemanticUnderstanding model).objects := by
  conv_rhs => rw [← List.map_id (normalizeSemanticUnderstanding model).objects]
  apply List.map_congr_left
  intro object inside
  obtain ⟨original, _, rfl⟩ := List.mem_map.mp (mem_normalize_objects model inside)
  exact normalizedObject_idem original

theorem candidateFields_normalize :
    candidateFields (normalizeSemanticUnderstanding model) (normalizeSemanticUnderstanding model).objectIds =
      (normalizeSemanticUnderstanding model).fields := by
  have mapped : (normalizeSemanticUnderstanding model).fields.map normalizedField =
      (normalizeSemanticUnderstanding model).fields := by
    conv_rhs => rw [← List.map_id (normalizeSemanticUnderstanding model).fields]
    apply List.map_congr_left
    intro field inside
    obtain ⟨original, _, rfl⟩ := List.mem_map.mp (List.mem_filter.mp (mem_normalize_fields model inside)).1
    exact normalizedField_idem original
  rw [candidateFields, mapped, List.filter_eq_self]
  exact fun field inside => (List.mem_filter.mp (mem_normalize_fields model inside)).2

theorem candidateRelations_normalize :
    candidateRelations (normalizeSemanticUnderstanding model) (normalizeSemanticUnderstanding model).nodeIds =
      (normalizeSemanticUnderstanding model).relations := by
  have mapped : (normalizeSemanticUnderstanding model).relations.map normalizedRelation =
      (normalizeSemanticUnderstanding model).relations := by
    conv_rhs => rw [← List.map_id (normalizeSemanticUnderstanding model).relations]
    apply List.map_congr_left
    intro relation inside
    obtain ⟨original, _, rfl⟩ := List.mem_map.mp (List.mem_filter.mp (mem_normalize_relations model inside)).1
    exact normalizedRelation_idem original
  rw [candidateRelations, mapped, List.filter_eq_self]
  exact fun relation inside => (List.mem_filter.mp (mem_normalize_relations model inside)).2

theorem candidateGroups_normalize :
    candidateGroups (normalizeSemanticUnderstanding model) (normalizeSemanticUnderstanding model).nodeIds =
      (normalizeSemanticUnderstanding model).sourceGroups := by
  conv_rhs => rw [← List.map_id (normalizeSemanticUnderstanding model).sourceGroups]
  apply List.map_congr_left
  intro group inside
  rw [normalize_sourceGroups] at inside
  obtain ⟨original, _, rfl⟩ := List.mem_map.mp (dedupeBy_subset inside)
  exact normalizedGroup_idem _ original

theorem rankedObjects_normalize :
    rankedObjects (normalizeSemanticUnderstanding model) = (normalizeSemanticUnderstanding model).objects := by
  rw [rankedObjects, candidateObjects_normalize, normalize_objects]
  exact dedupeBy_take_of_agree (compareObjects_agree model) objectOrder_separates maxObjects

theorem rankedFields_normalize :
    rankedFields (normalizeSemanticUnderstanding model) (normalizeSemanticUnderstanding model).objectIds =
      (normalizeSemanticUnderstanding model).fields := by
  rw [rankedFields, candidateFields_normalize, normalize_fields]
  exact dedupeBy_take_of_agree (compareFields_agree model _) fieldOrder_separates maxFields

theorem rankedRelations_normalize :
    rankedRelations (normalizeSemanticUnderstanding model) (normalizeSemanticUnderstanding model).nodeIds =
      (normalizeSemanticUnderstanding model).relations := by
  rw [rankedRelations, candidateRelations_normalize, normalize_relations]
  exact dedupeBy_take_of_agree (compareRelations_agree model _) relationOrder_separates maxRelations

theorem normalize_normalize_objects :
    (normalizeSemanticUnderstanding (normalizeSemanticUnderstanding model)).objects =
      (normalizeSemanticUnderstanding model).objects := by
  rw [normalize_objects, rankedObjects_normalize, List.take_of_length_le (normalize_bounded model).objects]

theorem normalize_normalize_objectIds :
    (normalizeSemanticUnderstanding (normalizeSemanticUnderstanding model)).objectIds =
      (normalizeSemanticUnderstanding model).objectIds :=
  congrArg (List.map SemanticObject.id) (normalize_normalize_objects model)

theorem normalize_normalize_fields :
    (normalizeSemanticUnderstanding (normalizeSemanticUnderstanding model)).fields =
      (normalizeSemanticUnderstanding model).fields := by
  rw [normalize_fields, normalize_normalize_objectIds, rankedFields_normalize,
    List.take_of_length_le (normalize_bounded model).fields]

theorem normalize_normalize_nodeIds :
    (normalizeSemanticUnderstanding (normalizeSemanticUnderstanding model)).nodeIds =
      (normalizeSemanticUnderstanding model).nodeIds := by
  rw [DatasetSemanticUnderstanding.nodeIds, normalize_normalize_objectIds, normalize_normalize_fields,
    DatasetSemanticUnderstanding.nodeIds]

/-- The second run cuts nothing off. -/
theorem normalize_normalize_truncated :
    (normalizeSemanticUnderstanding (normalizeSemanticUnderstanding model)).truncated = ⟨0, 0, 0⟩ := by
  have bounded := normalize_bounded model
  rw [normalize_truncated, normalize_normalize_objectIds, normalize_normalize_nodeIds, rankedObjects_normalize, rankedFields_normalize,
    rankedRelations_normalize, Nat.sub_eq_zero_of_le bounded.objects, Nat.sub_eq_zero_of_le bounded.fields,
    Nat.sub_eq_zero_of_le bounded.relations]

/-- A second normalization changes nothing but the counters: each counts what
its own run cut off, and the second run cuts nothing. -/
theorem normalize_normalize :
    normalizeSemanticUnderstanding (normalizeSemanticUnderstanding model) =
      { normalizeSemanticUnderstanding model with truncated := ⟨0, 0, 0⟩ } := by
  let result := normalizeSemanticUnderstanding model
  have bounded := normalize_bounded model
  have objects := normalize_normalize_objects model
  have fields := normalize_normalize_fields model
  have nodeIds := normalize_normalize_nodeIds model
  have relations : (normalizeSemanticUnderstanding result).relations = result.relations := by
    rw [normalize_relations, nodeIds, rankedRelations_normalize, List.take_of_length_le bounded.relations]
  have groups : (normalizeSemanticUnderstanding result).sourceGroups = result.sourceGroups := by
    rw [normalize_sourceGroups, nodeIds, candidateGroups_normalize, normalize_sourceGroups]
    exact dedupeBy_dedupeBy fun left right => (compareGroups_level left right).mp
  have pipeline : (normalizeSemanticUnderstanding result).pipeline = result.pipeline := by
    rw [normalize_pipeline, normalize_pipeline]
    exact dedupeBy_dedupeBy fun left right => (compareStages_level left right).mp
  have summary : (normalizeSemanticUnderstanding result).summary = result.summary :=
    congrArg (SemanticSummary.mk model.summary.headline) (distinctTexts_idem model.summary.limitations)
  exact DatasetSemanticUnderstanding.ext rfl rfl rfl rfl rfl summary objects fields relations groups pipeline rfl
    rfl (normalize_normalize_truncated model)

def sampleModel : DatasetSemanticUnderstanding where
  schemaVersion := datasetSemanticSchemaVersion
  generationVersion := datasetSemanticGenerationVersion
  status := "ready"
  dataset := ⟨⟨"00000000-0000-0000-0000-000000000001"⟩, "leases"⟩
  coverage := ⟨0, 0, 0, 0, 0, 0, 0⟩
  summary := ⟨"", []⟩
  objects := []
  fields := []
  relations := []
  sourceGroups := []
  pipeline := []
  generatedAt := 0
  stale := false
  truncated := ⟨0, 0, 0⟩

def sampleObject (id description : String) : SemanticObject :=
  ⟨id, "database_table", "Lease", "lease", description, "source_metadata", .ofRat 1, 10, .observed, []⟩

/-- One object more than the limit. -/
def crowdedModel : DatasetSemanticUnderstanding :=
  { sampleModel with
    objects := (List.range (maxObjects + 1)).map fun index => sampleObject (toString index) "" }

/-- The counter of the object that was cut off is lost. -/
theorem normalize_not_idempotent :
    normalizeSemanticUnderstanding (normalizeSemanticUnderstanding crowdedModel) ≠
      normalizeSemanticUnderstanding crowdedModel := by
  intro same
  have ids : (rankedObjects crowdedModel).length = maxObjects + 1 := by
    rw [rankedObjects, length_dedupeBy]
    decide +kernel
  have counters := congrArg DatasetSemanticUnderstanding.truncated same
  rw [normalize_normalize_truncated, normalize_truncated, ids] at counters
  cases counters

end DataMax.SemanticUnderstanding
