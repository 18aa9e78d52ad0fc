import DataMax.SemanticUnderstanding.Normalization

/-! What holds of every normalized model, and which entries it keeps. -/

namespace DataMax.SemanticUnderstanding

open Domain Library

section Statements

/-- At most the evidence limit of references, each naming its source by trimmed
texts that are not empty. -/
def EvidenceBounded (references : List SemanticEvidenceRef) : Prop :=
  references.length ≤ maxEvidenceRefs ∧ ∀ evidence ∈ references, evidence.IsSourced ∧
    trim evidence.sourceKind = evidence.sourceKind ∧ trim evidence.sourceId = evidence.sourceId

/-- Every id stands for one entry and every reference is to an entry. -/
structure ReferencesKept (model : DatasetSemanticUnderstanding) : Prop where
  objects : model.objectIds.Nodup
  fields : (model.fields.map SemanticField.id).Nodup
  relations : (model.relations.map SemanticRelation.id).Nodup
  owned : ∀ field ∈ model.fields, field.objectId ∈ model.objectIds
  joined : ∀ relation ∈ model.relations, relation.sourceId ∈ model.nodeIds ∧
    relation.targetId ∈ model.nodeIds ∧ relation.sourceId ≠ relation.targetId

structure Bounded (model : DatasetSemanticUnderstanding) : Prop where
  objects : model.objects.length ≤ maxObjects
  fields : model.fields.length ≤ maxFields
  relations : model.relations.length ≤ maxRelations
  objectEvidence : ∀ object ∈ model.objects, EvidenceBounded object.evidenceRefs
  fieldEvidence : ∀ field ∈ model.fields, EvidenceBounded field.evidenceRefs
  relationEvidence : ∀ relation ∈ model.relations, EvidenceBounded relation.evidenceRefs

structure Sorted (model : DatasetSemanticUnderstanding) : Prop where
  objects : model.objects.Pairwise fun first second => (compareObjects first second).isLE
  fields : model.fields.Pairwise fun first second => (compareFields first second).isLE
  relations : model.relations.Pairwise fun first second => (compareRelations first second).isLE
  sourceGroups : model.sourceGroups.Pairwise fun first second =>
    (compareOn SemanticSourceGroup.id first second).isLE
  pipeline : model.pipeline.Pairwise fun first second => (compareStages first second).isLE

/-- The result keeps the best objects, the best fields of these, and the best
relations between the kept nodes. -/
structure RankingKept (model result : DatasetSemanticUnderstanding) : Prop where
  objects : KeepsBest SemanticObject.id compareObjects (model.objects.map normalizedObject) result.objects
  fields : KeepsBest SemanticField.id compareFields
    ((model.fields.filter fun field => decide (field.objectId ∈ result.objectIds)).map normalizedField)
    result.fields
  relations : KeepsBest SemanticRelation.id compareRelations
    ((model.relations.filter (joinsNodes result.nodeIds)).map normalizedRelation) result.relations

end Statements

variable (model : DatasetSemanticUnderstanding)

theorem normalizedEvidence_bounded (values : List SemanticEvidenceRef) :
    EvidenceBounded (normalizedEvidence values) := by
  refine ⟨normalizedEvidence_length values, ?_⟩
  intro evidence inside
  obtain ⟨listed, sourced⟩ := mem_normalizedEvidence inside
  obtain ⟨original, _, rfl⟩ := List.mem_map.mp listed
  exact ⟨sourced, trim_trim original.sourceKind, trim_trim original.sourceId⟩

theorem mem_normalize_objects {object : SemanticObject}
    (inside : object ∈ (normalizeSemanticUnderstanding model).objects) : object ∈ candidateObjects model := by
  rw [normalize_objects] at inside
  exact dedupeBy_subset (List.mem_of_mem_take inside)

theorem mem_normalize_fields {field : SemanticField}
    (inside : field ∈ (normalizeSemanticUnderstanding model).fields) :
    field ∈ candidateFields model (normalizeSemanticUnderstanding model).objectIds := by
  rw [normalize_fields] at inside
  exact dedupeBy_subset (List.mem_of_mem_take inside)

theorem mem_normalize_relations {relation : SemanticRelation}
    (inside : relation ∈ (normalizeSemanticUnderstanding model).relations) :
    relation ∈ candidateRelations model (normalizeSemanticUnderstanding model).nodeIds := by
  rw [normalize_relations] at inside
  exact dedupeBy_subset (List.mem_of_mem_take inside)

/-- The first few of the selected items have different keys. -/
theorem take_keys_nodup {Item : Type} (key : Item → String) (order : Item → Item → Ordering) (limit : Nat)
    (items : List Item) : (((dedupeBy key order items).take limit).map key).Nodup :=
  (dedupeBy_keys_nodup key order items).sublist ((List.take_sublist limit _).map key)

theorem normalize_references : ReferencesKept (normalizeSemanticUnderstanding model) where
  objects := by
    rw [DatasetSemanticUnderstanding.objectIds, normalize_objects]
    exact take_keys_nodup _ _ _ _
  fields := by
    rw [normalize_fields]
    exact take_keys_nodup _ _ _ _
  relations := by
    rw [normalize_relations]
    exact take_keys_nodup _ _ _ _
  owned := by
    intro field inside
    exact of_decide_eq_true (List.mem_filter.mp (mem_normalize_fields model inside)).2
  joined := by
    intro relation inside
    exact of_decide_eq_true (List.mem_filter.mp (mem_normalize_relations model inside)).2

theorem normalize_bounded : Bounded (normalizeSemanticUnderstanding model) where
  objects := by
    rw [normalize_objects]
    exact List.length_take_le _ _
  fields := by
    rw [normalize_fields]
    exact List.length_take_le _ _
  relations := by
    rw [normalize_relations]
    exact List.length_take_le _ _
  objectEvidence := by
    intro object inside
    obtain ⟨original, _, rfl⟩ := List.mem_map.mp (mem_normalize_objects model inside)
    exact normalizedEvidence_bounded original.evidenceRefs
  fieldEvidence := by
    intro field inside
    obtain ⟨original, _, rfl⟩ := List.mem_map.mp (List.mem_filter.mp (mem_normalize_fields model inside)).1
    exact normalizedEvidence_bounded original.evidenceRefs
  relationEvidence := by
    intro relation inside
    obtain ⟨original, _, rfl⟩ := List.mem_map.mp (List.mem_filter.mp (mem_normalize_relations model inside)).1
    exact normalizedEvidence_bounded original.evidenceRefs

theorem normalize_sorted : Sorted (normalizeSemanticUnderstanding model) where
  objects := (dedupeBy_sorted_of_agree (compareObjects_agree model)).sublist (List.take_sublist _ _)
  fields := (dedupeBy_sorted_of_agree (compareFields_agree model _)).sublist (List.take_sublist _ _)
  relations := (dedupeBy_sorted_of_agree (compareRelations_agree model _)).sublist (List.take_sublist _ _)
  sourceGroups := by
    rw [normalize_sourceGroups]
    exact dedupeBy_sorted _ _ _
  pipeline := by
    rw [normalize_pipeline]
    exact dedupeBy_sorted _ _ _

theorem normalize_ranking : RankingKept model (normalizeSemanticUnderstanding model) where
  objects := keepsBest_of_agree (compareObjects_agree model) maxObjects
  fields := by
    have candidates : candidateFields model (normalizeSemanticUnderstanding model).objectIds =
        (model.fields.filter fun field =>
          decide (field.objectId ∈ (normalizeSemanticUnderstanding model).objectIds)).map normalizedField :=
      List.filter_map
    rw [← candidates]
    exact keepsBest_of_agree (compareFields_agree model _) maxFields
  relations := by
    have candidates : candidateRelations model (normalizeSemanticUnderstanding model).nodeIds =
        (model.relations.filter (joinsNodes (normalizeSemanticUnderstanding model).nodeIds)).map
          normalizedRelation :=
      List.filter_map
    rw [← candidates]
    exact keepsBest_of_agree (compareRelations_agree model _) maxRelations

/-- A normalized model refers to its own entries only, is bounded and sorted,
and keeps the best of what it was made from. -/
theorem normalize_integral : ReferencesKept (normalizeSemanticUnderstanding model) ∧
    Bounded (normalizeSemanticUnderstanding model) ∧ Sorted (normalizeSemanticUnderstanding model) ∧
    RankingKept model (normalizeSemanticUnderstanding model) :=
  ⟨normalize_references model, normalize_bounded model, normalize_sorted model, normalize_ranking model⟩

end DataMax.SemanticUnderstanding
