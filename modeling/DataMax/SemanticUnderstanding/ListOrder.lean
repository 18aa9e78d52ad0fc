import DataMax.SemanticUnderstanding.Idempotence

/-! Whether the normalization depends on the order of the lists. -/

namespace DataMax.SemanticUnderstanding

open Domain Library

section Statements

/-- The second model lists the same entries in another order. -/
structure ListsReordered (model other : DatasetSemanticUnderstanding) : Prop where
  objects : other.objects.Perm model.objects
  fields : other.fields.Perm model.fields
  relations : other.relations.Perm model.relations
  sourceGroups : other.sourceGroups.Perm model.sourceGroups
  pipeline : other.pipeline.Perm model.pipeline
  rest : other = { model with
    objects := other.objects
    fields := other.fields
    relations := other.relations
    sourceGroups := other.sourceGroups
    pipeline := other.pipeline }

variable (model : DatasetSemanticUnderstanding)

/-- The ids that fewer than the allowed number of object ids precede. -/
def leadingObjectIds : List String :=
  ((candidateObjects model).map SemanticObject.id).filter fun id =>
    decide (Leading SemanticObject.id compareObjects maxObjects (candidateObjects model) id)

def leadingFieldIds : List String :=
  ((candidateFields model (leadingObjectIds model)).map SemanticField.id).filter fun id =>
    decide (Leading SemanticField.id compareFields maxFields (candidateFields model (leadingObjectIds model)) id)

def leadingNodeIds : List String := leadingObjectIds model ++ leadingFieldIds model

/-- Entries of one id that tie for the best, and groups and stages of one id,
are equal, as far as they are not cut off. -/
structure TiesEqual : Prop where
  objects : Unambiguous SemanticObject.id compareObjects maxObjects (candidateObjects model)
  fields : Unambiguous SemanticField.id compareFields maxFields (candidateFields model (leadingObjectIds model))
  relations : Unambiguous SemanticRelation.id compareRelations maxRelations
    (candidateRelations model (leadingNodeIds model))
  sourceGroups : ∀ first ∈ model.sourceGroups, ∀ second ∈ model.sourceGroups, first.id = second.id →
    normalizedGroup (leadingNodeIds model) first = normalizedGroup (leadingNodeIds model) second
  pipeline : ∀ first ∈ model.pipeline, ∀ second ∈ model.pipeline, first.id = second.id → first = second

end Statements

section Leading

variable {model : DatasetSemanticUnderstanding}

theorem candidateFields_congr {ids others : List String} (same : ∀ id, id ∈ ids ↔ id ∈ others) :
    candidateFields model ids = candidateFields model others := by
  simp only [candidateFields, same]

theorem candidateRelations_congr {ids others : List String} (same : ∀ id, id ∈ ids ↔ id ∈ others) :
    candidateRelations model ids = candidateRelations model others := by
  have joins : joinsNodes ids = joinsNodes others := by
    funext relation
    simp only [joinsNodes, same]
  rw [candidateRelations, joins, candidateRelations]

theorem normalizedGroup_congr {ids others : List String} (same : ∀ id, id ∈ ids ↔ id ∈ others) :
    normalizedGroup ids = normalizedGroup others := by
  funext group
  simp only [normalizedGroup, same]

/-- The kept objects are those whose ids lead. -/
theorem mem_leadingObjectIds {id : String} :
    id ∈ leadingObjectIds model ↔ id ∈ (normalizeSemanticUnderstanding model).objectIds := by
  have kept : id ∈ ((rankedObjects model).take maxObjects).map SemanticObject.id ↔
      Leading SemanticObject.id compareObjects maxObjects (candidateObjects model) id :=
    mem_take_keys_of_agree (compareObjects_agree model) objectOrder_separates
  rw [DatasetSemanticUnderstanding.objectIds, normalize_objects, kept, leadingObjectIds,
    List.mem_filter, decide_eq_true_eq]
  exact ⟨And.right, fun leading => ⟨leading.1, leading⟩⟩

theorem candidateFields_leading : candidateFields model (leadingObjectIds model) =
    candidateFields model (normalizeSemanticUnderstanding model).objectIds :=
  candidateFields_congr fun _ => mem_leadingObjectIds

theorem mem_leadingNodeIds {id : String} :
    id ∈ leadingNodeIds model ↔ id ∈ (normalizeSemanticUnderstanding model).nodeIds := by
  let objectIds := (normalizeSemanticUnderstanding model).objectIds
  have kept : id ∈ ((rankedFields model objectIds).take maxFields).map SemanticField.id ↔
      Leading SemanticField.id compareFields maxFields (candidateFields model objectIds) id :=
    mem_take_keys_of_agree (compareFields_agree model objectIds) fieldOrder_separates
  rw [leadingNodeIds, DatasetSemanticUnderstanding.nodeIds, List.mem_append, List.mem_append,
    mem_leadingObjectIds, normalize_fields, kept, leadingFieldIds, candidateFields_leading,
    List.mem_filter, decide_eq_true_eq]
  exact or_congr_right ⟨And.right, fun leading => ⟨leading.1, leading⟩⟩

theorem candidateRelations_leading : candidateRelations model (leadingNodeIds model) =
    candidateRelations model (normalizeSemanticUnderstanding model).nodeIds :=
  candidateRelations_congr fun _ => mem_leadingNodeIds

theorem normalizedGroup_leading :
    normalizedGroup (leadingNodeIds model) = normalizedGroup (normalizeSemanticUnderstanding model).nodeIds :=
  normalizedGroup_congr fun _ => mem_leadingNodeIds

end Leading

section Reordered

variable {model other : DatasetSemanticUnderstanding} (reordered : ListsReordered model other)
  (equal : TiesEqual model)

include reordered

theorem candidateObjects_reordered (object : SemanticObject) :
    object ∈ candidateObjects model ↔ object ∈ candidateObjects other :=
  (reordered.objects.map normalizedObject).mem_iff.symm

theorem candidateFields_reordered (objectIds : List String) (field : SemanticField) :
    field ∈ candidateFields model objectIds ↔ field ∈ candidateFields other objectIds :=
  ((reordered.fields.map normalizedField).filter _).mem_iff.symm

theorem candidateRelations_reordered (nodeIds : List String) (relation : SemanticRelation) :
    relation ∈ candidateRelations model nodeIds ↔ relation ∈ candidateRelations other nodeIds :=
  ((reordered.relations.map normalizedRelation).filter _).mem_iff.symm

theorem candidateGroups_reordered (nodeIds : List String) (group : SemanticSourceGroup) :
    group ∈ candidateGroups model nodeIds ↔ group ∈ candidateGroups other nodeIds :=
  (reordered.sourceGroups.map (normalizedGroup nodeIds)).mem_iff.symm

include equal

theorem normalize_objects_reordered :
    (normalizeSemanticUnderstanding model).objects = (normalizeSemanticUnderstanding other).objects := by
  rw [normalize_objects, normalize_objects]
  exact take_dedupeBy_congr_of_agree (compareObjects_agree model) objectOrder_separates
    (candidateObjects_reordered reordered) equal.objects

theorem normalize_fields_reordered :
    (normalizeSemanticUnderstanding model).fields = (normalizeSemanticUnderstanding other).fields := by
  have ids : (normalizeSemanticUnderstanding model).objectIds = (normalizeSemanticUnderstanding other).objectIds :=
    congrArg (List.map SemanticObject.id) (normalize_objects_reordered reordered equal)
  rw [normalize_fields, normalize_fields, ← ids]
  exact take_dedupeBy_congr_of_agree (compareFields_agree model _) fieldOrder_separates
    (candidateFields_reordered reordered _) (candidateFields_leading ▸ equal.fields)

theorem normalize_nodeIds_reordered :
    (normalizeSemanticUnderstanding model).nodeIds = (normalizeSemanticUnderstanding other).nodeIds := by
  rw [DatasetSemanticUnderstanding.nodeIds, DatasetSemanticUnderstanding.objectIds,
    normalize_objects_reordered reordered equal, normalize_fields_reordered reordered equal]
  rfl

theorem normalize_relations_reordered :
    (normalizeSemanticUnderstanding model).relations = (normalizeSemanticUnderstanding other).relations := by
  rw [normalize_relations, normalize_relations, ← normalize_nodeIds_reordered reordered equal]
  exact take_dedupeBy_congr_of_agree (compareRelations_agree model _) relationOrder_separates
    (candidateRelations_reordered reordered _) (candidateRelations_leading ▸ equal.relations)

theorem normalize_sourceGroups_reordered : (normalizeSemanticUnderstanding model).sourceGroups =
    (normalizeSemanticUnderstanding other).sourceGroups := by
  rw [normalize_sourceGroups, normalize_sourceGroups, ← normalize_nodeIds_reordered reordered equal]
  apply dedupeBy_congr_of_functional (fun left right => (compareGroups_level left right).mp)
    (candidateGroups_reordered reordered _)
  intro first inside second within same
  obtain ⟨left, leftInside, rfl⟩ := List.mem_map.mp inside
  obtain ⟨right, rightInside, rfl⟩ := List.mem_map.mp within
  rw [← normalizedGroup_leading]
  exact equal.sourceGroups left leftInside right rightInside same

theorem normalize_pipeline_reordered :
    (normalizeSemanticUnderstanding model).pipeline = (normalizeSemanticUnderstanding other).pipeline := by
  rw [normalize_pipeline, normalize_pipeline]
  exact dedupeBy_congr_of_functional (fun left right => (compareStages_level left right).mp)
    (fun stage => reordered.pipeline.mem_iff.symm) equal.pipeline

theorem normalize_truncated_reordered :
    (normalizeSemanticUnderstanding model).truncated = (normalizeSemanticUnderstanding other).truncated := by
  have ids : (normalizeSemanticUnderstanding model).objectIds = (normalizeSemanticUnderstanding other).objectIds :=
    congrArg (List.map SemanticObject.id) (normalize_objects_reordered reordered equal)
  have objects : (rankedObjects model).length = (rankedObjects other).length :=
    length_dedupeBy_congr (candidateObjects_reordered reordered)
  have fields : ∀ objectIds, (rankedFields model objectIds).length = (rankedFields other objectIds).length :=
    fun objectIds => length_dedupeBy_congr (candidateFields_reordered reordered objectIds)
  have relations : ∀ nodeIds, (rankedRelations model nodeIds).length = (rankedRelations other nodeIds).length :=
    fun nodeIds => length_dedupeBy_congr (candidateRelations_reordered reordered nodeIds)
  rw [normalize_truncated, normalize_truncated, ← ids, ← normalize_nodeIds_reordered reordered equal, objects,
    fields, relations]

theorem normalize_reordered : normalizeSemanticUnderstanding other = normalizeSemanticUnderstanding model := by
  have rest := reordered.rest
  have status : other.status = model.status := by rw [rest]
  have dataset : other.dataset = model.dataset := by rw [rest]
  have coverage : other.coverage = model.coverage := by rw [rest]
  have summary : other.summary = model.summary := by rw [rest]
  have generatedAt : other.generatedAt = model.generatedAt := by rw [rest]
  have stale : other.stale = model.stale := by rw [rest]
  have texts : (normalizeSemanticUnderstanding other).summary = (normalizeSemanticUnderstanding model).summary := by
    simp only [normalizeSemanticUnderstanding, summary]
  exact DatasetSemanticUnderstanding.ext rfl rfl status dataset coverage texts
    (normalize_objects_reordered reordered equal).symm (normalize_fields_reordered reordered equal).symm
    (normalize_relations_reordered reordered equal).symm (normalize_sourceGroups_reordered reordered equal).symm
    (normalize_pipeline_reordered reordered equal).symm generatedAt stale
    (normalize_truncated_reordered reordered equal).symm

end Reordered

section Ties

variable {model : DatasetSemanticUnderstanding}
  (free : ∀ other, ListsReordered model other →
    normalizeSemanticUnderstanding other = normalizeSemanticUnderstanding model)

include free

/-- The entry that stands first is the one kept, so two tied entries are both
kept under the same id. -/
theorem tied_objects_equal :
    Unambiguous SemanticObject.id compareObjects maxObjects (candidateObjects model) := by
  apply unambiguous_of_kept (normalize_references model).objects
  intro object inside least leading
  obtain ⟨original, listed, rfl⟩ := List.mem_map.mp inside
  have moved := List.perm_cons_erase listed
  let other := { model with objects := original :: model.objects.erase original }
  have reordered : ListsReordered model other := ⟨moved.symm, .rfl, .rfl, .rfl, .rfl, rfl⟩
  have members : ∀ object, object ∈ candidateObjects model ↔ object ∈ candidateObjects other :=
    candidateObjects_reordered reordered
  rw [← free other reordered]
  exact mem_take_of_first_of_agree (compareObjects_agree model) objectOrder_separates members least leading

theorem tied_fields_equal : Unambiguous SemanticField.id compareFields maxFields
    (candidateFields model (normalizeSemanticUnderstanding model).objectIds) := by
  let objectIds := (normalizeSemanticUnderstanding model).objectIds
  apply unambiguous_of_kept (normalize_references model).fields
  intro field inside least leading
  obtain ⟨mapped, owned⟩ := List.mem_filter.mp inside
  obtain ⟨original, listed, rfl⟩ := List.mem_map.mp mapped
  have moved := List.perm_cons_erase listed
  let other := { model with fields := original :: model.fields.erase original }
  have reordered : ListsReordered model other := ⟨.rfl, moved.symm, .rfl, .rfl, .rfl, rfl⟩
  have members : ∀ field, field ∈ candidateFields model objectIds ↔ field ∈ candidateFields other objectIds :=
    candidateFields_reordered reordered objectIds
  have front : candidateFields other objectIds = normalizedField original ::
      ((model.fields.erase original).map normalizedField).filter fun field =>
        decide (field.objectId ∈ objectIds) := by
    rw [candidateFields, List.map_cons]
    exact List.filter_cons_of_pos owned
  have fields : (normalizeSemanticUnderstanding other).fields = (rankedFields other objectIds).take maxFields :=
    normalize_fields other
  rw [front] at members
  rw [← free other reordered, fields, rankedFields, front]
  exact mem_take_of_first_of_agree (compareFields_agree model objectIds) fieldOrder_separates members least leading

theorem tied_relations_equal : Unambiguous SemanticRelation.id compareRelations maxRelations
    (candidateRelations model (normalizeSemanticUnderstanding model).nodeIds) := by
  let nodeIds := (normalizeSemanticUnderstanding model).nodeIds
  apply unambiguous_of_kept (normalize_references model).relations
  intro relation inside least leading
  obtain ⟨mapped, joined⟩ := List.mem_filter.mp inside
  obtain ⟨original, listed, rfl⟩ := List.mem_map.mp mapped
  have moved := List.perm_cons_erase listed
  let other := { model with relations := original :: model.relations.erase original }
  have reordered : ListsReordered model other := ⟨.rfl, .rfl, moved.symm, .rfl, .rfl, rfl⟩
  have members : ∀ relation, relation ∈ candidateRelations model nodeIds ↔
      relation ∈ candidateRelations other nodeIds := candidateRelations_reordered reordered nodeIds
  have front : candidateRelations other nodeIds = normalizedRelation original ::
      ((model.relations.erase original).map normalizedRelation).filter (joinsNodes nodeIds) := by
    rw [candidateRelations, List.map_cons]
    exact List.filter_cons_of_pos joined
  have relations : (normalizeSemanticUnderstanding other).relations =
      (rankedRelations other nodeIds).take maxRelations := normalize_relations other
  rw [front] at members
  rw [← free other reordered, relations, rankedRelations, front]
  exact mem_take_of_first_of_agree (compareRelations_agree model nodeIds) relationOrder_separates members least
    leading

theorem tied_sourceGroups_equal : ∀ first ∈ model.sourceGroups, ∀ second ∈ model.sourceGroups,
    first.id = second.id →
      normalizedGroup (normalizeSemanticUnderstanding model).nodeIds first =
        normalizedGroup (normalizeSemanticUnderstanding model).nodeIds second := by
  let nodeIds := (normalizeSemanticUnderstanding model).nodeIds
  intro first firstInside second secondInside sameId
  have kept : ∀ group ∈ model.sourceGroups,
      normalizedGroup nodeIds group ∈ (normalizeSemanticUnderstanding model).sourceGroups := by
    intro group inside
    have moved := List.perm_cons_erase inside
    let other := { model with sourceGroups := group :: model.sourceGroups.erase group }
    have reordered : ListsReordered model other := ⟨.rfl, .rfl, .rfl, moved.symm, .rfl, rfl⟩
    have groups : (normalizeSemanticUnderstanding other).sourceGroups =
        dedupeBy SemanticSourceGroup.id (compareOn SemanticSourceGroup.id) (candidateGroups other nodeIds) :=
      normalize_sourceGroups other
    rw [← free other reordered, groups]
    apply mem_dedupeBy_of_first
    intro later _ same less
    rw [(compareGroups_level later _).mpr same] at less
    cases less
  have nodup : ((normalizeSemanticUnderstanding model).sourceGroups.map SemanticSourceGroup.id).Nodup := by
    rw [normalize_sourceGroups]
    exact dedupeBy_keys_nodup _ _ _
  exact List.inj_on_of_nodup_map nodup (kept first firstInside) (kept second secondInside) sameId

theorem tied_stages_equal : ∀ first ∈ model.pipeline, ∀ second ∈ model.pipeline, first.id = second.id →
    first = second := by
  intro first firstInside second secondInside sameId
  have kept : ∀ stage ∈ model.pipeline, stage ∈ (normalizeSemanticUnderstanding model).pipeline := by
    intro stage inside
    have moved := List.perm_cons_erase inside
    let other := { model with pipeline := stage :: model.pipeline.erase stage }
    have reordered : ListsReordered model other := ⟨.rfl, .rfl, .rfl, .rfl, moved.symm, rfl⟩
    rw [← free other reordered, normalize_pipeline]
    apply mem_dedupeBy_of_first
    intro later _ same less
    rw [(compareStages_level later _).mpr same] at less
    cases less
  have nodup : ((normalizeSemanticUnderstanding model).pipeline.map SemanticPipelineStage.id).Nodup := by
    rw [normalize_pipeline]
    exact dedupeBy_keys_nodup _ _ _
  exact List.inj_on_of_nodup_map nodup (kept first firstInside) (kept second secondInside) sameId

theorem tied_entries_equal : TiesEqual model where
  objects := tied_objects_equal free
  fields := candidateFields_leading ▸ tied_fields_equal free
  relations := candidateRelations_leading ▸ tied_relations_equal free
  sourceGroups := normalizedGroup_leading ▸ tied_sourceGroups_equal free
  pipeline := tied_stages_equal free

end Ties

/-- The order of the lists has no effect exactly if entries that only their
place tells apart are equal. -/
theorem normalize_order_free_iff (model : DatasetSemanticUnderstanding) :
    (∀ other, ListsReordered model other →
      normalizeSemanticUnderstanding other = normalizeSemanticUnderstanding model) ↔ TiesEqual model :=
  ⟨fun free => tied_entries_equal free, fun equal _ reordered => normalize_reordered reordered equal⟩

/-- Two descriptions of one object, in either order. -/
def describedModel (first second : String) : DatasetSemanticUnderstanding :=
  { sampleModel with objects := [sampleObject "lease" first, sampleObject "lease" second] }

/-- The description that stands first is kept. -/
theorem normalize_order_matters :
    ListsReordered (describedModel "contracts" "payments") (describedModel "payments" "contracts") ∧
      normalizeSemanticUnderstanding (describedModel "payments" "contracts") ≠
        normalizeSemanticUnderstanding (describedModel "contracts" "payments") := by
  refine ⟨⟨.swap _ _ [], .rfl, .rfl, .rfl, .rfl, rfl⟩, ?_⟩
  intro same
  have descriptions := congrArg (fun model => model.objects.map SemanticObject.description) same
  revert descriptions
  decide +kernel

end DataMax.SemanticUnderstanding
