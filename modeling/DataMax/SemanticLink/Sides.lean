import DataMax.SemanticGraph.InputOrder
import DataMax.SemanticGraph.Reversal
import DataMax.SemanticLink.Audit

/-! The link graph of two snapshots when the left one and the right one change places. -/

namespace DataMax.SemanticLink
open Domain Json Library SemanticGraph SemanticLabel SemanticUnderstanding

/-- The same two snapshots, each on the other side. -/
def DatasetSemanticLinkMatchInput.swapped (input : DatasetSemanticLinkMatchInput) : DatasetSemanticLinkMatchInput :=
  ⟨input.right, input.left⟩

theorem DatasetSemanticLinkMatchInput.swapped_left (input : DatasetSemanticLinkMatchInput) :
    input.swapped.left = input.right := rfl

theorem DatasetSemanticLinkMatchInput.swapped_right (input : DatasetSemanticLinkMatchInput) :
    input.swapped.right = input.left := rfl

section Input

variable {tables : TextTables} {parseUuid : String → Option UuidBytes} {digest : String → List UInt8}
  {input : DatasetSemanticLinkMatchInput} {datasetId : UuidBytes}

theorem sharedDocumentIdentities_comm (left right : DatasetSemanticUnderstanding) :
    sharedDocumentIdentities parseUuid left right = sharedDocumentIdentities parseUuid right left := by
  have sorted : ∀ snapshot, (semanticDocumentSourceIds parseUuid snapshot).Pairwise
      fun first second => compare first second = .lt := fun snapshot => distinctBy_sorted id _
  refine eq_of_strictly_sorted ?_ ((sorted left).sublist List.filter_sublist)
    ((sorted right).sublist List.filter_sublist) fun identity => ?_
  · intro first second less more
    simp [Std.OrientedCmp.gt_iff_lt.mpr less] at more
  · simp [sharedDocumentIdentities, and_comm]

theorem snapshotsAreTemporallyComplementary_comm (left right : List MallBusinessConcept) :
    snapshotsAreTemporallyComplementary left right = snapshotsAreTemporallyComplementary right left := by
  rw [snapshotsAreTemporallyComplementary, snapshotsAreTemporallyComplementary, Bool.and_comm (left.contains .time),
    Bool.or_comm]

theorem appendSnapshotSemanticEndpoints_dataset (side : IdentifiedUnderstanding) :
    ∀ endpoint ∈ (appendSnapshotSemanticEndpoints tables parseUuid side).endpoints,
      endpoint.datasetId = side.datasetId := by
  intro endpoint listed
  simp only [appendSnapshotSemanticEndpoints, List.mem_cons, List.mem_append, List.mem_map] at listed
  rcases listed with rfl | (⟨object, _, rfl⟩ | ⟨field, _, rfl⟩) | ⟨concept, _, rfl⟩ <;> rfl

/-- The endpoints of a dataset come in one order, whichever side it is on. -/
theorem linkMatchInput_endpoints_of (apart : input.left.datasetId ≠ input.right.datasetId) :
    (linkMatchInput tables parseUuid digest input).endpoints.filter (fun endpoint => endpoint.datasetId = datasetId) =
      (linkMatchInput tables parseUuid digest input.swapped).endpoints.filter
        fun endpoint => endpoint.datasetId = datasetId := by
  have foreign : ∀ side : IdentifiedUnderstanding, side.datasetId ≠ datasetId →
      (appendSnapshotSemanticEndpoints tables parseUuid side).endpoints.filter
        (fun endpoint => endpoint.datasetId = datasetId) = [] := by
    intro side other
    rw [List.filter_eq_nil_iff]
    intro endpoint listed
    simpa [appendSnapshotSemanticEndpoints_dataset side endpoint listed] using other
  simp only [linkMatchInput, DatasetSemanticLinkMatchInput.swapped, List.filter_append, List.filter_flatMap,
    sharedDocumentIdentities_comm input.right.snapshot input.left.snapshot]
  congr 1
  · by_cases left : input.left.datasetId = datasetId
    · rw [foreign input.right fun right => apart (left.trans right.symm), List.append_nil, List.nil_append]
    · rw [foreign input.left left, List.append_nil, List.nil_append]
  · apply List.flatMap_congr
    intro identity _
    by_cases left : input.left.datasetId = datasetId
    · have right : input.right.datasetId ≠ datasetId := fun right => apart (left.trans right.symm)
      simp [documentEndpoint, left, right]
    · simp [documentEndpoint, List.filter_cons, left]

theorem boundedDatasets_swapped (apart : input.left.datasetId ≠ input.right.datasetId) :
    boundedDatasets (linkMatchInput tables parseUuid digest input) =
      boundedDatasets (linkMatchInput tables parseUuid digest input.swapped) := by
  cases order : compare input.right.datasetId input.left.datasetId with
  | eq => exact False.elim (apart (Std.LawfulEqCmp.eq_of_compare order).symm)
  | lt =>
    have back : compare input.left.datasetId input.right.datasetId = .gt := Std.OrientedCmp.gt_iff_lt.mpr order
    simp [boundedDatasets, uniqueDatasets, linkMatchInput, SortedMap.keyed, SortedMap.ofList, SortedMap.insert,
      SortedMap.insertEntry, order, matchDataset, back, SortedMap.empty, SortedMap.get?, SortedMap.findEntry,
      SortedMap.erase, SortedMap.eraseEntry, SortedMap.values, absoluteMaxDatasets,
      DatasetSemanticLinkMatchInput.swapped]
  | gt =>
    have back : compare input.left.datasetId input.right.datasetId = .lt := Std.OrientedCmp.gt_iff_lt.mp order
    simp [boundedDatasets, uniqueDatasets, linkMatchInput, SortedMap.keyed, SortedMap.ofList, SortedMap.insert,
      SortedMap.insertEntry, order, matchDataset, back, SortedMap.empty, SortedMap.get?, SortedMap.findEntry,
      SortedMap.erase, SortedMap.eraseEntry, SortedMap.values, absoluteMaxDatasets,
      DatasetSemanticLinkMatchInput.swapped]

theorem rootDatasetId_swapped (apart : input.left.datasetId ≠ input.right.datasetId) :
    (linkMatchInput tables parseUuid digest input).rootDatasetId =
      (linkMatchInput tables parseUuid digest input.swapped).rootDatasetId := by
  have root := boundedDatasets_root (linkMatchInput tables parseUuid digest input)
  rw [boundedDatasets_swapped apart, boundedDatasets_root] at root
  exact (Option.some.inj root).symm

/-- The matcher is left with the same endpoints in the same order. -/
theorem uniqueEndpoints_swapped (apart : input.left.datasetId ≠ input.right.datasetId) :
    uniqueEndpoints (linkMatchInput tables parseUuid digest input) =
      uniqueEndpoints (linkMatchInput tables parseUuid digest input.swapped) := by
  have included : isIncluded (linkMatchInput tables parseUuid digest input) =
      isIncluded (linkMatchInput tables parseUuid digest input.swapped) := by
    funext endpoint
    rw [isIncluded, isIncluded, boundedDatasets_swapped apart]
  rw [uniqueEndpoints, uniqueEndpoints, included]
  refine congrArg _ (sortBy_eq_of_classes fun item => ?_)
  -- Endpoints that compare as equal are of one dataset.
  have inside : ∀ endpoints : List CrossDatasetSemanticEndpointInput,
      (endpoints.filter (isIncluded (linkMatchInput tables parseUuid digest input.swapped))).filter
          (fun endpoint => endpointOrder item endpoint == .eq) =
        ((endpoints.filter fun endpoint => endpoint.datasetId = item.datasetId).filter
          (isIncluded (linkMatchInput tables parseUuid digest input.swapped))).filter
            fun endpoint => endpointOrder item endpoint == .eq := by
    intro endpoints
    simp only [List.filter_filter]
    apply List.filter_congr
    intro endpoint _
    cases level : endpointOrder item endpoint == .eq with
    | false => simp
    | true =>
      have equal := eq_of_beq level
      rw [endpointOrder, Ordering.then_eq_eq] at equal
      simp [Std.LawfulEqCmp.eq_of_compare equal.1]
  rw [inside, linkMatchInput_endpoints_of apart, ← inside]


variable (tables parseUuid input) in
/-- What the snapshots state about themselves. -/
def innerRelations : List CrossDatasetExplicitRelationInput :=
  (appendSnapshotSemanticEndpoints tables parseUuid input.left).explicitRelations ++
    (appendSnapshotSemanticEndpoints tables parseUuid input.right).explicitRelations

variable (tables parseUuid input) in
def areComplementary : Bool :=
  snapshotsAreTemporallyComplementary (appendSnapshotSemanticEndpoints tables parseUuid input.left).concepts
    (appendSnapshotSemanticEndpoints tables parseUuid input.right).concepts

variable (input) in
def complementarityRelation : CrossDatasetExplicitRelationInput :=
  ⟨input.left.datasetId, datasetRootLocalNodeId, input.right.datasetId, datasetRootLocalNodeId,
    .temporalComplementarity, .inferred⟩

theorem linkMatchInput_explicitRelations : (linkMatchInput tables parseUuid digest input).explicitRelations =
    innerRelations tables parseUuid input ++
      if areComplementary tables parseUuid input then [complementarityRelation input] else [] := rfl

theorem innerRelation_observed {datasetId : UuidBytes} {source target : String} {kind : CrossDatasetExplicitRelationKind}
    (other : kind ≠ .temporalComplementarity) : IsObserved (innerRelation datasetId source target kind) := ⟨rfl, other⟩

theorem innerRelations_observed : ∀ relation ∈ innerRelations tables parseUuid input, IsObserved relation := by
  have side : ∀ side : IdentifiedUnderstanding,
      ∀ relation ∈ (appendSnapshotSemanticEndpoints tables parseUuid side).explicitRelations, IsObserved relation := by
    intro side relation listed
    simp only [appendSnapshotSemanticEndpoints, fieldRelations, List.mem_append, List.mem_map, List.mem_flatMap] at listed
    rcases listed with ⟨object, _, rfl⟩ | ⟨field, _, contained | ⟨concept, _, rfl⟩⟩
    · exact innerRelation_observed (by decide)
    · split at contained
      · obtain rfl := List.mem_singleton.mp contained
        exact innerRelation_observed (by decide)
      · cases contained
    · exact innerRelation_observed (by decide)
  intro relation listed
  rcases List.mem_append.mp listed with left | right
  · exact side _ relation left
  · exact side _ relation right

theorem areComplementary_swapped :
    areComplementary tables parseUuid input.swapped = areComplementary tables parseUuid input :=
  snapshotsAreTemporallyComplementary_comm _ _

theorem matched_swapped (apart : input.left.datasetId ≠ input.right.datasetId) :
    matchCrossDatasetSemanticGraph digest (linkMatchInput tables parseUuid digest input.swapped) =
      graphOver digest { linkMatchInput tables parseUuid digest input with
          explicitRelations := innerRelations tables parseUuid input ++
            if areComplementary tables parseUuid input then [(complementarityRelation input).reversed] else [] }
        (boundedEndpoints (linkMatchInput tables parseUuid digest input)).get
        ((uniqueEndpoints (linkMatchInput tables parseUuid digest input)).length - absoluteMaxEndpoints) := by
  rw [matchCrossDatasetSemanticGraph, boundedEndpoints, boundedEndpoints, ← uniqueEndpoints_swapped apart]
  refine graphOver_congr _ (.ofSameView fun index => ⟨rfl, rfl, rfl, rfl, fun _ => Iff.rfl⟩) ?_
    (boundedDatasets_swapped apart).symm (rootDatasetId_swapped apart).symm rfl rfl (Bool.or_comm _ _)
  intro relation
  rw [linkMatchInput_explicitRelations, areComplementary_swapped]
  simp only [innerRelations, List.mem_append]
  exact or_congr_left or_comm

theorem graph_swapped_of_apart (alone : areComplementary tables parseUuid input = false)
    (apart : input.left.datasetId ≠ input.right.datasetId) :
    matchCrossDatasetSemanticGraph digest (linkMatchInput tables parseUuid digest input.swapped) =
      matchCrossDatasetSemanticGraph digest (linkMatchInput tables parseUuid digest input) := by
  rw [matched_swapped apart, matchCrossDatasetSemanticGraph]
  refine graphOver_congr _ (.ofSameView fun index => ⟨rfl, rfl, rfl, rfl, fun _ => Iff.rfl⟩) ?_ rfl rfl rfl rfl rfl
  intro relation
  rw [linkMatchInput_explicitRelations]
  simp [alone]

theorem turnedGraph_of_apart (alone : areComplementary tables parseUuid input = false) :
    turnedGraph digest (matchCrossDatasetSemanticGraph digest (linkMatchInput tables parseUuid digest input)) =
      matchCrossDatasetSemanticGraph digest (linkMatchInput tables parseUuid digest input) := by
  have same : (matchCrossDatasetSemanticGraph digest (linkMatchInput tables parseUuid digest input)).edges.map
      (turnedEdge digest) =
        (matchCrossDatasetSemanticGraph digest (linkMatchInput tables parseUuid digest input)).edges := by
    refine (List.map_congr_left fun edge inside => ?_).trans (List.map_id _)
    have candidate := (of_mem_retainedEdges (List.mem_of_mem_take inside)).1
    rw [linkMatchInput_explicitRelations, if_neg (by simp [alone]), List.append_nil] at candidate
    exact if_neg (edgeCandidates_observed innerRelations_observed candidate).2
  rw [turnedGraph, same]

/-- Only the edge of complementarity tells which snapshot is on which side. -/
theorem graph_swapped (apart : input.left.datasetId ≠ input.right.datasetId) :
    matchCrossDatasetSemanticGraph digest (linkMatchInput tables parseUuid digest input.swapped) =
      turnedGraph digest (matchCrossDatasetSemanticGraph digest (linkMatchInput tables parseUuid digest input)) := by
  cases complementary : areComplementary tables parseUuid input with
  | false => rw [turnedGraph_of_apart complementary, graph_swapped_of_apart complementary apart]
  | true =>
    rw [matched_swapped apart, matchCrossDatasetSemanticGraph, complementary, if_pos rfl]
    refine graphOver_reversed innerRelations_observed rfl ?_ rfl _
    rw [linkMatchInput_explicitRelations, complementary, if_pos rfl]

end Input

section Outcome

variable {tables : TextTables} {parseUuid : String → Option UuidBytes} {digest : String → List UInt8}
  {floatText : UInt64 → String} {input : DatasetSemanticLinkMatchInput} {text : List Char}

theorem silent_relationId (parts : List String) : IsSilent (semanticId digest "cross_relation" parts).toList :=
  silent_id (quietId_semanticId (graphWords_quiet _ (by decide)) parts)

/-- Turned around, an edge quotes the same texts that the audit minds. -/
theorem quoted_turnedEdge (loud : ¬ IsSilent text) {edge : DatasetSemanticGraphEdge} (own : IsSilent edge.id.toList) :
    .quoted text ∈ tokens floatText (edgeValue (turnedEdge digest edge)) ↔
      .quoted text ∈ tokens floatText (edgeValue edge) := by
  have other : ∀ id : String, IsSilent id.toList → text ≠ id.toList := fun id silent same => loud (same ▸ silent)
  rw [turnedEdge]
  split
  · rw [edgeValue, edgeValue, quoted_json (by simp), quoted_json (by simp)]
    simp only [List.mem_cons, List.not_mem_nil, or_false, exists_eq_or_imp, exists_eq_left, quoted_string,
      other _ own, other _ (silent_relationId _), reversedEdge]
    have crossed : ∀ first second rest source target : Prop,
        (first ∨ target) ∨ (second ∨ source) ∨ rest ↔ (first ∨ source) ∨ (second ∨ target) ∨ rest := by
      intro first second rest source target
      rw [← or_assoc, or_comm (a := second), or_or_or_comm, or_comm (a := target), or_assoc]
    exact or_congr_right (crossed _ _ _ _ _)
  · rfl

theorem matched_ids_silent (given : CrossDatasetSemanticMatchInput) :
    ∀ edge ∈ (matchCrossDatasetSemanticGraph digest given).edges, IsSilent edge.id.toList := by
  intro edge inside
  obtain ⟨stated, isStated, _, rfl⟩ := of_mem_graph_edges inside
  have named : (mergedEdge ((graphStatedEdges digest given).filter fun other =>
      edgeKey other = edgeKey stated) stated).id = stated.id := rfl
  rw [named, isStated.id_eq]
  exact silent_relationId _

theorem turnedGraph_isSafe (floats : ∀ bits, ∀ char ∈ (floatText bits).toList, isNumberChar char)
    {graph : DatasetSemanticGraphV1} (silent : ∀ edge ∈ graph.edges, IsSilent edge.id.toList) :
    datasetSemanticLinkManifestIsSafe floatText (graphValue (turnedGraph digest graph)) =
      datasetSemanticLinkManifestIsSafe floatText (graphValue graph) := by
  rw [Bool.eq_iff_iff, manifestIsSafe_iff, manifestIsSafe_iff, ← Bool.not_eq_true, ← Bool.not_eq_true,
    flagged_manifest floats, flagged_manifest floats]
  refine not_congr (exists_congr fun text => and_congr_left fun loud => ?_)
  have edges : .quoted text ∈ tokens floatText (.array ((turnedGraph digest graph).edges.map edgeValue)) ↔
      .quoted text ∈ tokens floatText (.array (graph.edges.map edgeValue)) := by
    simp only [turnedGraph, quoted_array, List.mem_map, exists_exists_and_eq_and]
    exact exists_congr fun edge => and_congr_right fun inside => quoted_turnedEdge loud (silent edge inside)
  rw [graphValue, graphValue, quoted_json (by simp), quoted_json (by simp)]
  simp only [List.mem_cons, List.not_mem_nil, or_false, exists_eq_or_imp, exists_eq_left, edges]
  rfl

end Outcome


section Directed

variable {tables : TextTables} {parseUuid : String → Option UuidBytes} {digest : String → List UInt8}
  {input : DatasetSemanticLinkMatchInput}

theorem rootEndpoint_listed (side : IdentifiedUnderstanding) (own : side = input.left ∨ side = input.right) :
    rootEndpoint tables parseUuid side ∈ (linkMatchInput tables parseUuid digest input).endpoints := by
  rcases own with rfl | rfl
  · exact List.mem_append_left _ (List.mem_append_left _ List.mem_cons_self)
  · exact List.mem_append_left _ (List.mem_append_right _ List.mem_cons_self)

theorem rootEndpoint_included (apart : input.left.datasetId ≠ input.right.datasetId) (side : IdentifiedUnderstanding)
    (own : side = input.left ∨ side = input.right) :
    isIncluded (linkMatchInput tables parseUuid digest input) (rootEndpoint tables parseUuid side) = true := by
  have listed : side.datasetId ∈ (boundedDatasets (linkMatchInput tables parseUuid digest input)).1.map (·.id) := by
    rw [((boundedDatasets_pair tables parseUuid digest apart).map _).mem_iff]
    rcases own with rfl | rfl <;> simp [matchDataset]
  have named : trim datasetRootLocalNodeId ≠ "" := by decide
  simp only [isIncluded, rootEndpoint, listed, named, decide_true, ne_eq, not_false_eq_true, Bool.and_self]

/-- The endpoint of a dataset itself is kept. -/
theorem rootEndpoint_kept (apart : input.left.datasetId ≠ input.right.datasetId) (side : IdentifiedUnderstanding)
    (own : side = input.left ∨ side = input.right) :
    ∃ index, SemanticGraph.endpointKey ((uniqueEndpoints (linkMatchInput tables parseUuid digest input)).get index) =
        (side.datasetId, datasetRootLocalNodeId) ∧
      ∀ key, key ∉ identityKeys (uniqueEndpoints (linkMatchInput tables parseUuid digest input)).get index := by
  have listed := @rootEndpoint_listed tables parseUuid digest _ side own
  have included := @rootEndpoint_included tables parseUuid digest _ apart side own
  have rootKey : SemanticGraph.endpointKey (rootEndpoint tables parseUuid side) = (side.datasetId, datasetRootLocalNodeId) := by
    have named : trim datasetRootLocalNodeId = datasetRootLocalNodeId := by decide
    rw [SemanticGraph.endpointKey, rootEndpoint, named]
  obtain ⟨kept, inside, same⟩ := List.mem_map.mp (mem_uniqueEndpoints_keys.mpr ⟨_, listed, included, rootKey⟩)
  obtain ⟨index, rfl⟩ := List.get_of_mem inside
  refine ⟨index, same, fun key given => ?_⟩
  have least := (mem_uniqueEndpoints inside).2.2 _ listed included (rootKey.trans same.symm)
  obtain ⟨identity, _, keyed⟩ := mem_identityKeys.mp given
  cases kind : ((uniqueEndpoints (linkMatchInput tables parseUuid digest input)).get index).kind with
  | dataset =>
    rw [kind] at keyed
    cases keyed
  | document | object | field | concept | structureNode =>
    have own : (rootEndpoint tables parseUuid side).kind = .dataset := rfl
    rw [kind, own] at least
    revert least
    decide

theorem complementarityEdge_stated (collisionFree : Function.Injective digest)
    (apart : input.left.datasetId ≠ input.right.datasetId) :
    ∃ edge, explicitEdge digest (uniqueEndpoints (linkMatchInput tables parseUuid digest input)).get
      (complementarityRelation input) = some edge := by
  obtain ⟨source, sourceKey, alone⟩ := @rootEndpoint_kept tables parseUuid digest _ apart input.left (.inl rfl)
  obtain ⟨target, targetKey, _⟩ := @rootEndpoint_kept tables parseUuid digest _ apart input.right (.inr rfl)
  have named : trim datasetRootLocalNodeId = datasetRootLocalNodeId := by decide
  have sourceFound := get?_endpointLookup uniqueEndpoints_get_distinct source
  have targetFound := get?_endpointLookup uniqueEndpoints_get_distinct target
  refine @explicitEdge_isSome _ _ _ _ source target ?_ ?_ ?_
  · rw [complementarityRelation, named, ← sourceKey]
    exact sourceFound
  · rw [complementarityRelation, named, ← targetKey]
    exact targetFound
  · intro same
    rcases chain_steps ((endpointNodeId_eq_iff collisionFree uniqueEndpoints_get_distinct).mp same) with
      rfl | ⟨⟨_, key, given, _⟩, _⟩
    · exact apart (congrArg Prod.fst (sourceKey.symm.trans targetKey))
    · exact alone key given

/-- Within the limits the edge of complementarity is in the graph. -/
theorem complementarityEdge_listed (collisionFree : Function.Injective digest)
    (apart : input.left.datasetId ≠ input.right.datasetId) (complementary : areComplementary tables parseUuid input)
    (fits : FitsLimits (linkMatchInput tables parseUuid digest input)) :
    ∃ edge ∈ (matchCrossDatasetSemanticGraph digest (linkMatchInput tables parseUuid digest input)).edges,
      edge.sourceId ≠ edge.targetId ∧ edge.relationType = temporalComplementarityType := by
  obtain ⟨edge, stated⟩ := @complementarityEdge_stated tables parseUuid digest _ collisionFree apart
  rw [← boundedEndpoints_of_fits fits] at stated
  have isStated := explicitEdge_isStated stated
  obtain ⟨source, sourceId⟩ := isStated.source
  obtain ⟨target, targetId⟩ := isStated.target
  refine ⟨edge, ?_, isStated.joins, (explicitEdge_inferred stated rfl).2⟩
  have relations : (linkMatchInput tables parseUuid digest input).explicitRelations =
      innerRelations tables parseUuid input ++ [complementarityRelation input] := by
    rw [linkMatchInput_explicitRelations, if_pos complementary]
  have all : (allNodes digest (boundedEndpoints (linkMatchInput tables parseUuid digest input)).get).take
      (min (linkMatchInput tables parseUuid digest input).limits.maxNodes absoluteMaxEndpoints) =
        allNodes digest (boundedEndpoints (linkMatchInput tables parseUuid digest input)).get := by
    refine List.take_of_length_le (allNodes_length_le.trans ?_)
    rw [boundedEndpoints_of_fits fits]
    exact (length_uniqueEndpoints_le _).trans fits.nodes
  have listed : ∀ index, endpointNodeId digest (boundedEndpoints (linkMatchInput tables parseUuid digest input)).get index ∈
      (allNodes digest (boundedEndpoints (linkMatchInput tables parseUuid digest input)).get).map (·.id) := by
    intro index
    obtain ⟨node, inside, same⟩ := @exists_mem_allNodes digest _ _ index
    exact List.mem_map.mpr ⟨node, inside, same⟩
  change edge ∈ (retainedEdges digest _ _ false _).take _
  rw [List.take_of_length_le (length_retainedEdges_le.trans fits.edges), all, relations,
    retainedEdges_append innerRelations_observed rfl, stated]
  refine List.mem_append_right _ (List.mem_filter.mpr ⟨List.mem_singleton_self _, ?_⟩)
  rw [sourceId, targetId]
  simp [listed]

/-- Within the limits the graphs of complementary snapshots tell the sides apart. -/
theorem graph_swapped_ne (collisionFree : Function.Injective digest)
    (apart : input.left.datasetId ≠ input.right.datasetId) (complementary : areComplementary tables parseUuid input)
    (fits : FitsLimits (linkMatchInput tables parseUuid digest input)) :
    matchCrossDatasetSemanticGraph digest (linkMatchInput tables parseUuid digest input.swapped) ≠
      matchCrossDatasetSemanticGraph digest (linkMatchInput tables parseUuid digest input) := by
  obtain ⟨edge, listed, joins, relationType⟩ := complementarityEdge_listed collisionFree apart complementary fits
  intro same
  rw [graph_swapped apart] at same
  have edges := congrArg DatasetSemanticGraphV1.edges same
  rw [turnedGraph] at edges
  dsimp only at edges
  have fixed := List.map_inj_left.mp (edges.trans (List.map_id _).symm) edge listed
  rw [turnedEdge, if_pos relationType] at fixed
  exact joins (congrArg DatasetSemanticGraphEdge.targetId fixed)

end Directed

section Swapped

variable (tables : TextTables) (parseUuid : String → Option UuidBytes) (digest : String → List UInt8)
  {floatText : UInt64 → String}

/-- With the snapshots on the other sides the edge of temporal complementarity points the
other way, and nothing else changes. -/
theorem link_graph_swapped (floats : ∀ bits, ∀ char ∈ (floatText bits).toList, isNumberChar char)
    (input : DatasetSemanticLinkMatchInput) :
    buildDatasetSemanticLinkGraph tables parseUuid digest floatText input.swapped =
        (buildDatasetSemanticLinkGraph tables parseUuid digest floatText input).map (turnedGraph digest) ∧
      (areComplementary tables parseUuid input = false →
        buildDatasetSemanticLinkGraph tables parseUuid digest floatText input.swapped =
          buildDatasetSemanticLinkGraph tables parseUuid digest floatText input) := by
  rw [buildDatasetSemanticLinkGraph, buildDatasetSemanticLinkGraph, input.swapped_left, input.swapped_right]
  by_cases same : input.left.datasetId = input.right.datasetId
  · rw [if_pos same, if_pos same.symm]
    exact ⟨rfl, fun _ => rfl⟩
  · rw [if_neg same, if_neg (Ne.symm same)]
    by_cases unready : input.left.snapshot.status ≠ "ready" ∨ input.right.snapshot.status ≠ "ready"
    · rw [if_pos unready, if_pos unready.symm]
      exact ⟨rfl, fun _ => rfl⟩
    · rw [if_neg unready, if_neg (mt Or.symm unready)]
      constructor
      · rw [graph_swapped same]
        simp only [turnedGraph_isSafe floats (matched_ids_silent _)]
        split <;> rfl
      · intro alone
        rw [graph_swapped_of_apart alone same]

end Swapped

section Delivery

def deliveryField (name : String) : SemanticField where
  id := "field:" ++ hex [1]
  objectId := ""
  label := ""
  technicalName := name
  semanticRole := "unknown"
  valueType := "text"
  nonEmptyCount := 1
  distinctCount := 1
  examples := []
  status := .inferred
  labelSource := "column_name"
  confidence := .ofRat (1 / 2)
  evidenceRefs := []

def deliveryUnderstanding (number : UInt8) (field : String) : IdentifiedUnderstanding where
  datasetId := (titledUnderstanding number "客流").datasetId
  identified := rfl
  snapshot := { (titledUnderstanding number "客流").snapshot with fields := [deliveryField field] }

/-- The traffic and the visitor profile of one mall. -/
def deliveryInput : DatasetSemanticLinkMatchInput :=
  ⟨deliveryUnderstanding 1 "date_traffic_in_visitors", deliveryUnderstanding 2 "date_gender_group_type"⟩

theorem deliveryUnderstanding_stable (number : UInt8) (field : String) :
    HasStableIds (deliveryUnderstanding number field).snapshot where
  objects _ inside := False.elim (List.not_mem_nil inside)
  fields _ inside := by
    obtain rfl := List.mem_singleton.mp inside
    exact ⟨[1], rfl⟩

theorem link_graph_swapped_delivery :
    (buildDatasetSemanticLinkGraph plainTables (fun _ => none) shortDigest (fun _ => "1.0") deliveryInput.swapped =
      (buildDatasetSemanticLinkGraph plainTables (fun _ => none) shortDigest (fun _ => "1.0") deliveryInput).map
        (turnedGraph shortDigest)) ∧
      buildDatasetSemanticLinkGraph plainTables (fun _ => none) shortDigest (fun _ => "1.0")
          (titledInput "Sales Orders" "门店客流").swapped =
        buildDatasetSemanticLinkGraph plainTables (fun _ => none) shortDigest (fun _ => "1.0")
          (titledInput "Sales Orders" "门店客流") := by
  have alone : areComplementary plainTables (fun _ => none) (titledInput "Sales Orders" "门店客流") = false := by
    rfl
  exact ⟨(link_graph_swapped _ _ _ oneText_number deliveryInput).1,
    (link_graph_swapped _ _ _ oneText_number (titledInput "Sales Orders" "门店客流")).2 alone⟩

/-- The traffic is compared with the profile, or the profile with the traffic. -/
theorem link_graph_directed_delivery :
    deliveryInput.left.datasetId ≠ deliveryInput.right.datasetId ∧
      (deliveryInput.left.snapshot.status = "ready" ∧ deliveryInput.right.snapshot.status = "ready") ∧
      buildDatasetSemanticLinkGraph plainTables (fun _ => none) shortDigest (fun _ => "1.0") deliveryInput.swapped ≠
        buildDatasetSemanticLinkGraph plainTables (fun _ => none) shortDigest (fun _ => "1.0") deliveryInput := by
  have apart : deliveryInput.left.datasetId ≠ deliveryInput.right.datasetId := titledInput_apart "" ""
  have facts : areComplementary plainTables (fun _ => none) deliveryInput = true ∧
      (linkMatchInput plainTables (fun _ => none) shortDigest deliveryInput).endpoints.length ≤ 240 ∧
      (linkMatchInput plainTables (fun _ => none) shortDigest deliveryInput).explicitRelations.length ≤ 360 := by
    decide +kernel
  have differ := graph_swapped_ne shortDigest_injective apart facts.1 ⟨facts.2.1, facts.2.2⟩
  have title : isExamplesTitle plainTables (fun _ => none) "客流" = false := isExamplesTitle_eq_false (by decide)
  have safe : datasetSemanticLinkManifestIsSafe (fun _ => "1.0") (graphValue (matchCrossDatasetSemanticGraph
      shortDigest (linkMatchInput plainTables (fun _ => none) shortDigest deliveryInput))) = true :=
    (graph_isSafe_titles plainTables_ascii oneText_number apart (deliveryUnderstanding_stable _ _)
      (deliveryUnderstanding_stable _ _)).mpr ⟨title, title⟩
  refine ⟨apart, ⟨rfl, rfl⟩, fun same => differ ?_⟩
  have built {input : DatasetSemanticLinkMatchInput} (apart : input.left.datasetId ≠ input.right.datasetId)
      (ready : input.left.snapshot.status = "ready" ∧ input.right.snapshot.status = "ready")
      (safe : datasetSemanticLinkManifestIsSafe (fun _ => "1.0") (graphValue (matchCrossDatasetSemanticGraph
        shortDigest (linkMatchInput plainTables (fun _ => none) shortDigest input))) = true) :
      buildDatasetSemanticLinkGraph plainTables (fun _ => none) shortDigest (fun _ => "1.0") input =
        .ok (matchCrossDatasetSemanticGraph shortDigest
          (linkMatchInput plainTables (fun _ => none) shortDigest input)) := by
    simp only [buildDatasetSemanticLinkGraph, if_neg apart, ready, ne_eq, not_true_eq_false, or_self, if_false,
      safe, if_true]
  have swappedSafe := (@turnedGraph_isSafe shortDigest _ oneText_number _ (matched_ids_silent _)).trans safe
  rw [← graph_swapped apart] at swappedSafe
  rw [built apart ⟨rfl, rfl⟩ safe, built apart.symm ⟨rfl, rfl⟩ swappedSafe] at same
  exact Except.ok.inj same

end Delivery

end DataMax.SemanticLink
