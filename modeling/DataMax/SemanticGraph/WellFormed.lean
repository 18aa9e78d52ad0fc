import DataMax.SemanticGraph.Edges

/-! What holds of every graph that the matcher returns. -/

namespace DataMax.SemanticGraph

open Domain Library SemanticUnderstanding

section Stated

variable {digest : String → List UInt8} {count : Nat} {endpoint : Fin count → CrossDatasetSemanticEndpointInput}
  {edge other : DatasetSemanticGraphEdge}

theorem nodeOf_id_plain (index : Fin count) : IsPlain (nodeOf digest endpoint index).id := by
  rw [nodeOf]
  split
  · have marks : IsPlain "shared:" ∧ IsPlain ":" := by decide
    have kinds : ∀ kind : DatasetSemanticGraphNodeKind, IsPlain kind.sharedIdKind := by
      intro kind
      cases kind <;> decide
    have bare : ':' ∉ (trim "shared").toList := by decide
    refine ((marks.1.append (kinds _)).append marks.2).append ?_
    rw [semanticId, stableSemanticId, afterColon_append bare]
    exact hex_plain _
  · exact scopedSemanticEndpointId_plain _ _

theorem IsStated.id_eq (stated : IsStated digest endpoint edge) : edge.id = semanticId digest "cross_relation"
    [edge.sourceId, edge.targetId, edge.relationType, evidenceName edge.evidenceClass] := by
  have fields : ∀ {edge facts : DatasetSemanticGraphEdge}, bareEdge edge = facts →
      edge.id = facts.id ∧ edge.relationType = facts.relationType ∧ edge.evidenceClass = facts.evidenceClass := by
    rintro edge _ rfl
    exact ⟨rfl, rfl, rfl⟩
  rcases stated.facts with ⟨kind, _, facts⟩ | facts
  · obtain ⟨ids, types, _⟩ := fields facts
    simp only [explicitFacts, bareEdge, buildEdge] at ids types
    rw [ids, types]
  · obtain ⟨ids, types, classes⟩ := fields facts
    simp only [labelFacts, bareEdge, buildEdge] at ids types classes
    rw [ids, types, classes]

theorem IsStated.capped (stated : IsStated digest endpoint edge) :
    (∃ kind : CrossDatasetExplicitRelationKind, edge.relationType = kind.relationType ∧
      evidenceRank kind.strongestEvidenceClass ≤ evidenceRank edge.evidenceClass) ∨
    edge.relationType = "label_similarity" ∧ edge.evidenceClass = .inferred := by
  rcases stated.facts with ⟨kind, capped, facts⟩ | facts
  · have types := congrArg DatasetSemanticGraphEdge.relationType facts
    simp only [explicitFacts, bareEdge, buildEdge] at types
    exact .inl ⟨kind, types, capped⟩
  · have types := congrArg DatasetSemanticGraphEdge.relationType facts
    have classes := congrArg DatasetSemanticGraphEdge.evidenceClass facts
    simp only [labelFacts, bareEdge, buildEdge] at types classes
    exact .inr ⟨types, classes⟩

theorem IsStated.parts_plain (stated : IsStated digest endpoint edge) :
    ∀ part ∈ [edge.sourceId, edge.targetId, edge.relationType, evidenceName edge.evidenceClass], IsPlain part := by
  have ends : ∀ id, (∃ index, id = endpointNodeId digest endpoint index) → IsPlain id := by
    rintro _ ⟨index, rfl⟩
    rw [endpointNodeId_eq]
    exact nodeOf_id_plain index
  have types : IsPlain edge.relationType := by
    rcases stated.capped with ⟨kind, same, _⟩ | ⟨same, _⟩
    · rw [same]
      cases kind <;> decide
    · rw [same]
      decide +kernel
  have names : IsPlain (evidenceName edge.evidenceClass) := by
    cases edge.evidenceClass <;> decide
  simp only [List.forall_mem_cons]
  exact ⟨ends _ stated.source, ends _ stated.target, types, names, by simp⟩

/-- The id of an edge tells its key. -/
theorem IsStated.edgeKey_eq (collisionFree : Function.Injective digest) (stated : IsStated digest endpoint edge)
    (also : IsStated digest endpoint other) (same : edge.id = other.id) : edgeKey edge = edgeKey other := by
  rw [stated.id_eq, also.id_eq] at same
  have parts := semanticId_injective collisionFree stated.parts_plain also.parts_plain same
  simp only [List.cons.injEq, and_true] at parts
  obtain ⟨sources, targets, types, names⟩ := parts
  rw [edgeKey, edgeKey, sources, targets, types, evidenceName_injective names]

end Stated

section Input

variable {input : CrossDatasetSemanticMatchInput}

theorem boundedDatasets_root (input : CrossDatasetSemanticMatchInput) :
    ((boundedDatasets input).1.map (·.id)).head? = some input.rootDatasetId := by
  simp only [boundedDatasets, List.map_cons, List.head?_cons, Option.some.injEq]
  cases found : (uniqueDatasets input).get? input.rootDatasetId with
  | none => rfl
  | some root =>
    rw [uniqueDatasets, SortedMap.get?_keyed] at found
    have own := List.find?_some found
    simpa using own

theorem boundedEndpoints_included {endpoint : CrossDatasetSemanticEndpointInput}
    (inside : endpoint ∈ boundedEndpoints input) : endpoint.datasetId ∈ (boundedDatasets input).1.map (·.id) := by
  have kept := (dedupAdjacent_sublist endpointKey _).subset (List.mem_of_mem_take inside)
  have included := (List.mem_filter.mp (mem_sortBy.mp kept)).2
  simp only [isIncluded, Bool.and_eq_true, decide_eq_true_eq] at included
  exact included.1

end Input

section Graph

variable (digest : String → List UInt8) (input : CrossDatasetSemanticMatchInput)

/-- The stated edges of the graph over the input. -/
def graphStatedEdges : List DatasetSemanticGraphEdge :=
  statedEdges digest (boundedEndpoints input).get input.explicitRelations input.options.enableLabelSimilarity

structure WellFormed (graph : DatasetSemanticGraphV1) : Prop where
  nodeIds : (graph.nodes.map (·.id)).Nodup
  edgeIds : (graph.edges.map (·.id)).Nodup
  joins : ∀ edge ∈ graph.edges, edge.sourceId ≠ edge.targetId ∧ edge.sourceId ∈ graph.nodes.map (·.id) ∧
    edge.targetId ∈ graph.nodes.map (·.id)
  nodeCount : graph.nodes.length ≤ min input.limits.maxNodes absoluteMaxEndpoints
  edgeCount : graph.edges.length ≤ min input.limits.maxEdges absoluteMaxEdges
  rootFirst : (graph.datasets.map (·.id)).head? = some input.rootDatasetId
  nodesListed : ∀ node ∈ graph.nodes, node.datasetRefs ⊆ graph.datasets.map (·.id)
  supportersListed : ∀ edge ∈ graph.edges, edge.supportingDatasetIds ⊆ graph.datasets.map (·.id)
  strongestFirst : graph.edges.Pairwise fun first second =>
    evidenceRank first.evidenceClass ≤ evidenceRank second.evidenceClass
  capped : ∀ edge ∈ graph.edges,
    (∃ kind : CrossDatasetExplicitRelationKind, edge.relationType = kind.relationType ∧
      evidenceRank kind.strongestEvidenceClass ≤ evidenceRank edge.evidenceClass) ∨
    edge.relationType = "label_similarity" ∧ edge.evidenceClass = .inferred
  crosses : ∀ edge ∈ graph.edges, edge.crossDataset = true ↔
    ∃ stated ∈ graphStatedEdges digest input, edgeKey stated = edgeKey edge ∧
      2 ≤ stated.supportingDatasetIds.length
  supported : ∀ edge ∈ graph.edges, edge.crossDataset = true → 2 ≤ edge.supportingDatasetIds.length

variable {digest input} {edge : DatasetSemanticGraphEdge}

instance : Std.TransCmp edgeOrder :=
  inferInstanceAs (Std.TransCmp (compareLex
    (compareOn fun edge : DatasetSemanticGraphEdge => evidenceRank edge.evidenceClass)
    (compareLex (compareOn DatasetSemanticGraphEdge.sourceId)
      (compareLex (compareOn DatasetSemanticGraphEdge.targetId) (compareOn DatasetSemanticGraphEdge.relationType)))))

theorem edgeCandidates_keys_nodup {count : Nat} (endpoint : Fin count → CrossDatasetSemanticEndpointInput)
    (relations : List CrossDatasetExplicitRelationInput) (enableLabelSimilarity : Bool) :
    ((edgeCandidates digest endpoint relations enableLabelSimilarity).values.map edgeKey).Nodup := by
  have keys : (edgeCandidates digest endpoint relations enableLabelSimilarity).values.map edgeKey =
      (edgeCandidates digest endpoint relations enableLabelSimilarity).entries.map (·.1) := by
    rw [SortedMap.values, List.map_map]
    apply List.map_congr_left
    intro entry inside
    have found := SortedMap.mem_entries_iff.mp inside
    rw [get?_edgeCandidates, Option.map_eq_some_iff] at found
    obtain ⟨stated, first, merged⟩ := found
    rw [Function.comp_apply, ← merged, edgeKey_mergedEdge]
    exact (mem_contributions.mp (List.mem_of_mem_head? first)).2
  rw [keys]
  exact (SortedMap.keys_pairwise _).imp fun less same => by simp [same] at less

theorem of_mem_retainedEdges {count : Nat} {endpoint : Fin count → CrossDatasetSemanticEndpointInput}
    {relations : List CrossDatasetExplicitRelationInput} {enableLabelSimilarity : Bool}
    {nodes : List DatasetSemanticGraphNode}
    (inside : edge ∈ retainedEdges digest endpoint relations enableLabelSimilarity nodes) :
    edge ∈ (edgeCandidates digest endpoint relations enableLabelSimilarity).values ∧
      edge.sourceId ∈ nodes.map (·.id) ∧ edge.targetId ∈ nodes.map (·.id) := by
  have kept := List.mem_filter.mp (mem_sortBy.mp inside)
  simpa only [Bool.and_eq_true, decide_eq_true_eq] using kept

/-- An edge of the graph has the facts of a stated edge and the support of all
the edges with its key. -/
theorem of_mem_graph_edges (inside : edge ∈ (matchCrossDatasetSemanticGraph digest input).edges) :
    ∃ stated, IsStated digest (boundedEndpoints input).get stated ∧ stated ∈ graphStatedEdges digest input ∧
      edge = mergedEdge ((graphStatedEdges digest input).filter fun other => edgeKey other = edgeKey stated) stated := by
  obtain ⟨candidate, _⟩ := of_mem_retainedEdges (List.mem_of_mem_take inside)
  obtain ⟨stated, listed, merged⟩ := of_mem_edgeCandidates candidate
  exact ⟨stated, isStated_of_mem listed, listed, merged⟩

/-- Every graph that the matcher returns is well formed. -/
theorem matchCrossDatasetSemanticGraph_wellFormed (collisionFree : Function.Injective digest)
    (input : CrossDatasetSemanticMatchInput) : WellFormed digest input (matchCrossDatasetSemanticGraph digest input) := by
  constructor
  case nodeIds => exact (allNodes_ids_nodup.sublist ((List.take_sublist _ _).map _))
  case edgeIds =>
    have keys : ((matchCrossDatasetSemanticGraph digest input).edges.map edgeKey).Nodup := by
      refine List.Nodup.sublist ((List.take_sublist _ _).map _) ?_
      rw [retainedEdges, ((sortBy_perm edgeOrder _).map _).nodup_iff]
      exact (edgeCandidates_keys_nodup _ _ _).sublist (List.filter_sublist.map _)
    refine (List.Nodup.of_map _ keys).map_on fun first inside second within same => ?_
    obtain ⟨stated, known, _, firstMerged⟩ := of_mem_graph_edges inside
    obtain ⟨other, also, _, secondMerged⟩ := of_mem_graph_edges within
    rw [firstMerged, secondMerged] at same
    have equal := known.edgeKey_eq collisionFree also same
    rw [← edgeKey_mergedEdge, ← @edgeKey_mergedEdge _ other, ← firstMerged, ← secondMerged] at equal
    exact List.inj_on_of_nodup_map keys inside within equal
  case joins =>
    intro edge inside
    obtain ⟨_, ends⟩ := of_mem_retainedEdges (List.mem_of_mem_take inside)
    obtain ⟨stated, known, _, rfl⟩ := of_mem_graph_edges inside
    exact ⟨known.joins, ends⟩
  case nodeCount => exact List.length_take_le _ _
  case edgeCount => exact List.length_take_le _ _
  case rootFirst => exact boundedDatasets_root input
  case nodesListed =>
    intro node inside dataset listed
    obtain ⟨index, rfl⟩ := of_mem_allNodes (List.mem_of_mem_take inside)
    rw [nodeOf_datasetRefs, mem_datasetRefs] at listed
    obtain ⟨other, _, rfl⟩ := listed
    exact boundedEndpoints_included (List.get_mem _ _)
  case supportersListed =>
    intro edge inside dataset listed
    obtain ⟨stated, _, _, rfl⟩ := of_mem_graph_edges inside
    rw [mergedEdge, mem_distinctBy_self, List.mem_flatMap] at listed
    obtain ⟨other, contributes, supports⟩ := listed
    obtain ⟨index, rfl⟩ := (isStated_of_mem (List.mem_filter.mp contributes).1).listed dataset supports
    exact boundedEndpoints_included (List.get_mem _ _)
  case strongestFirst =>
    refine ((sortBy_sorted edgeOrder _).sublist (List.take_sublist _ _)).imp ?_
    intro first second ordered
    rw [edgeOrder] at ordered
    cases ranks : compare (evidenceRank first.evidenceClass) (evidenceRank second.evidenceClass) with
    | lt => exact (Nat.compare_eq_lt.mp ranks).le
    | eq => exact (Nat.compare_eq_eq.mp ranks).le
    | gt => simp [ranks] at ordered
  case capped =>
    intro edge inside
    obtain ⟨stated, known, _, rfl⟩ := of_mem_graph_edges inside
    exact known.capped
  case crosses =>
    intro edge inside
    obtain ⟨stated, _, _, rfl⟩ := of_mem_graph_edges inside
    rw [edgeKey_mergedEdge, mergedEdge, List.any_eq_true]
    constructor
    · rintro ⟨other, contributes, crosses⟩
      obtain ⟨listed, same⟩ := List.mem_filter.mp contributes
      exact ⟨other, listed, of_decide_eq_true same, (isStated_of_mem listed).crosses.mp crosses⟩
    · rintro ⟨other, listed, same, several⟩
      exact ⟨other, List.mem_filter.mpr ⟨listed, decide_eq_true same⟩, (isStated_of_mem listed).crosses.mpr several⟩
  case supported =>
    intro edge inside crosses
    obtain ⟨stated, _, _, rfl⟩ := of_mem_graph_edges inside
    rw [mergedEdge, List.any_eq_true] at crosses
    obtain ⟨other, contributes, crosses⟩ := crosses
    have known := isStated_of_mem (List.mem_filter.mp contributes).1
    obtain ⟨datasets, supporters⟩ := known.supports
    have several := known.crosses.mp crosses
    rw [supporters, two_le_length_distinctBy_self] at several
    obtain ⟨first, within, second, also, apart⟩ := several
    have listed : ∀ dataset ∈ datasets, dataset ∈ ((graphStatedEdges digest input).filter fun other =>
        edgeKey other = edgeKey stated).flatMap (·.supportingDatasetIds) := by
      intro dataset inside
      refine List.mem_flatMap.mpr ⟨other, contributes, ?_⟩
      rw [supporters]
      exact mem_distinctBy_self.mpr inside
    rw [mergedEdge, two_le_length_distinctBy_self]
    exact ⟨first, listed first within, second, listed second also, apart⟩

theorem matchCrossDatasetSemanticGraph_wellFormed_dates :
    WellFormed shortDigest datesInput (matchCrossDatasetSemanticGraph shortDigest datesInput) :=
  matchCrossDatasetSemanticGraph_wellFormed shortDigest_injective datesInput

/-- Relations within single datasets are merged into an edge that two datasets
support, but it does not become a link across them. -/
theorem matchCrossDatasetSemanticGraph_dates_not_cross : Function.Injective shortDigest ∧
    ¬ ∀ edge ∈ (matchCrossDatasetSemanticGraph shortDigest datesInput).edges,
      edge.crossDataset = true ↔ 2 ≤ edge.supportingDatasetIds.length := by
  refine ⟨shortDigest_injective, ?_⟩
  decide +kernel

end Graph

end DataMax.SemanticGraph
