import DataMax.SemanticGraph.Truncation
import DataMax.SemanticGraph.WellFormed

/-! A relation of temporal complementarity that is stated the other way round turns
its own edge and leaves the rest of the graph as it is. -/

namespace DataMax.SemanticGraph

open Domain Library SemanticUnderstanding

section Reversal

def CrossDatasetExplicitRelationInput.reversed (relation : CrossDatasetExplicitRelationInput) :
    CrossDatasetExplicitRelationInput :=
  { relation with
    sourceDatasetId := relation.targetDatasetId
    sourceLocalNodeId := relation.targetLocalNodeId
    targetDatasetId := relation.sourceDatasetId
    targetLocalNodeId := relation.sourceLocalNodeId }

variable (digest : String → List UInt8)

def reversedEdge (edge : DatasetSemanticGraphEdge) : DatasetSemanticGraphEdge :=
  { edge with
    id := semanticId digest "cross_relation" [edge.targetId, edge.sourceId, edge.relationType,
      evidenceName edge.evidenceClass]
    sourceId := edge.targetId
    targetId := edge.sourceId }

def temporalComplementarityType : String := CrossDatasetExplicitRelationKind.temporalComplementarity.relationType

/-- The edges of temporal complementarity point the other way. -/
def turnedEdge (edge : DatasetSemanticGraphEdge) : DatasetSemanticGraphEdge :=
  if edge.relationType = temporalComplementarityType then reversedEdge digest edge else edge

def turnedGraph (graph : DatasetSemanticGraphV1) : DatasetSemanticGraphV1 :=
  { graph with edges := graph.edges.map (turnedEdge digest) }

structure IsObserved (relation : CrossDatasetExplicitRelationInput) : Prop where
  evidenceClass : relation.evidenceClass = .observed
  kind : relation.kind ≠ .temporalComplementarity

variable {digest} {count : Nat} {endpoint : Fin count → CrossDatasetSemanticEndpointInput}
  {relation : CrossDatasetExplicitRelationInput} {relations : List CrossDatasetExplicitRelationInput}
  {edge : DatasetSemanticGraphEdge} {nodes : List DatasetSemanticGraphNode}

theorem explicitEdge_reversed (relation : CrossDatasetExplicitRelationInput) :
    explicitEdge digest endpoint relation.reversed =
      (explicitEdge digest endpoint relation).map (reversedEdge digest) := by
  have supporters : distinctBy id [relation.targetDatasetId, relation.sourceDatasetId] =
      distinctBy id [relation.sourceDatasetId, relation.targetDatasetId] :=
    distinctBy_congr Function.injective_id fun dataset => by simp [or_comm]
  rw [explicitEdge, explicitEdge, CrossDatasetExplicitRelationInput.reversed]
  dsimp only
  rw [supporters]
  cases (endpointLookup endpoint).get? (relation.sourceDatasetId, trim relation.sourceLocalNodeId) with
  | none => split <;> simp_all
  | some source =>
    cases (endpointLookup endpoint).get? (relation.targetDatasetId, trim relation.targetLocalNodeId) with
    | none => rfl
    | some target =>
      by_cases same : endpointNodeId digest endpoint source = endpointNodeId digest endpoint target
      · simp [same]
      · simp [same, Ne.symm same, buildEdge, reversedEdge]

theorem explicitEdge_observed (stated : explicitEdge digest endpoint relation = some edge)
    (observed : IsObserved relation) :
    edge.evidenceClass ≠ .inferred ∧ edge.relationType ≠ temporalComplementarityType := by
  obtain ⟨source, target, evidenceClass, _, _, _, capped, rfl⟩ := explicitEdge_cases stated
  obtain ⟨seen, kind⟩ := observed
  constructor
  · simp only [buildEdge, capped, seen]
    cases shape : relation.kind with
    | temporalComplementarity => exact absurd shape kind
    | foreignKey | explicitReference | datasetContainsObject | objectContainsField | fieldExpressesConcept => decide
  · simp only [buildEdge]
    exact fun same => kind (relationType_injective same)

theorem explicitEdge_inferred (stated : explicitEdge digest endpoint relation = some edge)
    (kind : relation.kind = .temporalComplementarity) :
    edge.evidenceClass = .inferred ∧ edge.relationType = temporalComplementarityType := by
  obtain ⟨source, target, evidenceClass, _, _, _, capped, rfl⟩ := explicitEdge_cases stated
  constructor
  · simp only [buildEdge, capped, kind]
    cases relation.evidenceClass <;> decide
  · simp only [buildEdge, kind]
    rfl

theorem statedEdges_explicit :
    statedEdges digest endpoint relations false = relations.filterMap (explicitEdge digest endpoint) := by
  simp [statedEdges]

theorem edgeCandidates_observed (observed : ∀ other ∈ relations, IsObserved other)
    (inside : edge ∈ (edgeCandidates digest endpoint relations false).values) :
    edge.evidenceClass ≠ .inferred ∧ edge.relationType ≠ temporalComplementarityType := by
  obtain ⟨stated, listed, rfl⟩ := of_mem_edgeCandidates inside
  rw [statedEdges_explicit] at listed
  obtain ⟨other, known, states⟩ := List.mem_filterMap.mp listed
  have facts := explicitEdge_observed states (observed other known)
  exact facts

/-- The edge of the last relation is merged with no other one. -/
theorem edgeCandidates_append (observed : ∀ other ∈ relations, IsObserved other)
    (kind : relation.kind = .temporalComplementarity) :
    (edgeCandidates digest endpoint (relations ++ [relation]) false).values.Perm
      ((explicitEdge digest endpoint relation).toList ++ (edgeCandidates digest endpoint relations false).values) := by
  rw [edgeCandidates, edgeCandidates, statedEdges_explicit, statedEdges_explicit, List.filterMap_append]
  cases stated : explicitEdge digest endpoint relation with
  | none => simp [stated]
  | some edge =>
    have last : [relation].filterMap (explicitEdge digest endpoint) = [edge] := by simp [stated]
    rw [last, List.map_append, List.map_singleton]
    refine SortedMap.values_merged_append fun entry listed same => ?_
    obtain ⟨other, known, rfl⟩ := List.mem_map.mp listed
    obtain ⟨origin, given, states⟩ := List.mem_filterMap.mp known
    have ranks : evidenceRank other.evidenceClass = evidenceRank edge.evidenceClass :=
      congrArg (fun key => key.2.2.2) same
    exact (explicitEdge_observed states (observed origin given)).1
      ((evidenceRank_injective ranks).trans (explicitEdge_inferred stated kind).1)

theorem edgeKey_of_level {first second : DatasetSemanticGraphEdge} (level : edgeOrder first second = .eq) :
    edgeKey first = edgeKey second := by
  simp only [edgeOrder, Ordering.then_eq_eq] at level
  obtain ⟨rank, source, target, relationType⟩ := level
  rw [edgeKey, edgeKey, Std.LawfulEqCmp.eq_of_compare rank, Std.LawfulEqCmp.eq_of_compare source,
    Std.LawfulEqCmp.eq_of_compare target, Std.LawfulEqCmp.eq_of_compare relationType]

/-- The edge of the last relation comes last. -/
theorem retainedEdges_append (observed : ∀ other ∈ relations, IsObserved other)
    (kind : relation.kind = .temporalComplementarity) :
    retainedEdges digest endpoint (relations ++ [relation]) false nodes =
      retainedEdges digest endpoint relations false nodes ++ (explicitEdge digest endpoint relation).toList.filter
        fun edge => edge.sourceId ∈ nodes.map (·.id) && edge.targetId ∈ nodes.map (·.id) := by
  have permuted : (retainedEdges digest endpoint (relations ++ [relation]) false nodes).Perm
      (retainedEdges digest endpoint relations false nodes ++ (explicitEdge digest endpoint relation).toList.filter
        fun edge => edge.sourceId ∈ nodes.map (·.id) && edge.targetId ∈ nodes.map (·.id)) := by
    refine (sortBy_perm _ _).trans (((edgeCandidates_append observed kind).filter _).trans ?_)
    rw [List.filter_append]
    exact List.perm_append_comm.trans ((sortBy_perm _ _).symm.append_right _)
  have last : ((explicitEdge digest endpoint relation).toList.filter fun edge =>
      edge.sourceId ∈ nodes.map (·.id) && edge.targetId ∈ nodes.map (·.id)).Pairwise
        fun first second => (edgeOrder first second).isLE := by
    cases explicitEdge digest endpoint relation with
    | none => exact .nil
    | some edge => exact (List.pairwise_singleton _ edge).sublist List.filter_sublist
  refine permuted.eq_of_pairwise ?_ (sortBy_sorted edgeOrder _) (List.pairwise_append.mpr
    ⟨sortBy_sorted edgeOrder _, last, ?_⟩)
  · intro first second inside within below above
    have key := edgeKey_of_level (Std.OrientedCmp.isLE_antisymm below above)
    exact List.inj_on_of_nodup_map (edgeCandidates_keys_nodup endpoint (relations ++ [relation]) false)
      (of_mem_retainedEdges inside).1 (of_mem_retainedEdges (permuted.mem_iff.mpr within)).1 key
  · intro edge inside other within
    have weak := (explicitEdge_inferred (Option.mem_toList.mp (List.mem_filter.mp within).1) kind).1
    have strong := (edgeCandidates_observed observed (of_mem_retainedEdges inside).1).1
    have ranks : compare (evidenceRank edge.evidenceClass) (evidenceRank other.evidenceClass) = .lt := by
      rw [weak]
      cases shape : edge.evidenceClass with
      | confirmed | observed => decide
      | inferred => exact absurd shape strong
    simp [edgeOrder, ranks]

/-- A graph whose last relation is reversed has the edge of that relation reversed. -/
theorem graphOver_reversed {input : CrossDatasetSemanticMatchInput} (observed : ∀ other ∈ relations, IsObserved other)
    (kind : relation.kind = .temporalComplementarity)
    (explicit : input.explicitRelations = relations ++ [relation])
    (labels : input.options.enableLabelSimilarity = false) (dropped : Nat) :
    graphOver digest { input with explicitRelations := relations ++ [relation.reversed] } endpoint dropped =
      turnedGraph digest (graphOver digest input endpoint dropped) := by
  have counts : (edgeCandidates digest endpoint (relations ++ [relation.reversed]) false).entries.length =
      (edgeCandidates digest endpoint (relations ++ [relation]) false).entries.length := by
    have counted {last : CrossDatasetExplicitRelationInput} (lastKind : last.kind = .temporalComplementarity) :=
      (@edgeCandidates_append digest _ endpoint last relations observed lastKind).length_eq
    simp only [SortedMap.values, List.length_map, List.length_append] at counted
    rw [counted kind, @counted relation.reversed kind, explicitEdge_reversed]
    cases explicitEdge digest endpoint relation <;> rfl
  have turned : ∀ nodes, retainedEdges digest endpoint (relations ++ [relation.reversed]) false nodes =
      (retainedEdges digest endpoint (relations ++ [relation]) false nodes).map (turnedEdge digest) := by
    intro nodes
    have kept : (retainedEdges digest endpoint relations false nodes).map (turnedEdge digest) =
        retainedEdges digest endpoint relations false nodes := by
      refine (List.map_congr_left fun edge inside => ?_).trans (List.map_id _)
      exact if_neg (edgeCandidates_observed observed (of_mem_retainedEdges inside).1).2
    rw [retainedEdges_append observed kind, @retainedEdges_append _ _ _ relation.reversed _ _ observed kind,
      List.map_append, kept, explicitEdge_reversed]
    congr 1
    cases stated : explicitEdge digest endpoint relation with
    | none => rfl
    | some edge =>
      have own : turnedEdge digest edge = reversedEdge digest edge := if_pos (explicitEdge_inferred stated kind).2
      simp only [Option.map_some, Option.toList_some, List.filter_cons, List.filter_nil, reversedEdge]
      rw [Bool.and_comm]
      split
      · rw [List.map_singleton, own, reversedEdge]
      · rfl
  have datasets : boundedDatasets { input with explicitRelations := relations ++ [relation.reversed] } =
      boundedDatasets input := rfl
  simp only [graphOver, datasets, turnedGraph, explicit, labels, counts, turned, List.map_take, List.length_map,
    List.length_take]

theorem length_retainedEdges_le :
    (retainedEdges digest endpoint relations false nodes).length ≤ relations.length := by
  calc (retainedEdges digest endpoint relations false nodes).length
      ≤ (edgeCandidates digest endpoint relations false).values.length :=
        (sortBy_perm edgeOrder _).length_eq.trans_le (List.length_filter_le _ _)
    _ = (edgeCandidates digest endpoint relations false).entries.length := List.length_map _
    _ ≤ (statedEdges digest endpoint relations false).length := by
        rw [length_edgeCandidates]
        exact (List.dedup_sublist _).length_le.trans (List.length_map _).le
    _ ≤ relations.length := by
        rw [statedEdges_explicit]
        exact List.length_filterMap_le _ _

end Reversal

section Limits

/-- The limits of the matcher leave everything in. -/
structure FitsLimits (given : CrossDatasetSemanticMatchInput) : Prop where
  nodes : given.endpoints.length ≤ min given.limits.maxNodes absoluteMaxEndpoints
  edges : given.explicitRelations.length ≤ min given.limits.maxEdges absoluteMaxEdges

theorem length_uniqueEndpoints_le (given : CrossDatasetSemanticMatchInput) :
    (uniqueEndpoints given).length ≤ given.endpoints.length := by
  have kept := (dedupAdjacent_sublist endpointKey
    (sortBy endpointOrder (given.endpoints.filter (isIncluded given)))).length_le
  rw [(sortBy_perm _ _).length_eq] at kept
  exact kept.trans (List.length_filter_le _ _)

theorem boundedEndpoints_of_fits {given : CrossDatasetSemanticMatchInput} (fits : FitsLimits given) :
    boundedEndpoints given = uniqueEndpoints given :=
  List.take_of_length_le ((length_uniqueEndpoints_le given).trans (fits.nodes.trans (min_le_right _ _)))

end Limits

end DataMax.SemanticGraph
