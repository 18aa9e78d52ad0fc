import DataMax.SemanticGraph.InputOrder

/-! What the truncation counts tell. Endpoints are cut before they are folded, so each one that is
cut counts as a node, and the relations of such endpoints count for nothing. -/

namespace DataMax.SemanticGraph

open Domain Library

section Counts

variable (digest : String → List UInt8) (input : CrossDatasetSemanticMatchInput)

/-- The nodes of all endpoints. -/
def unlimitedNodes : List DatasetSemanticGraphNode := allNodes digest (uniqueEndpoints input).get

/-- The distinct edges between all endpoints. -/
def unlimitedEdges : List (String × String × String × Nat) :=
  ((statedEdges digest (uniqueEndpoints input).get input.explicitRelations
    input.options.enableLabelSimilarity).map edgeKey).dedup

/-- What is returned and what is counted as truncated are the whole graph. -/
structure AccountsForAll : Prop where
  nodes : (matchCrossDatasetSemanticGraph digest input).nodes.length +
    (matchCrossDatasetSemanticGraph digest input).truncated.nodes = (unlimitedNodes digest input).length
  edges : (matchCrossDatasetSemanticGraph digest input).edges.length +
    (matchCrossDatasetSemanticGraph digest input).truncated.edges = (unlimitedEdges digest input).length

/-- The input with the endpoints that are kept. -/
def keptInput : CrossDatasetSemanticMatchInput := { input with endpoints := boundedEndpoints input }

variable {digest input} {count : Nat} {endpoint : Fin count → CrossDatasetSemanticEndpointInput}
  {relations : List CrossDatasetExplicitRelationInput} {enableLabelSimilarity : Bool}

theorem mem_edgeCandidates_keys {key : String × String × String × Nat} :
    key ∈ (edgeCandidates digest endpoint relations enableLabelSimilarity).entries.map (·.1) ↔
      key ∈ (statedEdges digest endpoint relations enableLabelSimilarity).map edgeKey := by
  constructor
  · intro listed
    obtain ⟨entry, inside, rfl⟩ := List.mem_map.mp listed
    obtain ⟨given, stated, same⟩ := SortedMap.key_of_mem_merged inside
    obtain ⟨edge, member, rfl⟩ := List.mem_map.mp stated
    exact List.mem_map.mpr ⟨edge, member, same⟩
  · intro stated
    obtain ⟨edge, member, same⟩ := List.mem_map.mp stated
    have contributes : edge ∈ contributions digest endpoint relations enableLabelSimilarity key :=
      mem_contributions.mpr ⟨member, same⟩
    obtain ⟨first, rest, shape⟩ := List.exists_cons_of_ne_nil (List.ne_nil_of_mem contributes)
    have found := @get?_edgeCandidates digest _ endpoint relations enableLabelSimilarity key
    rw [shape, List.head?_cons, Option.map_some] at found
    exact List.mem_map.mpr ⟨(key, mergedEdge (first :: rest) first), SortedMap.mem_entries_iff.mpr found, rfl⟩

/-- Every distinct edge is a candidate, once. -/
theorem length_edgeCandidates : (edgeCandidates digest endpoint relations enableLabelSimilarity).entries.length =
    ((statedEdges digest endpoint relations enableLabelSimilarity).map edgeKey).dedup.length := by
  have distinct : ((edgeCandidates digest endpoint relations enableLabelSimilarity).entries.map (·.1)).Nodup :=
    (SortedMap.keys_pairwise _).imp fun less same => by simp [same] at less
  have permuted := (List.perm_ext_iff_of_nodup distinct (List.nodup_dedup _)).mpr fun key =>
    mem_edgeCandidates_keys.trans List.mem_dedup.symm
  rw [← permuted.length_eq, List.length_map]

theorem length_graphOver_nodes (dropped : Nat) : (graphOver digest input endpoint dropped).nodes.length +
    (graphOver digest input endpoint dropped).truncated.nodes = (allNodes digest endpoint).length + dropped := by
  have within : (graphOver digest input endpoint dropped).nodes.length ≤ (allNodes digest endpoint).length :=
    List.length_take_le' _ _
  exact Nat.add_sub_of_le (Nat.le_add_right_of_le within)

theorem length_graphOver_edges (dropped : Nat) : (graphOver digest input endpoint dropped).edges.length +
    (graphOver digest input endpoint dropped).truncated.edges = ((statedEdges digest endpoint input.explicitRelations
      input.options.enableLabelSimilarity).map edgeKey).dedup.length := by
  rw [← length_edgeCandidates]
  have within : (graphOver digest input endpoint dropped).edges.length ≤
      (edgeCandidates digest endpoint input.explicitRelations input.options.enableLabelSimilarity).entries.length := by
    refine (List.length_take_le' _ _).trans ?_
    rw [retainedEdges, (sortBy_perm _ _).length_eq]
    refine (List.length_filter_le _ _).trans ?_
    rw [SortedMap.values, List.length_map]
  exact Nat.add_sub_of_le within

/-- Choosing among endpoints that were chosen changes nothing. -/
theorem uniqueEndpoints_keptInput : uniqueEndpoints (keptInput input) = boundedEndpoints input := by
  have keys : ((boundedEndpoints input).map endpointKey).Pairwise fun first second => compare first second = .lt := by
    rw [boundedEndpoints, List.map_take]
    exact (uniqueEndpoints_keys input).sublist (List.take_sublist _ _)
  have included : (boundedEndpoints input).filter (isIncluded (keptInput input)) = boundedEndpoints input :=
    List.filter_eq_self.mpr fun endpoint kept => (mem_uniqueEndpoints (List.mem_of_mem_take kept)).2.1
  have sorted : (boundedEndpoints input).Pairwise fun first second => (endpointOrder first second).isLE := by
    refine (List.pairwise_map.mp keys).imp ?_
    intro first second before
    rw [endpointOrder_eq, before]
    rfl
  have distinct : ((boundedEndpoints input).map endpointKey).Nodup :=
    keys.imp fun less same => by simp [same] at less
  have chosen : (keptInput input).endpoints = boundedEndpoints input := rfl
  rw [uniqueEndpoints, chosen, included, sortBy_eq_self sorted, dedupAdjacent_eq_self distinct]

/-- Each endpoint that is cut counts as a node of its own, and the edges are those of the kept
endpoints. Without a cut everything is accounted for. -/
theorem matchCrossDatasetSemanticGraph_truncation (digest : String → List UInt8)
    (input : CrossDatasetSemanticMatchInput) :
    (matchCrossDatasetSemanticGraph digest input).nodes.length +
        (matchCrossDatasetSemanticGraph digest input).truncated.nodes =
      (unlimitedNodes digest (keptInput input)).length +
        ((uniqueEndpoints input).length - (boundedEndpoints input).length) ∧
    (matchCrossDatasetSemanticGraph digest input).edges.length +
        (matchCrossDatasetSemanticGraph digest input).truncated.edges =
      (unlimitedEdges digest (keptInput input)).length ∧
    ((uniqueEndpoints input).length ≤ absoluteMaxEndpoints → AccountsForAll digest input) := by
  have nodes : (matchCrossDatasetSemanticGraph digest input).nodes.length +
        (matchCrossDatasetSemanticGraph digest input).truncated.nodes =
      (unlimitedNodes digest (keptInput input)).length +
        ((uniqueEndpoints input).length - (boundedEndpoints input).length) := by
    have cut : (uniqueEndpoints input).length - (boundedEndpoints input).length =
        (uniqueEndpoints input).length - absoluteMaxEndpoints := by
      rw [boundedEndpoints, List.length_take]
      omega
    rw [unlimitedNodes, uniqueEndpoints_keptInput, cut]
    exact length_graphOver_nodes _
  have edges : (matchCrossDatasetSemanticGraph digest input).edges.length +
        (matchCrossDatasetSemanticGraph digest input).truncated.edges =
      (unlimitedEdges digest (keptInput input)).length := by
    rw [unlimitedEdges, uniqueEndpoints_keptInput]
    exact length_graphOver_edges _
  refine ⟨nodes, edges, fun few => ?_⟩
  have whole : boundedEndpoints input = uniqueEndpoints input := List.take_of_length_le few
  have same : uniqueEndpoints (keptInput input) = uniqueEndpoints input := uniqueEndpoints_keptInput.trans whole
  rw [whole, Nat.sub_self, Nat.add_zero] at nodes
  rw [unlimitedNodes, same] at nodes
  rw [unlimitedEdges, same] at edges
  exact ⟨nodes, edges⟩

/-- An edge of an endpoint that is cut is neither returned nor counted. -/
theorem not_accounted_of_lost {edge : DatasetSemanticGraphEdge}
    (none : statedEdges digest (boundedEndpoints input).get input.explicitRelations
      input.options.enableLabelSimilarity = [])
    (lost : edge ∈ statedEdges digest (uniqueEndpoints input).get input.explicitRelations
      input.options.enableLabelSimilarity) : ¬ AccountsForAll digest input := by
  intro accounts
  have returned := accounts.edges
  rw [matchCrossDatasetSemanticGraph, length_graphOver_edges, none] at returned
  have counted : edgeKey edge ∈ unlimitedEdges digest input :=
    List.mem_dedup.mpr (List.mem_map.mpr ⟨edge, lost, rfl⟩)
  exact absurd returned (Nat.ne_of_lt (List.length_pos_of_mem counted))

end Counts

section Crowded

def crowdedName (place : Nat) : String := .ofList (List.replicate (place + 1) 'a')

def plainObject (datasetId : UuidBytes) (localNodeId : String) : CrossDatasetSemanticEndpointInput where
  datasetId
  localNodeId
  kind := .object
  displayLabel := "业务对象"
  visibleProvenanceCount := 1
  identities := []

/-- The left dataset takes all places, and one of its objects refers to one of the right dataset. -/
def crowdedInput : CrossDatasetSemanticMatchInput := { datesInput with
  endpoints := (List.range absoluteMaxEndpoints).map (fun place => plainObject leftDataset (crowdedName place)) ++
    [plainObject rightDataset "b"]
  explicitRelations := [⟨leftDataset, "a", rightDataset, "b", .explicitReference, .observed⟩] }

theorem trim_crowdedName (place : Nat) : trim (crowdedName place) = crowdedName place := by
  apply trim_eq_self
  intro char inside
  rw [crowdedName, String.toList_ofList] at inside
  rw [List.eq_of_mem_replicate inside]
  rfl

theorem crowdedName_injective : Function.Injective crowdedName := by
  intro first second same
  have texts := congrArg (fun name => name.toList.length) same
  simp only [crowdedName, String.toList_ofList, List.length_replicate] at texts
  exact Nat.succ.inj texts

theorem crowded_datasets : (boundedDatasets crowdedInput).1.map (·.id) = [leftDataset, rightDataset] := by
  decide

theorem crowded_left {place : Nat} (within : place < absoluteMaxEndpoints) :
    (leftDataset, crowdedName place) ∈ (uniqueEndpoints crowdedInput).map endpointKey := by
  refine mem_uniqueEndpoints_keys.mpr ⟨plainObject leftDataset (crowdedName place), ?_, ?_, ?_⟩
  · exact List.mem_append_left _ (List.mem_map.mpr ⟨place, List.mem_range.mpr within, rfl⟩)
  · have named : crowdedName place ≠ "" := fun none => by
      simpa [crowdedName] using congrArg String.toList none
    simp [isIncluded, crowded_datasets, plainObject, trim_crowdedName, named]
  · simp [endpointKey, plainObject, trim_crowdedName]

theorem crowded_right : (rightDataset, "b") ∈ (uniqueEndpoints crowdedInput).map endpointKey := by
  refine mem_uniqueEndpoints_keys.mpr ⟨plainObject rightDataset "b", List.mem_append_right _ List.mem_cons_self, ?_, ?_⟩
  · have named : trim "b" ≠ "" := by decide
    simp [isIncluded, crowded_datasets, plainObject, named]
  · decide

/-- The endpoints of the left dataset come first. -/
theorem crowded_cut : (rightDataset, "b") ∉ (boundedEndpoints crowdedInput).map endpointKey := by
  rw [boundedEndpoints, List.map_take, mem_take_iff (fun first second less more => by
    simp [Std.OrientedCmp.gt_iff_lt.mpr less] at more) (uniqueEndpoints_keys crowdedInput)]
  have ordered : compare leftDataset rightDataset = .lt := by decide
  have before : (List.range absoluteMaxEndpoints).map (fun place => (leftDataset, crowdedName place)) ⊆
      ((uniqueEndpoints crowdedInput).map endpointKey).filter fun other =>
        decide (compare other (rightDataset, "b") = .lt) := by
    intro key listed
    obtain ⟨place, within, rfl⟩ := List.mem_map.mp listed
    refine List.mem_filter.mpr ⟨crowded_left (List.mem_range.mp within), decide_eq_true ?_⟩
    change (compare leftDataset rightDataset).then (compare (crowdedName place) "b") = .lt
    rw [ordered]
    rfl
  have distinct : ((List.range absoluteMaxEndpoints).map fun place => (leftDataset, crowdedName place)).Nodup :=
    List.nodup_range.map fun first second same => crowdedName_injective (Prod.mk.inj same).2
  have many := (distinct.subperm before).length_le
  rw [List.length_map, List.length_range] at many
  exact fun kept => absurd kept.2 (Nat.not_lt.mpr many)

section Lookup

variable {digest : String → List UInt8} {count : Nat} {endpoint : Fin count → CrossDatasetSemanticEndpointInput}
  {relation : CrossDatasetExplicitRelationInput} {source target : Fin count}

theorem explicitEdge_isSome
    (sourceFound : (endpointLookup endpoint).get? (relation.sourceDatasetId, trim relation.sourceLocalNodeId) =
      some source)
    (targetFound : (endpointLookup endpoint).get? (relation.targetDatasetId, trim relation.targetLocalNodeId) =
      some target)
    (apart : endpointNodeId digest endpoint source ≠ endpointNodeId digest endpoint target) :
    ∃ edge, explicitEdge digest endpoint relation = some edge := by
  simp only [explicitEdge, sourceFound, targetFound, if_neg apart]
  exact ⟨_, rfl⟩

theorem explicitEdge_none
    (absent : (endpointLookup endpoint).get? (relation.targetDatasetId, trim relation.targetLocalNodeId) = none) :
    explicitEdge digest endpoint relation = none := by
  cases stated : explicitEdge digest endpoint relation with
  | none => rfl
  | some edge =>
    simp only [explicitEdge] at stated
    split at stated
    · rename_i found
      rw [absent] at found
      cases found
    · cases stated

end Lookup

theorem get?_endpointLookup {count : Nat} {endpoint : Fin count → CrossDatasetSemanticEndpointInput}
    (distinct : ∀ first second, endpointKey (endpoint first) = endpointKey (endpoint second) → first = second)
    (index : Fin count) : (endpointLookup endpoint).get? (endpointKey (endpoint index)) = some index := by
  apply SortedMap.get?_ofList_of_functional
  · exact List.mem_map.mpr ⟨index, List.mem_finRange index, rfl⟩
  · intro other listed
    obtain ⟨place, _, same⟩ := List.mem_map.mp listed
    obtain ⟨keys, rfl⟩ := Prod.mk.inj same
    exact distinct _ _ keys

theorem uniqueEndpoints_get_distinct {input : CrossDatasetSemanticMatchInput}
    (first second : Fin (uniqueEndpoints input).length)
    (same : endpointKey ((uniqueEndpoints input).get first) = endpointKey ((uniqueEndpoints input).get second)) :
    first = second := by
  have distinct : ((uniqueEndpoints input).map endpointKey).Nodup :=
    (uniqueEndpoints_keys input).imp fun less same => by simp [same] at less
  exact (List.nodup_iff_injective_get.mp distinct.of_map) (List.inj_on_of_nodup_map distinct
    (List.get_mem _ _) (List.get_mem _ _) same)

/-- Without the limit the reference is an edge. -/
theorem crowded_edge : ∃ edge, explicitEdge shortDigest (uniqueEndpoints crowdedInput).get
    ⟨leftDataset, "a", rightDataset, "b", .explicitReference, .observed⟩ = some edge := by
  obtain ⟨left, leftKept, leftKey⟩ := List.mem_map.mp (crowded_left (by decide : 0 < absoluteMaxEndpoints))
  obtain ⟨right, rightKept, rightKey⟩ := List.mem_map.mp crowded_right
  obtain ⟨source, rfl⟩ := List.get_of_mem leftKept
  obtain ⟨target, rfl⟩ := List.get_of_mem rightKept
  have sourceFound := get?_endpointLookup uniqueEndpoints_get_distinct source
  have targetFound := get?_endpointLookup uniqueEndpoints_get_distinct target
  rw [leftKey] at sourceFound
  rw [rightKey] at targetFound
  have plain : ∀ index key, key ∉ identityKeys (uniqueEndpoints crowdedInput).get index := by
    intro index key given
    have listed := (mem_uniqueEndpoints (List.get_mem (uniqueEndpoints crowdedInput) index)).1
    rw [mem_identityKeys] at given
    obtain ⟨identity, inside, _⟩ := given
    have none : ((uniqueEndpoints crowdedInput).get index).identities = [] := by
      rcases List.mem_append.mp listed with first | last
      · obtain ⟨place, _, same⟩ := List.mem_map.mp first
        rw [← same]
        rfl
      · rw [List.mem_singleton.mp last]
        rfl
    rw [none] at inside
    cases inside
  have apart : endpointNodeId shortDigest (uniqueEndpoints crowdedInput).get source ≠
      endpointNodeId shortDigest (uniqueEndpoints crowdedInput).get target := by
    intro same
    rcases chain_steps ((endpointNodeId_eq_iff shortDigest_injective uniqueEndpoints_get_distinct).mp same) with
      rfl | ⟨⟨_, key, given, _⟩, _⟩
    · have datasets := congrArg Prod.fst (leftKey.symm.trans rightKey)
      revert datasets
      decide
    · exact plain _ _ given
  have sourceName : trim "a" = crowdedName 0 := by decide
  have targetName : trim "b" = "b" := by decide
  refine explicitEdge_isSome ?_ ?_ apart
  · rw [sourceName]
    exact sourceFound
  · rw [targetName]
    exact targetFound

theorem crowded_unlinked : explicitEdge shortDigest (boundedEndpoints crowdedInput).get
    ⟨leftDataset, "a", rightDataset, "b", .explicitReference, .observed⟩ = none := by
  have targetName : trim "b" = "b" := by decide
  apply explicitEdge_none
  rw [targetName, Option.eq_none_iff_forall_ne_some]
  intro index found
  exact crowded_cut (List.mem_map.mpr ⟨_, List.get_mem _ index, endpointLookup_key found⟩)

theorem crowdedInput_not_accounted : ¬ AccountsForAll shortDigest crowdedInput := by
  obtain ⟨edge, stated⟩ := crowded_edge
  have relations : crowdedInput.explicitRelations =
      [⟨leftDataset, "a", rightDataset, "b", .explicitReference, .observed⟩] := rfl
  have dissimilar : crowdedInput.options.enableLabelSimilarity = false := rfl
  apply @not_accounted_of_lost shortDigest crowdedInput edge
  · rw [relations, dissimilar, statedEdges, List.filterMap_cons_none crowded_unlinked]
    rfl
  · rw [relations, dissimilar, statedEdges, List.filterMap_cons_some stated]
    exact List.mem_append_left _ List.mem_cons_self

end Crowded

end DataMax.SemanticGraph
