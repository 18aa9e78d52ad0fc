import DataMax.SemanticGraph.Edges

/-! What the graph takes from an endpoint. Endpoints that agree in that give the
same graph. -/

namespace DataMax.SemanticGraph

open Domain Library SemanticUnderstanding

/-- The graph does not tell the two endpoints apart. -/
structure SameView (first second : CrossDatasetSemanticEndpointInput) : Prop where
  key : endpointKey first = endpointKey second
  kind : first.kind = second.kind
  label : comparableChineseLabel first.displayLabel = comparableChineseLabel second.displayLabel
  provenance : first.visibleProvenanceCount = second.visibleProvenanceCount
  identities : ∀ key, key ∈ first.identities.filterMap (exactIdentityKey first.kind) ↔
    key ∈ second.identities.filterMap (exactIdentityKey second.kind)

section Unions

variable {count : Nat} {endpoint : Fin count → CrossDatasetSemanticEndpointInput} {forest other : UnionFind count}
  {indices : List (Fin count)} {key : String}

/-- Uniting an item again changes neither the roots nor their ranks. -/
theorem alike_dedupAfter {first kept : Fin count} (alike : forest.Alike other)
    (joined : forest.root first = forest.root kept) :
    UnionFind.Alike ((indices.map fun index => (first, index)).foldl UnionFind.unite forest)
      (((dedupAfter id kept indices).map fun index => (first, index)).foldl UnionFind.unite other) := by
  induction indices generalizing forest other kept with
  | nil => exact alike
  | cons head rest ih =>
    rw [dedupAfter]
    split
    · rename_i same
      obtain rfl : head = kept := same
      have again := UnionFind.union_alike joined
      exact ih (again.trans alike) (by rw [UnionFind.unite, again.root, joined])
    · exact ih (alike.union first head) (UnionFind.union_root_eq.mpr (.inr (.inl ⟨rfl, rfl⟩)))

theorem alike_unitedPairs (alike : forest.Alike other) :
    UnionFind.Alike ((unitedPairs endpoint indices).foldl UnionFind.unite forest)
      ((unitedPairs endpoint (dedupAdjacent id indices)).foldl UnionFind.unite other) := by
  cases indices with
  | nil =>
    have none : unitedPairs endpoint [] = [] := by
      rw [unitedPairs]
      split <;> rfl
    rw [dedupAdjacent, none]
    exact alike
  | cons first rest =>
    have datasets : datasetRefs endpoint (dedupAdjacent id (first :: rest)) = datasetRefs endpoint (first :: rest) :=
      distinctBy_congr Function.injective_id fun dataset => by simp only [List.mem_map, mem_dedupAdjacent_self]
    rw [dedupAdjacent] at datasets ⊢
    rw [unitedPairs, unitedPairs, datasets]
    split
    · exact alike
    · exact alike_dedupAfter alike rfl

theorem alike_foldl_unitedPairs (values : List (List (Fin count))) (alike : forest.Alike other) :
    UnionFind.Alike ((values.flatMap (unitedPairs endpoint)).foldl UnionFind.unite forest)
      (((values.map (dedupAdjacent id)).flatMap (unitedPairs endpoint)).foldl UnionFind.unite other) := by
  induction values generalizing forest other with
  | nil => exact alike
  | cons head rest ih =>
    rw [List.map_cons, List.flatMap_cons, List.flatMap_cons, List.foldl_append, List.foldl_append]
    exact ih (alike_unitedPairs alike)

/-- The endpoints of a key, each once. -/
theorem dedup_identityIndices (found : (identityIndices endpoint).get? key = some indices) :
    dedupAdjacent id indices = (List.finRange count).filter fun index => key ∈ identityKeys endpoint index := by
  have repeated : indices = (List.finRange count).flatMap fun index =>
      List.replicate ((identityKeys endpoint index).count key) index := by
    rw [((SortedMap.get?_grouped key indices).mp found).2, List.filter_flatMap, List.map_flatMap]
    apply List.flatMap_congr
    intro index _
    simp [List.filter_map, Function.comp_def, List.map_const', List.count_eq_length_filter, beq_eq_decide]
  rw [repeated, dedupAdjacent_replicate (List.nodup_finRange count)]
  apply List.filter_congr
  intro index _
  simp [List.count_eq_zero]

/-- What a key that two datasets have unites. -/
def isShared (endpoint : Fin count → CrossDatasetSemanticEndpointInput) (indices : List (Fin count)) : Bool :=
  2 ≤ (datasetRefs endpoint indices).length

theorem get?_sharedIndices : ((identityIndices endpoint).filterItems (isShared endpoint)).get? key = some indices ↔
    (identityIndices endpoint).get? key = some indices ∧ CrossesDatasets endpoint (List.finRange count) key := by
  rw [SortedMap.get?_filterItems, Option.filter_eq_some_iff]
  apply and_congr_right
  intro found
  rw [isShared, decide_eq_true_eq, crossesDatasets_iff found]

theorem unitedPairs_lone (alone : isShared endpoint indices = false) : unitedPairs endpoint indices = [] := by
  unfold unitedPairs
  exact if_pos (Nat.not_le.mp (of_decide_eq_false alone))

end Unions

section Alike

variable {digest : String → List UInt8} {count : Nat} {endpoint other : Fin count → CrossDatasetSemanticEndpointInput}

/-- The endpoints agree one by one, apart from the keys that a single dataset has. -/
structure SamePublicView (endpoint other : Fin count → CrossDatasetSemanticEndpointInput) : Prop where
  key : ∀ index, endpointKey (endpoint index) = endpointKey (other index)
  kind : ∀ index, (endpoint index).kind = (other index).kind
  label : ∀ index,
    comparableChineseLabel (endpoint index).displayLabel = comparableChineseLabel (other index).displayLabel
  provenance : ∀ index, (endpoint index).visibleProvenanceCount = (other index).visibleProvenanceCount
  identities : ∀ key, CrossesDatasets endpoint (List.finRange count) key ∨
    CrossesDatasets other (List.finRange count) key →
      ∀ index, key ∈ identityKeys endpoint index ↔ key ∈ identityKeys other index

theorem SamePublicView.ofSameView (alike : ∀ index, SameView (endpoint index) (other index)) :
    SamePublicView endpoint other where
  key index := (alike index).key
  kind index := (alike index).kind
  label index := (alike index).label
  provenance index := (alike index).provenance
  identities key _ index := (alike index).identities key

variable (alike : SamePublicView endpoint other)

include alike

theorem datasetId_congr (index : Fin count) : (endpoint index).datasetId = (other index).datasetId :=
  congrArg Prod.fst (alike.key index)

theorem trim_congr (index : Fin count) : trim (endpoint index).localNodeId = trim (other index).localNodeId :=
  congrArg Prod.snd (alike.key index)

theorem safeDisplayLabel_congr (index : Fin count) (kind : DatasetSemanticGraphNodeKind) :
    safeDisplayLabel (endpoint index).displayLabel kind = safeDisplayLabel (other index).displayLabel kind := by
  rw [safeDisplayLabel, safeDisplayLabel, alike.label index]

theorem datasetRefs_congr : datasetRefs endpoint = datasetRefs other := by
  funext indices
  simp only [datasetRefs, datasetId_congr alike]

/-- The keys of two datasets are the same ones. -/
theorem crossesDatasets_congr (indices : List (Fin count)) (key : String) :
    CrossesDatasets endpoint indices key ↔ CrossesDatasets other indices key := by
  have all {given : Fin count → CrossDatasetSemanticEndpointInput} (crosses : CrossesDatasets given indices key) :
      CrossesDatasets given (List.finRange count) key := by
    obtain ⟨first, _, second, _, both⟩ := crosses
    exact ⟨first, List.mem_finRange first, second, List.mem_finRange second, both⟩
  constructor
  · intro crosses
    have same := alike.identities key (.inl (all crosses))
    obtain ⟨first, inside, second, within, given, also, apart⟩ := crosses
    rw [datasetId_congr alike, datasetId_congr alike] at apart
    exact ⟨first, inside, second, within, (same first).mp given, (same second).mp also, apart⟩
  · intro crosses
    have same := alike.identities key (.inr (all crosses))
    obtain ⟨first, inside, second, within, given, also, apart⟩ := crosses
    rw [← datasetId_congr alike, ← datasetId_congr alike] at apart
    exact ⟨first, inside, second, within, (same first).mpr given, (same second).mpr also, apart⟩

theorem identityDigests_congr (indices : List (Fin count)) :
    identityDigests digest endpoint indices = identityDigests digest other indices := by
  have same : ∀ text, text ∈ identityDigests digest endpoint indices ↔ text ∈ identityDigests digest other indices := by
    intro text
    simp only [mem_identityDigests, crossesDatasets_congr alike]
  refine distinctBy_congr Function.injective_id fun text => ?_
  exact mem_distinctBy_self.symm.trans ((same text).trans mem_distinctBy_self)

theorem sharedIndices_congr :
    ((identityIndices endpoint).filterItems (isShared endpoint)).values.map (dedupAdjacent id) =
      ((identityIndices other).filterItems (isShared other)).values.map (dedupAdjacent id) := by
  rw [← SortedMap.values_mapItems, ← SortedMap.values_mapItems]
  congr 1
  refine SortedMap.ext_get? fun key => ?_
  rw [SortedMap.get?_mapItems, SortedMap.get?_mapItems]
  cases found : ((identityIndices endpoint).filterItems (isShared endpoint)).get? key with
  | none =>
    cases also : ((identityIndices other).filterItems (isShared other)).get? key with
    | none => rfl
    | some others =>
      obtain ⟨_, crosses⟩ := get?_sharedIndices.mp also
      have shared := (crossesDatasets_congr alike _ key).mpr crosses
      obtain ⟨first, _, _, _, given, _⟩ := id shared
      obtain ⟨indices, listed⟩ := identityIndices_isSome given
      rw [get?_sharedIndices.mpr ⟨listed, shared⟩] at found
      cases found
  | some indices =>
    obtain ⟨listed, crosses⟩ := get?_sharedIndices.mp found
    have shared := (crossesDatasets_congr alike _ key).mp crosses
    obtain ⟨first, _, _, _, given, _⟩ := id shared
    obtain ⟨others, known⟩ := identityIndices_isSome given
    rw [get?_sharedIndices.mpr ⟨known, shared⟩, Option.map_some, Option.map_some, dedup_identityIndices listed,
      dedup_identityIndices known]
    simp only [alike.identities key (.inl crosses)]

/-- The forests differ at most in what was compressed. -/
theorem unitedIdentities_alike : (unitedIdentities endpoint).Alike (unitedIdentities other) := by
  have start : UnionFind.Alike (UnionFind.start : UnionFind count) .start := ⟨rfl, rfl⟩
  have pairs : unitedPairs endpoint = unitedPairs other := by
    funext indices
    simp only [unitedPairs, datasetRefs_congr alike]
  have first := @alike_foldl_unitedPairs _ endpoint _ _
    ((identityIndices endpoint).filterItems (isShared endpoint)).values start
  have second := @alike_foldl_unitedPairs _ other _ _
    ((identityIndices other).filterItems (isShared other)).values start
  rw [SortedMap.flatMap_filterItems fun _ => unitedPairs_lone] at first second
  rw [sharedIndices_congr alike] at first
  refine first.trans ?_
  rw [pairs]
  exact second.symm

theorem components_congr : components endpoint = components other := by
  simp only [components, foldl_findNext, (unitedIdentities_alike alike).root]

theorem placements_congr : placements digest endpoint = placements digest other := by
  have labels : ∀ indices kind, preferredDisplayLabel endpoint indices kind = preferredDisplayLabel other indices kind := by
    intro indices kind
    simp only [preferredDisplayLabel, safeDisplayLabel_congr alike]
  have shared : sharedNode digest endpoint = sharedNode digest other := by
    funext first indices
    simp only [sharedNode, sharedNodeId, identityDigests_congr alike, labels, datasetRefs_congr alike, alike.kind,
      alike.provenance]
  have alone : scopedNode digest endpoint = scopedNode digest other := by
    funext index
    simp only [scopedNode, datasetId_congr alike, trim_congr alike, safeDisplayLabel_congr alike, alike.kind,
      alike.provenance]
  have component : componentPlacements digest endpoint = componentPlacements digest other := by
    funext indices
    cases indices with
    | nil => rfl
    | cons first rest => simp only [componentPlacements, datasetRefs_congr alike, shared, alone]
  rw [placements, placements, components_congr alike, component]

theorem endpointNodeId_congr : endpointNodeId digest endpoint = endpointNodeId digest other := by
  funext index
  rw [endpointNodeId, endpointNodeId, endpointNodeIds, endpointNodeIds, placements_congr alike]

theorem nodesById_congr : nodesById digest endpoint = nodesById digest other := by
  rw [nodesById, nodesById, placements_congr alike]

theorem statedEdges_congr (relations : List CrossDatasetExplicitRelationInput) (enableLabelSimilarity : Bool) :
    statedEdges digest endpoint relations enableLabelSimilarity =
      statedEdges digest other relations enableLabelSimilarity := by
  have refs : nodeDatasetRefs digest endpoint = nodeDatasetRefs digest other := by
    funext id
    rw [nodeDatasetRefs, nodeDatasetRefs, nodesById_congr alike]
  have build : buildEdge digest endpoint = buildEdge digest other := by
    funext sourceId targetId relationType label relationSemantics evidenceClass confidence reason
    rw [buildEdge, buildEdge, refs]
  have lookup : endpointLookup endpoint = endpointLookup other := by
    simp only [endpointLookup, alike.key]
  have explicit : explicitEdge digest endpoint = explicitEdge digest other := by
    funext relation
    simp only [explicitEdge, lookup, build, endpointNodeId_congr alike]
  have similar : labelEdge digest endpoint = labelEdge digest other := by
    funext leftIndex rightIndex
    simp only [labelEdge, build, endpointNodeId_congr alike, datasetId_congr alike, alike.kind, alike.label]
  rw [statedEdges, statedEdges, labelEdges, labelEdges, explicit, similar]

end Alike

section Graph

variable {digest : String → List UInt8} {count : Nat} {endpoint other : Fin count → CrossDatasetSemanticEndpointInput}
  {relations others : List CrossDatasetExplicitRelationInput} {enableLabelSimilarity : Bool}

/-- The edges depend on the relations as a set. -/
theorem edgeCandidates_congr (same : ∀ relation, relation ∈ relations ↔ relation ∈ others) :
    edgeCandidates digest endpoint relations enableLabelSimilarity =
      edgeCandidates digest endpoint others enableLabelSimilarity := by
  refine SortedMap.ext_get? fun key => ?_
  have members : ∀ edge, edge ∈ contributions digest endpoint relations enableLabelSimilarity key ↔
      edge ∈ contributions digest endpoint others enableLabelSimilarity key := by
    intro edge
    simp only [mem_contributions, statedEdges, List.mem_append, List.mem_filterMap, same]
  rw [get?_edgeCandidates, get?_edgeCandidates]
  cases shape : contributions digest endpoint relations enableLabelSimilarity key with
  | nil =>
    have none : contributions digest endpoint others enableLabelSimilarity key = [] := by
      rw [List.eq_nil_iff_forall_not_mem]
      intro edge inside
      rw [← members, shape] at inside
      cases inside
    rw [none]
  | cons first rest =>
    obtain ⟨head, more, shaped⟩ := List.exists_cons_of_ne_nil
      (List.ne_nil_of_mem ((members first).mp (by simp [shape])))
    have firstStated := mem_contributions.mp (by rw [shape]; exact List.mem_cons_self :
      first ∈ contributions digest endpoint relations enableLabelSimilarity key)
    have headStated := mem_contributions.mp (by rw [shaped]; exact List.mem_cons_self :
      head ∈ contributions digest endpoint others enableLabelSimilarity key)
    have bare := (isStated_of_mem firstStated.1).bareEdge_eq (isStated_of_mem headStated.1)
      (firstStated.2.trans headStated.2.symm)
    rw [shape, shaped] at members
    rw [shaped, List.head?_cons, List.head?_cons, Option.map_some, Option.map_some, mergedEdge_congr members bare]

/-- Inputs that agree in what the graph takes from them have the same graph. -/
theorem graphOver_congr {input changed : CrossDatasetSemanticMatchInput} (dropped : Nat)
    (alike : SamePublicView endpoint other)
    (relations : ∀ relation, relation ∈ input.explicitRelations ↔ relation ∈ changed.explicitRelations)
    (datasets : boundedDatasets input = boundedDatasets changed) (root : input.rootDatasetId = changed.rootDatasetId)
    (options : input.options = changed.options) (limits : input.limits = changed.limits)
    (stale : input.stale = changed.stale) :
    graphOver digest input endpoint dropped = graphOver digest changed other dropped := by
  have nodes : allNodes digest endpoint = allNodes digest other := by
    rw [allNodes, allNodes, nodesById_congr alike]
  have candidates : edgeCandidates digest endpoint input.explicitRelations input.options.enableLabelSimilarity =
      edgeCandidates digest other changed.explicitRelations changed.options.enableLabelSimilarity := by
    rw [edgeCandidates_congr relations, options, edgeCandidates, edgeCandidates, statedEdges_congr alike]
  have retained : retainedEdges digest endpoint input.explicitRelations input.options.enableLabelSimilarity =
      retainedEdges digest other changed.explicitRelations changed.options.enableLabelSimilarity := by
    funext kept
    rw [retainedEdges, retainedEdges, candidates]
  simp only [graphOver, nodes, candidates, retained, datasets, root, limits, stale]

end Graph

end DataMax.SemanticGraph
