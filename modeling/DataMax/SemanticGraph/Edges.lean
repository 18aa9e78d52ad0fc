import DataMax.SemanticGraph.Folding

/-! An edge of the graph is put together from all the relations and label matches
that state it. -/

namespace DataMax.SemanticGraph

open Domain Library SemanticUnderstanding

section Merging

/-- The edge without its support, which is what merging leaves as it is. -/
def bareEdge (edge : DatasetSemanticGraphEdge) : DatasetSemanticGraphEdge :=
  { edge with supportingDatasetIds := [], crossDataset := false }

/-- The edge with the support of all the edges. -/
def mergedEdge (edges : List DatasetSemanticGraphEdge) (edge : DatasetSemanticGraphEdge) : DatasetSemanticGraphEdge :=
  { edge with
    supportingDatasetIds := distinctBy id (edges.flatMap (·.supportingDatasetIds))
    crossDataset := edges.any (·.crossDataset) }

variable {edges rest : List DatasetSemanticGraphEdge} {edge other : DatasetSemanticGraphEdge}

theorem confidence_of_bareEdge (same : bareEdge edge = bareEdge other) : edge.confidence = other.confidence := by
  have fields := congrArg DatasetSemanticGraphEdge.confidence same
  exact fields

theorem edgeKey_mergedEdge : edgeKey (mergedEdge edges edge) = edgeKey edge := rfl

/-- Merging one more edge of the same facts. -/
theorem mergeEdge_mergedEdge (same : bareEdge other = bareEdge edge) :
    mergeEdge (mergedEdge edges edge) other = mergedEdge (edges ++ [other]) edge := by
  have supporters : distinctBy id (distinctBy id (edges.flatMap (·.supportingDatasetIds)) ++ other.supportingDatasetIds) =
      distinctBy id (edges.flatMap (·.supportingDatasetIds) ++ other.supportingDatasetIds) :=
    distinctBy_congr Function.injective_id fun dataset => by simp
  simp [mergeEdge, mergedEdge, supporters, confidence_of_bareEdge same]

theorem foldl_mergeEdge (same : ∀ other ∈ rest, bareEdge other = bareEdge edge) :
    rest.foldl mergeEdge (mergedEdge edges edge) = mergedEdge (edges ++ rest) edge := by
  induction rest generalizing edges with
  | nil => simp
  | cons head rest ih =>
    obtain ⟨headSame, restSame⟩ := List.forall_mem_cons.mp same
    rw [List.foldl_cons, mergeEdge_mergedEdge headSame, ih restSame]
    simp

/-- Edges of the same facts are merged into one that has the support of all. -/
theorem reduce_mergeEdge (same : ∀ other ∈ edge :: rest, bareEdge other = bareEdge edge)
    (own : edge = mergedEdge [edge] edge) : SortedMap.reduce mergeEdge (edge :: rest) =
      some (mergedEdge (edge :: rest) edge) := by
  rw [SortedMap.reduce, Option.some.injEq]
  have merged := @foldl_mergeEdge [edge] rest edge (List.forall_mem_cons.mp same).2
  rwa [← own] at merged

/-- The merged edge depends on the edges as a set. -/
theorem mergedEdge_congr {others : List DatasetSemanticGraphEdge} (same : ∀ item, item ∈ edges ↔ item ∈ others)
    (bare : bareEdge edge = bareEdge other) : mergedEdge edges edge = mergedEdge others other := by
  have supporters : distinctBy id (edges.flatMap (·.supportingDatasetIds)) =
      distinctBy id (others.flatMap (·.supportingDatasetIds)) :=
    distinctBy_congr Function.injective_id fun dataset => by simp [same]
  have crosses : edges.any (·.crossDataset) = others.any (·.crossDataset) := by
    rw [Bool.eq_iff_iff, List.any_eq_true, List.any_eq_true]
    simp [same]
  have fields : ∀ item : DatasetSemanticGraphEdge, mergedEdge edges item =
      { bareEdge item with
        supportingDatasetIds := distinctBy id (edges.flatMap (·.supportingDatasetIds))
        crossDataset := edges.any (·.crossDataset) } := fun _ => rfl
  rw [fields, bare, supporters, crosses]
  rfl

end Merging

section Kinds

theorem relationType_injective : Function.Injective CrossDatasetExplicitRelationKind.relationType := by
  intro kind other same
  cases kind <;> cases other <;> first | rfl | exact absurd same (by decide)

theorem relationType_ne_label (kind : CrossDatasetExplicitRelationKind) : kind.relationType ≠ "label_similarity" := by
  cases kind <;> decide

theorem evidenceRank_injective : Function.Injective evidenceRank := by
  intro evidenceClass other same
  cases evidenceClass <;> cases other <;> first | rfl | exact absurd same (by decide)

theorem evidenceName_injective : Function.Injective evidenceName := by
  intro evidenceClass other same
  cases evidenceClass <;> cases other <;> first | rfl | exact absurd same (by decide)

/-- A capped class is no stronger than what is allowed. -/
theorem capSemanticEvidenceClass_le (requested strongestAllowed : SemanticEvidenceClass) :
    evidenceRank strongestAllowed ≤ evidenceRank (capSemanticEvidenceClass requested strongestAllowed) := by
  rw [capSemanticEvidenceClass]
  split
  · exact le_rfl
  · exact Nat.not_lt.mp ‹_›

end Kinds

section Stated

variable (digest : String → List UInt8) {count : Nat} (endpoint : Fin count → CrossDatasetSemanticEndpointInput)

/-- The facts of an explicit relation between two nodes. -/
def explicitFacts (kind : CrossDatasetExplicitRelationKind) (evidenceClass : SemanticEvidenceClass)
    (sourceId targetId : String) : DatasetSemanticGraphEdge :=
  bareEdge (buildEdge digest endpoint sourceId targetId kind.relationType (kind.label evidenceClass)
    kind.relationSemantics evidenceClass (kind.confidence evidenceClass) (kind.reason evidenceClass))

def labelFacts (sourceId targetId : String) : DatasetSemanticGraphEdge :=
  bareEdge (buildEdge digest endpoint sourceId targetId "label_similarity" "名称相近" .similarity .inferred
    (.ofRat (45 / 100)) "两个节点使用相同中文名称，仅表示可能相关，不代表同一实体。")

/-- What every stated edge is like. -/
structure IsStated (edge : DatasetSemanticGraphEdge) : Prop where
  facts : (∃ kind : CrossDatasetExplicitRelationKind,
      evidenceRank kind.strongestEvidenceClass ≤ evidenceRank edge.evidenceClass ∧
        bareEdge edge = explicitFacts digest endpoint kind edge.evidenceClass edge.sourceId edge.targetId) ∨
    bareEdge edge = labelFacts digest endpoint edge.sourceId edge.targetId
  joins : edge.sourceId ≠ edge.targetId
  source : ∃ index, edge.sourceId = endpointNodeId digest endpoint index
  target : ∃ index, edge.targetId = endpointNodeId digest endpoint index
  listed : ∀ dataset ∈ edge.supportingDatasetIds, ∃ index, (endpoint index).datasetId = dataset
  supports : ∃ datasets, edge.supportingDatasetIds = distinctBy id datasets
  crosses : edge.crossDataset = true ↔ 2 ≤ edge.supportingDatasetIds.length

variable {digest endpoint} {index : Fin count} {relation : CrossDatasetExplicitRelationInput}
  {edge other : DatasetSemanticGraphEdge}

theorem endpointLookup_key {key : UuidBytes × String} (found : (endpointLookup endpoint).get? key = some index) :
    endpointKey (endpoint index) = key := by
  have listed := SortedMap.mem_of_get?_ofList found
  simp only [List.mem_map, Prod.mk.injEq] at listed
  obtain ⟨place, _, same, rfl⟩ := listed
  exact same

theorem mem_nodeDatasetRefs {id : String} {dataset : UuidBytes} (inside : dataset ∈ nodeDatasetRefs digest endpoint id) :
    ∃ index, (endpoint index).datasetId = dataset := by
  rw [nodeDatasetRefs] at inside
  cases found : (nodesById digest endpoint).get? id with
  | none => simp [found] at inside
  | some node =>
    have kept : node ∈ allNodes digest endpoint := mem_sortBy.mpr (SortedMap.mem_values found)
    obtain ⟨index, rfl⟩ := of_mem_allNodes kept
    rw [found, Option.map_some, Option.getD_some, nodeOf_datasetRefs, mem_datasetRefs] at inside
    obtain ⟨index, _, same⟩ := inside
    exact ⟨index, same⟩

/-- A relation links the nodes of the two endpoints that it names. -/
theorem explicitEdge_cases (stated : explicitEdge digest endpoint relation = some edge) :
    ∃ source target evidenceClass, (endpoint source).datasetId = relation.sourceDatasetId ∧
      (endpoint target).datasetId = relation.targetDatasetId ∧
      endpointNodeId digest endpoint source ≠ endpointNodeId digest endpoint target ∧
      evidenceClass = capSemanticEvidenceClass relation.evidenceClass relation.kind.strongestEvidenceClass ∧
      edge = { buildEdge digest endpoint (endpointNodeId digest endpoint source) (endpointNodeId digest endpoint target)
          relation.kind.relationType (relation.kind.label evidenceClass) relation.kind.relationSemantics evidenceClass
          (relation.kind.confidence evidenceClass) (relation.kind.reason evidenceClass) with
        supportingDatasetIds := distinctBy id [relation.sourceDatasetId, relation.targetDatasetId]
        crossDataset := 2 ≤ (distinctBy id [relation.sourceDatasetId, relation.targetDatasetId]).length } := by
  rw [explicitEdge] at stated
  split at stated
  · rename_i sourceIndex targetIndex sourceFound targetFound
    dsimp only at stated
    split at stated
    · cases stated
    · rename_i apart
      exact ⟨sourceIndex, targetIndex, _, congrArg Prod.fst (endpointLookup_key sourceFound),
        congrArg Prod.fst (endpointLookup_key targetFound), apart, rfl, (Option.some.inj stated).symm⟩
  · cases stated

theorem explicitEdge_isStated (stated : explicitEdge digest endpoint relation = some edge) :
    IsStated digest endpoint edge := by
  obtain ⟨source, target, evidenceClass, sourceDataset, targetDataset, apart, capped, rfl⟩ := explicitEdge_cases stated
  constructor
  case facts =>
    refine .inl ⟨relation.kind, ?_, ?_⟩
    · simp only [buildEdge, capped]
      exact capSemanticEvidenceClass_le _ _
    · simp only [explicitFacts, bareEdge, buildEdge]
  case joins => simpa only [buildEdge] using apart
  case source => exact ⟨source, by simp only [buildEdge]⟩
  case target => exact ⟨target, by simp only [buildEdge]⟩
  case listed =>
    intro dataset inside
    have ends : dataset = relation.sourceDatasetId ∨ dataset = relation.targetDatasetId := by simpa using inside
    rcases ends with rfl | rfl
    · exact ⟨source, sourceDataset⟩
    · exact ⟨target, targetDataset⟩
  case supports => exact ⟨[relation.sourceDatasetId, relation.targetDatasetId], rfl⟩
  case crosses => simp only [decide_eq_true_eq]

theorem canonicalNodePair_cases (left right : String) :
    canonicalNodePair left right = (left, right) ∨ canonicalNodePair left right = (right, left) := by
  rw [canonicalNodePair]
  split
  · exact .inl rfl
  · exact .inr rfl

/-- A match links the nodes of its two endpoints. -/
theorem labelEdge_cases {leftIndex rightIndex : Fin count}
    (stated : labelEdge digest endpoint leftIndex rightIndex = some edge) :
    ∃ source target, endpointNodeId digest endpoint source ≠ endpointNodeId digest endpoint target ∧
      edge = buildEdge digest endpoint (endpointNodeId digest endpoint source) (endpointNodeId digest endpoint target)
        "label_similarity" "名称相近" .similarity (capSemanticEvidenceClass .inferred .inferred) (.ofRat (45 / 100))
        "两个节点使用相同中文名称，仅表示可能相关，不代表同一实体。" := by
  rw [labelEdge] at stated
  dsimp only at stated
  split at stated
  · cases stated
  · split at stated
    · split at stated
      · cases stated
      · rename_i apart
        have built := (Option.some.inj stated).symm
        rcases canonicalNodePair_cases (endpointNodeId digest endpoint leftIndex)
            (endpointNodeId digest endpoint rightIndex) with pair | pair
        · simp only [pair] at built apart
          exact ⟨leftIndex, rightIndex, fun same => apart (.inr same), built⟩
        · simp only [pair] at built apart
          exact ⟨rightIndex, leftIndex, fun same => apart (.inr same), built⟩
    · cases stated

theorem labelEdge_isStated {leftIndex rightIndex : Fin count}
    (stated : labelEdge digest endpoint leftIndex rightIndex = some edge) : IsStated digest endpoint edge := by
  obtain ⟨source, target, apart, rfl⟩ := labelEdge_cases stated
  have capped : capSemanticEvidenceClass .inferred .inferred = .inferred := rfl
  rw [capped]
  constructor
  case facts => exact .inr (by simp only [labelFacts, bareEdge, buildEdge])
  case joins => simpa only [buildEdge] using apart
  case source => exact ⟨source, by simp only [buildEdge]⟩
  case target => exact ⟨target, by simp only [buildEdge]⟩
  case listed =>
    intro dataset inside
    have support : dataset ∈ nodeDatasetRefs digest endpoint (endpointNodeId digest endpoint source) ∨
        dataset ∈ nodeDatasetRefs digest endpoint (endpointNodeId digest endpoint target) := by
      simpa [buildEdge] using inside
    exact support.elim mem_nodeDatasetRefs mem_nodeDatasetRefs
  case supports =>
    exact ⟨nodeDatasetRefs digest endpoint (endpointNodeId digest endpoint source) ++
      nodeDatasetRefs digest endpoint (endpointNodeId digest endpoint target), by simp only [buildEdge]⟩
  case crosses => simp only [buildEdge, decide_eq_true_eq]

variable {relations : List CrossDatasetExplicitRelationInput} {enableLabelSimilarity : Bool}

theorem isStated_of_mem (inside : edge ∈ statedEdges digest endpoint relations enableLabelSimilarity) :
    IsStated digest endpoint edge := by
  rw [statedEdges, List.mem_append] at inside
  rcases inside with explicit | similar
  · obtain ⟨relation, _, stated⟩ := List.mem_filterMap.mp explicit
    exact explicitEdge_isStated stated
  · split at similar
    · obtain ⟨leftIndex, _, paired⟩ := List.mem_flatMap.mp similar
      obtain ⟨rightIndex, _, stated⟩ := List.mem_filterMap.mp paired
      exact labelEdge_isStated stated
    · cases similar

/-- The key of a stated edge tells all its facts. -/
theorem IsStated.bareEdge_eq (stated : IsStated digest endpoint edge) (also : IsStated digest endpoint other)
    (same : edgeKey edge = edgeKey other) : bareEdge edge = bareEdge other := by
  simp only [edgeKey, Prod.mk.injEq] at same
  obtain ⟨sources, targets, types, ranks⟩ := same
  have classes := evidenceRank_injective ranks
  have typed : ∀ {edge facts : DatasetSemanticGraphEdge}, bareEdge edge = facts →
      edge.relationType = facts.relationType := by
    rintro edge _ rfl
    rfl
  rcases stated.facts with ⟨kind, _, facts⟩ | facts
  · rcases also.facts with ⟨otherKind, _, otherFacts⟩ | otherFacts
    · have kinds : kind = otherKind :=
        relationType_injective (((typed facts).symm.trans types).trans (typed otherFacts))
      rw [facts, otherFacts, kinds, classes, sources, targets]
    · exact False.elim (relationType_ne_label kind (((typed facts).symm.trans types).trans (typed otherFacts)))
  · rcases also.facts with ⟨otherKind, _, otherFacts⟩ | otherFacts
    · exact False.elim (relationType_ne_label otherKind
        (((typed otherFacts).symm.trans types.symm).trans (typed facts)))
    · rw [facts, otherFacts, sources, targets]

end Stated

section Candidates

variable {digest : String → List UInt8} {count : Nat} {endpoint : Fin count → CrossDatasetSemanticEndpointInput}
  {relations : List CrossDatasetExplicitRelationInput} {enableLabelSimilarity : Bool}
  {edge : DatasetSemanticGraphEdge} {key : String × String × String × Nat}

variable (digest endpoint relations enableLabelSimilarity) in
/-- The edges that are merged under one key. -/
def contributions (key : String × String × String × Nat) : List DatasetSemanticGraphEdge :=
  (statedEdges digest endpoint relations enableLabelSimilarity).filter fun edge => edgeKey edge = key

theorem mem_contributions : edge ∈ contributions digest endpoint relations enableLabelSimilarity key ↔
    edge ∈ statedEdges digest endpoint relations enableLabelSimilarity ∧ edgeKey edge = key := by
  simp [contributions]

theorem get?_edgeCandidates : (edgeCandidates digest endpoint relations enableLabelSimilarity).get? key =
    ((contributions digest endpoint relations enableLabelSimilarity key).head?).map
      (mergedEdge (contributions digest endpoint relations enableLabelSimilarity key)) := by
  have listed : (((statedEdges digest endpoint relations enableLabelSimilarity).map fun edge =>
      (edgeKey edge, edge)).filter fun entry => decide (entry.1 = key)).map (·.2) =
        contributions digest endpoint relations enableLabelSimilarity key := by
    rw [List.filter_map, List.map_map]
    exact List.map_id _
  rw [edgeCandidates, SortedMap.get?_merged, listed]
  cases shape : contributions digest endpoint relations enableLabelSimilarity key with
  | nil => rfl
  | cons head rest =>
    have stated : ∀ item ∈ head :: rest, IsStated digest endpoint item ∧ edgeKey item = key := by
      intro item inside
      rw [← shape, mem_contributions] at inside
      exact ⟨isStated_of_mem inside.1, inside.2⟩
    have first := stated head List.mem_cons_self
    have own : head = mergedEdge [head] head := by
      obtain ⟨datasets, supporters⟩ := first.1.supports
      have kept : distinctBy id head.supportingDatasetIds = head.supportingDatasetIds := by
        rw [supporters]
        exact distinctBy_congr Function.injective_id fun dataset => by simp
      simp [mergedEdge, kept]
    rw [reduce_mergeEdge _ own]
    · rfl
    · intro other inside
      have later := stated other inside
      exact later.1.bareEdge_eq first.1 (later.2.trans first.2.symm)

/-- Every edge that is put together starts from a stated one. -/
theorem of_mem_edgeCandidates (inside : edge ∈ (edgeCandidates digest endpoint relations enableLabelSimilarity).values) :
    ∃ stated ∈ statedEdges digest endpoint relations enableLabelSimilarity,
      edge = mergedEdge (contributions digest endpoint relations enableLabelSimilarity (edgeKey stated)) stated := by
  obtain ⟨key, found⟩ := SortedMap.mem_values_iff.mp inside
  rw [get?_edgeCandidates, Option.map_eq_some_iff] at found
  obtain ⟨stated, first, rfl⟩ := found
  obtain ⟨listed, rfl⟩ := mem_contributions.mp (List.mem_of_mem_head? first)
  exact ⟨stated, listed, rfl⟩

end Candidates

end DataMax.SemanticGraph
