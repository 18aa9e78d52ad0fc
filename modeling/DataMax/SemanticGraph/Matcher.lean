import DataMax.Library.Selection
import DataMax.Library.UnionFind
import DataMax.SemanticGraph.Records

/-! Endpoints of several datasets are folded into nodes by exact identities, and
relations between them into edges. -/

namespace DataMax.SemanticGraph

open Domain Library SemanticUnderstanding

section Identities

/-- Blank and overlong parts make no identity. -/
def boundedIdentityParts (start : String) (parts : List String) : Option String :=
  if parts.any fun part => trim part = "" || maxInternalIdentityPartLength < (trim part).utf8ByteSize then none
  else some (parts.foldl (fun key part => key ++ "\x00" ++ trim part) start)

def exactIdentityKey : DatasetSemanticGraphNodeKind → CrossDatasetCanonicalIdentity → Option String
  | .document, .sharedDocumentMembership sharedDocumentId =>
    boundedIdentityParts "shared_document" [sharedDocumentId]
  | .document, .canonicalDocument canonicalDocumentId =>
    boundedIdentityParts "canonical_document" [canonicalDocumentId]
  | .document, .exactContent contentIdentity => boundedIdentityParts "exact_content" [contentIdentity]
  | .field, .exactSourceField sourceSystemKey sourceSchemaKey sourceObjectKey sourceFieldKey =>
    boundedIdentityParts "exact_source_field" [sourceSystemKey, sourceSchemaKey, sourceObjectKey, sourceFieldKey]
  | .concept, .confirmedConcept conceptId => boundedIdentityParts "confirmed_concept" [conceptId]
  | _, _ => none

end Identities

section Labels

def isCjk (char : Char) : Bool :=
  let code := char.toNat
  (0x3400 ≤ code && code ≤ 0x4DBF) || (0x4E00 ≤ code && code ≤ 0x9FFF) || (0xF900 ≤ code && code ≤ 0xFAFF) ||
    (0x20000 ≤ code && code ≤ 0x2FA1F)

def comparableChineseLabel (value : String) : Option String :=
  let compact := " ".intercalate (words value)
  if compact = "" || (compact.toList.filter isCjk).length < 2 || compact.toList.any Char.isAlpha then none
  else some (.ofList (compact.toList.take 24))

def safeDisplayLabel (value : String) (kind : DatasetSemanticGraphNodeKind) : String :=
  (comparableChineseLabel value).getD kind.fallbackLabel

end Labels

-- `digest` gives the first sixteen bytes of a text's SHA-256.
variable (digest : String → List UInt8)

section Ids

def semanticId (kind : String) (parts : List String) : String := stableSemanticId (fun text => hex (digest text)) kind parts

/-- `split_once(':')`, or the whole text. -/
def afterColon (text : String) : String :=
  match text.toList.dropWhile (· ≠ ':') with
  | [] => text
  | _ :: rest => .ofList rest

def isAsciiHexdigit (char : Char) : Bool :=
  char.isDigit || ('a' ≤ char && char ≤ 'f') || ('A' ≤ char && char ≤ 'F')

/-- Ids that tell nothing about their source are kept. -/
def isSafeLocalNodeId (value : String) : Bool :=
  let lower := asciiLower value
  let semanticNamespace := ["dataset:", "document:", "doc:", "object:", "field:", "concept:", "structure:"].any
    (startsWith lower)
  let hashLike := 24 ≤ value.utf8ByteSize && value.toList.all isAsciiHexdigit
  let namedSecret := ["sha256", "hmac", "content_identity", "source_system"].any (contains lower)
  value ≠ "" && value.utf8ByteSize ≤ 128 && semanticNamespace &&
    value.toList.all (fun char => char.isAlphanum || char ∈ ['_', ':', '-']) && !hashLike && !namedSecret

def safeLocalNodeId (datasetId : UuidBytes) (localNodeId : String) : String :=
  let value := trim localNodeId
  if isSafeLocalNodeId value then value
  else "opaque:" ++ afterColon (semanticId digest "endpoint" [datasetId.text, value])

def scopedSemanticEndpointId (datasetId : UuidBytes) (localNodeId : String) : String :=
  "d:" ++ datasetId.text ++ ":" ++ safeLocalNodeId digest datasetId localNodeId

def canonicalNodePair (left right : String) : String × String :=
  if left ≤ right then (left, right) else (right, left)

end Ids

section Input

variable (input : CrossDatasetSemanticMatchInput)

def uniqueDatasets : SortedMap UuidBytes DatasetSemanticGraphDataset :=
  .keyed DatasetSemanticGraphDataset.id input.datasets

/-- The root comes first, the others follow in the order of their ids. -/
def boundedDatasets : List DatasetSemanticGraphDataset × Nat :=
  let unique := uniqueDatasets input
  let root := (unique.get? input.rootDatasetId).getD ⟨input.rootDatasetId, "当前数据集", input.stale⟩
  let others := (unique.erase input.rootDatasetId).values
  let limit := max 1 (min input.limits.maxDatasets absoluteMaxDatasets)
  let datasets := root :: others.take (limit - 1)
  (datasets, others.length + 1 - datasets.length)

def isIncluded (endpoint : CrossDatasetSemanticEndpointInput) : Bool :=
  endpoint.datasetId ∈ (boundedDatasets input).1.map (·.id) && trim endpoint.localNodeId ≠ ""

def endpointKey (endpoint : CrossDatasetSemanticEndpointInput) : UuidBytes × String :=
  (endpoint.datasetId, trim endpoint.localNodeId)

def endpointOrder (left right : CrossDatasetSemanticEndpointInput) : Ordering :=
  (compare left.datasetId right.datasetId).then ((compare (trim left.localNodeId) (trim right.localNodeId)).then
    (compare left.kind right.kind))

/-- Of the endpoints with one id the first of the least kind stays. -/
def uniqueEndpoints : List CrossDatasetSemanticEndpointInput :=
  dedupAdjacent endpointKey (sortBy endpointOrder (input.endpoints.filter (isIncluded input)))

def boundedEndpoints : List CrossDatasetSemanticEndpointInput := (uniqueEndpoints input).take absoluteMaxEndpoints

end Input

section Folding

variable {count : Nat} (endpoint : Fin count → CrossDatasetSemanticEndpointInput)

def identityKeys (index : Fin count) : List String :=
  (endpoint index).identities.filterMap (exactIdentityKey (endpoint index).kind)

/-- Which endpoints give each identity key. -/
def identityIndices : SortedMap String (List (Fin count)) :=
  .grouped ((List.finRange count).flatMap fun index => (identityKeys endpoint index).map fun key => (key, index))

def endpointIdentityKeys (index : Fin count) : List String :=
  dedupAdjacent id (sortBy compare (identityKeys endpoint index))

def datasetRefs (indices : List (Fin count)) : List UuidBytes :=
  distinctBy id (indices.map fun index => (endpoint index).datasetId)

/-- An identity that two datasets have unites all its endpoints. -/
def unitedPairs (indices : List (Fin count)) : List (Fin count × Fin count) :=
  if (datasetRefs endpoint indices).length < 2 then []
  else match indices with
    | [] => []
    | first :: rest => rest.map fun index => (first, index)

def unitedIdentities : UnionFind count :=
  ((identityIndices endpoint).values.flatMap (unitedPairs endpoint)).foldl UnionFind.unite .start

/-- Each `find` leaves the forest that it compressed to the next. -/
def findNext (state : List (Fin count × Fin count) × UnionFind count) (index : Fin count) :
    List (Fin count × Fin count) × UnionFind count :=
  let found := state.2.find index
  (state.1 ++ [(found.1, index)], found.2)

def components : SortedMap (Fin count) (List (Fin count)) :=
  .grouped ((List.finRange count).foldl findNext ([], unitedIdentities endpoint)).1

/-- The datasets of the endpoints that give each identity key. -/
def identityDatasetRefs (indices : List (Fin count)) : SortedMap String (List UuidBytes) :=
  .grouped (indices.flatMap fun index =>
    (endpointIdentityKeys endpoint index).map fun key => (key, (endpoint index).datasetId))

def identityDigests (indices : List (Fin count)) : List String :=
  distinctBy id (((identityDatasetRefs endpoint indices).entries.filter fun entry =>
    2 ≤ (distinctBy id entry.2).length).map fun entry => semanticId digest "identity" [entry.1])

def sharedNodeId (kind : DatasetSemanticGraphNodeKind) (indices : List (Fin count)) : String :=
  "shared:" ++ kind.sharedIdKind ++ ":" ++
    afterColon (semanticId digest "shared" (identityDigests digest endpoint indices))

/-- The most frequent label, of several the least. -/
def preferredDisplayLabel (indices : List (Fin count)) (kind : DatasetSemanticGraphNodeKind) : String :=
  let counts : SortedMap String Nat := .merged (· + ·) (indices.map fun index =>
    (safeDisplayLabel (endpoint index).displayLabel kind, 1))
  let better := fun left right : String × Nat => (compare right.2 left.2).then (compare left.1 right.1)
  ((leastBy better counts.entries).map (·.1)).getD kind.fallbackLabel

/-- `saturating_add` -/
def saturatingAdd (left right : UInt64) : UInt64 := .ofNat (min (left.toNat + right.toNat) (2 ^ 64 - 1))

def sharedNode (first : Fin count) (indices : List (Fin count)) : DatasetSemanticGraphNode where
  id := sharedNodeId digest endpoint (endpoint first).kind indices
  kind := (endpoint first).kind
  displayLabel := preferredDisplayLabel endpoint indices (endpoint first).kind
  datasetRefs := datasetRefs endpoint indices
  visibleProvenanceCount := indices.foldl (fun count index =>
    saturatingAdd count (endpoint index).visibleProvenanceCount) 0

def scopedNode (index : Fin count) : DatasetSemanticGraphNode where
  id := scopedSemanticEndpointId digest (endpoint index).datasetId (trim (endpoint index).localNodeId)
  kind := (endpoint index).kind
  displayLabel := safeDisplayLabel (endpoint index).displayLabel (endpoint index).kind
  datasetRefs := [(endpoint index).datasetId]
  visibleProvenanceCount := (endpoint index).visibleProvenanceCount

/-- The nodes of a component, each with the endpoints that it stands for. -/
def componentPlacements (indices : List (Fin count)) : List (List (Fin count) × DatasetSemanticGraphNode) :=
  match indices with
  | [] => []
  | first :: rest =>
    if 2 ≤ (datasetRefs endpoint (first :: rest)).length then
      [(first :: rest, sharedNode digest endpoint first (first :: rest))]
    else (first :: rest).map fun index => ([index], scopedNode digest endpoint index)

def placements : List (List (Fin count) × DatasetSemanticGraphNode) :=
  (components endpoint).values.flatMap (componentPlacements digest endpoint)

def endpointNodeIds : SortedMap (Fin count) String :=
  .ofList ((placements digest endpoint).flatMap fun placement => placement.1.map fun index => (index, placement.2.id))

def endpointNodeId (index : Fin count) : String := ((endpointNodeIds digest endpoint).get? index).getD ""

def nodesById : SortedMap String DatasetSemanticGraphNode :=
  .keyed DatasetSemanticGraphNode.id ((placements digest endpoint).map (·.2))

def nodeSortRank (node : DatasetSemanticGraphNode) : Nat × Nat :=
  (if startsWith node.id "shared:" then 0 else 1, match node.kind with
    | .dataset => 0
    | .concept => 1
    | .object => 2
    | .structureNode => 3
    | .document => 4
    | .field => 5)

def nodeOrder (left right : DatasetSemanticGraphNode) : Ordering :=
  (compare (nodeSortRank left) (nodeSortRank right)).then (compare left.id right.id)

def allNodes : List DatasetSemanticGraphNode := sortBy nodeOrder (nodesById digest endpoint).values

end Folding

section Edges

variable {count : Nat} (endpoint : Fin count → CrossDatasetSemanticEndpointInput)

def endpointLookup : SortedMap (UuidBytes × String) (Fin count) :=
  .ofList ((List.finRange count).map fun index => (endpointKey (endpoint index), index))

def nodeDatasetRefs (id : String) : List UuidBytes :=
  (((nodesById digest endpoint).get? id).map (·.datasetRefs)).getD []

def evidenceName : SemanticEvidenceClass → String
  | .confirmed => "confirmed"
  | .observed => "observed"
  | .inferred => "inferred"

def buildEdge (sourceId targetId relationType label : String) (relationSemantics : SemanticRelationSemantics)
    (evidenceClass : SemanticEvidenceClass) (confidence : Float64) (reason : String) : DatasetSemanticGraphEdge :=
  let supportingDatasetIds := distinctBy id
    (nodeDatasetRefs digest endpoint sourceId ++ nodeDatasetRefs digest endpoint targetId)
  { id := semanticId digest "cross_relation" [sourceId, targetId, relationType, evidenceName evidenceClass]
    sourceId
    targetId
    relationType
    label
    relationSemantics
    evidenceClass
    confidence
    reason
    crossDataset := 2 ≤ supportingDatasetIds.length
    supportingDatasetIds }

/-- A relation is supported by the datasets that it was stated between. -/
def explicitEdge (relation : CrossDatasetExplicitRelationInput) : Option DatasetSemanticGraphEdge :=
  let lookup := endpointLookup endpoint
  match lookup.get? (relation.sourceDatasetId, trim relation.sourceLocalNodeId),
      lookup.get? (relation.targetDatasetId, trim relation.targetLocalNodeId) with
  | some sourceIndex, some targetIndex =>
    let sourceId := endpointNodeId digest endpoint sourceIndex
    let targetId := endpointNodeId digest endpoint targetIndex
    if sourceId = targetId then none
    else
      let evidenceClass := capSemanticEvidenceClass relation.evidenceClass relation.kind.strongestEvidenceClass
      let supportingDatasetIds := distinctBy id [relation.sourceDatasetId, relation.targetDatasetId]
      some { buildEdge digest endpoint sourceId targetId relation.kind.relationType
          (relation.kind.label evidenceClass) relation.kind.relationSemantics evidenceClass
          (relation.kind.confidence evidenceClass) (relation.kind.reason evidenceClass) with
        supportingDatasetIds, crossDataset := 2 ≤ supportingDatasetIds.length }
  | _, _ => none

def labelEdge (leftIndex rightIndex : Fin count) : Option DatasetSemanticGraphEdge :=
  let left := endpoint leftIndex
  let right := endpoint rightIndex
  if left.datasetId = right.datasetId ∨ left.kind ≠ right.kind then none
  else match comparableChineseLabel left.displayLabel, comparableChineseLabel right.displayLabel with
    | some leftLabel, some rightLabel =>
      let (sourceId, targetId) := canonicalNodePair (endpointNodeId digest endpoint leftIndex)
        (endpointNodeId digest endpoint rightIndex)
      if leftLabel ≠ rightLabel ∨ sourceId = targetId then none
      else some (buildEdge digest endpoint sourceId targetId "label_similarity" "名称相近" .similarity
        (capSemanticEvidenceClass .inferred .inferred) (.ofRat (45 / 100))
        "两个节点使用相同中文名称，仅表示可能相关，不代表同一实体。")
    | _, _ => none

def labelEdges : List DatasetSemanticGraphEdge :=
  (List.finRange count).flatMap fun leftIndex =>
    ((List.finRange count).filter (leftIndex < ·)).filterMap (labelEdge digest endpoint leftIndex)

def edgeKey (edge : DatasetSemanticGraphEdge) : String × String × String × Nat :=
  (edge.sourceId, edge.targetId, edge.relationType, evidenceRank edge.evidenceClass)

/-- What an edge that is already there takes from another one of its key. -/
def mergeEdge (existing edge : DatasetSemanticGraphEdge) : DatasetSemanticGraphEdge :=
  { existing with
    supportingDatasetIds := distinctBy id (existing.supportingDatasetIds ++ edge.supportingDatasetIds)
    crossDataset := existing.crossDataset || edge.crossDataset
    confidence := existing.confidence.maximum edge.confidence }

variable (explicitRelations : List CrossDatasetExplicitRelationInput) (enableLabelSimilarity : Bool)

def statedEdges : List DatasetSemanticGraphEdge :=
  explicitRelations.filterMap (explicitEdge digest endpoint) ++
    if enableLabelSimilarity then labelEdges digest endpoint else []

def edgeCandidates : SortedMap (String × String × String × Nat) DatasetSemanticGraphEdge :=
  .merged mergeEdge ((statedEdges digest endpoint explicitRelations enableLabelSimilarity).map fun edge =>
    (edgeKey edge, edge))

def edgeOrder (left right : DatasetSemanticGraphEdge) : Ordering :=
  (compare (evidenceRank left.evidenceClass) (evidenceRank right.evidenceClass)).then
    ((compare left.sourceId right.sourceId).then ((compare left.targetId right.targetId).then
      (compare left.relationType right.relationType)))

def retainedEdges (nodes : List DatasetSemanticGraphNode) : List DatasetSemanticGraphEdge :=
  sortBy edgeOrder ((edgeCandidates digest endpoint explicitRelations enableLabelSimilarity).values.filter fun edge =>
    edge.sourceId ∈ nodes.map (·.id) && edge.targetId ∈ nodes.map (·.id))

end Edges

section Graph

variable (input : CrossDatasetSemanticMatchInput)

/-- The graph over the endpoints that were kept; `dropped` of them were not. -/
def graphOver {count : Nat} (endpoint : Fin count → CrossDatasetSemanticEndpointInput) (dropped : Nat) :
    DatasetSemanticGraphV1 :=
  let (datasets, datasetsTruncated) := boundedDatasets input
  let allNodes := allNodes digest endpoint
  let nodes := allNodes.take (min input.limits.maxNodes absoluteMaxEndpoints)
  let candidates := edgeCandidates digest endpoint input.explicitRelations input.options.enableLabelSimilarity
  let edges := (retainedEdges digest endpoint input.explicitRelations input.options.enableLabelSimilarity nodes).take
    (min input.limits.maxEdges absoluteMaxEdges)
  { schemaVersion := datasetSemanticGraphSchemaVersion
    rootDatasetId := input.rootDatasetId
    datasets
    nodes
    edges
    truncated := ⟨datasetsTruncated, allNodes.length + dropped - nodes.length,
      candidates.entries.length - edges.length⟩
    stale := input.stale || datasets.any (·.stale) }

def matchCrossDatasetSemanticGraph : DatasetSemanticGraphV1 :=
  graphOver digest input (boundedEndpoints input).get ((uniqueEndpoints input).length - absoluteMaxEndpoints)

end Graph

end DataMax.SemanticGraph
