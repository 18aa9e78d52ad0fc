import DataMax.SemanticLink.Concepts
import DataMax.SemanticSnapshot.Rebuild

/-! The link graph of two ready snapshots: their endpoints and relations, the
documents they share, and the audit of the graph. -/

namespace DataMax.SemanticLink

open Domain Json Library SemanticGraph SemanticLabel SemanticUnderstanding
open SemanticSnapshot (datasetSemanticGenerationVersion)

/-- An understanding whose dataset id is a UUID. -/
structure IdentifiedUnderstanding where
  snapshot : DatasetSemanticUnderstanding
  datasetId : UuidBytes
  identified : snapshot.dataset.id = ⟨datasetId.text⟩

structure DatasetSemanticLinkMatchInput where
  left : IdentifiedUnderstanding
  right : IdentifiedUnderstanding

/-- What one snapshot adds to the input of the matcher. -/
structure SnapshotEndpoints where
  endpoints : List CrossDatasetSemanticEndpointInput
  explicitRelations : List CrossDatasetExplicitRelationInput
  concepts : List MallBusinessConcept

def datasetRootLocalNodeId : String := "dataset:root"

section Documents

variable (parseUuid : String → Option UuidBytes)

def semanticDocumentSourceIds (snapshot : DatasetSemanticUnderstanding) : List String :=
  let evidence := snapshot.objects.flatMap (·.evidenceRefs) ++ snapshot.fields.flatMap (·.evidenceRefs) ++
    snapshot.relations.flatMap (·.evidenceRefs)
  distinctBy id ((evidence.filter fun evidence => asciiLower evidence.sourceKind ≠ "asset").filterMap fun evidence =>
    (parseUuid (trim evidence.sourceId)).map (·.text))

def sharedDocumentIdentities (left right : DatasetSemanticUnderstanding) : List String :=
  (semanticDocumentSourceIds parseUuid left).filter (· ∈ semanticDocumentSourceIds parseUuid right)

end Documents

section Labels

variable (tables : TextTables) (parseUuid : String → Option UuidBytes)

def isCjkBusinessCharacter (character : Char) : Bool :=
  let code := character.toNat
  (0x3400 ≤ code && code ≤ 0x4DBF) || (0x4E00 ≤ code && code ≤ 0x9FFF) || (0xF900 ≤ code && code ≤ 0xFAFF)

def semanticGraphObjectLabel (snapshot : DatasetSemanticUnderstanding) (objectId : String)
    (role : Option ReviewedMallDeliveryRole) : String :=
  match snapshot.objects.find? (·.id = objectId) with
  | none => "业务对象"
  | some object =>
    let reviewed := if role.isSome then
        (reviewedSemanticObjectAlias object.technicalName).or (reviewedSemanticObjectAlias object.label)
      else none
    match reviewed with
    | some label => label
    | none =>
      let safeLabel := safeSemanticLinkLabel tables parseUuid object.label ""
      if 2 ≤ (safeLabel.toList.filter isCjkBusinessCharacter).length && safeLabel ∉ ["业务对象", "待解释对象"] then
        safeLabel
      else
        let concepts := (snapshot.fields.filter (·.objectId = objectId)).flatMap
          (semanticFieldBusinessConcepts tables role)
        if concepts.contains .trafficMetric && concepts.contains .space then "客流时空数据"
        else if concepts.contains .visitorProfile then "客流画像汇总"
        else if concepts.contains .dataQuality then "数据质量校验"
        else if concepts.contains .trafficMetric then "客流指标数据"
        else if concepts.contains .space then "空间点位数据"
        else "业务对象"

def semanticGraphFieldLabel (field : SemanticField) (reviewedMallDelivery : Bool) : String :=
  let mallAlias := fun value => if reviewedMallDelivery then reviewedMallDeliveryFieldAlias tables value else none
  ((((mallAlias field.technicalName).or (mallAlias field.label)).or
    (reviewedSemanticFieldAlias tables field.technicalName)).or (reviewedSemanticFieldAlias tables field.label)).getD
    (safeSemanticLinkLabel tables parseUuid field.label "业务字段")

end Labels

def stripPrefix (text start : String) : Option String :=
  if startsWith text start then some (.ofList (text.toList.drop start.toList.length)) else none

def semanticV3OpaqueFieldIdentity (snapshot : DatasetSemanticUnderstanding) (fieldId : String) :
    Option CrossDatasetCanonicalIdentity :=
  match stripPrefix (trim fieldId) "field:" with
  | none => none
  | some digits =>
    if snapshot.generationVersion ≠ datasetSemanticGenerationVersion ∨ digits.utf8ByteSize ≠ 32 ∨
        !digits.toList.all isAsciiHexdigit then none
    else some (.exactSourceField "dataset-semantic-snapshot" "semantic-profile-v3" "opaque-source-field"
      (asciiLower (trim fieldId)))

section Endpoints

variable (tables : TextTables) (parseUuid : String → Option UuidBytes)

/-- `count.max(1)` -/
def atLeastOne (count : Nat) : UInt64 := .ofNat (max count 1)

def rootEndpoint (side : IdentifiedUnderstanding) : CrossDatasetSemanticEndpointInput where
  datasetId := side.datasetId
  localNodeId := datasetRootLocalNodeId
  kind := .dataset
  displayLabel := safeSemanticLinkLabel tables parseUuid side.snapshot.dataset.title "数据集"
  visibleProvenanceCount := atLeastOne side.snapshot.coverage.documentCount
  identities := []

def objectEndpoint (side : IdentifiedUnderstanding) (role : Option ReviewedMallDeliveryRole)
    (object : SemanticObject) : CrossDatasetSemanticEndpointInput where
  datasetId := side.datasetId
  localNodeId := object.id
  kind := .object
  displayLabel := semanticGraphObjectLabel tables parseUuid side.snapshot object.id role
  visibleProvenanceCount := atLeastOne object.coverageCount
  identities := []

def fieldEndpoint (side : IdentifiedUnderstanding) (role : Option ReviewedMallDeliveryRole) (field : SemanticField) :
    CrossDatasetSemanticEndpointInput where
  datasetId := side.datasetId
  localNodeId := field.id
  kind := .field
  displayLabel := semanticGraphFieldLabel tables parseUuid field role.isSome
  visibleProvenanceCount := atLeastOne field.nonEmptyCount
  identities := (semanticV3OpaqueFieldIdentity side.snapshot field.id).toList

def conceptEndpoint (side : IdentifiedUnderstanding) (role : Option ReviewedMallDeliveryRole)
    (concept : MallBusinessConcept) : CrossDatasetSemanticEndpointInput where
  datasetId := side.datasetId
  localNodeId := concept.localNodeId
  kind := .concept
  displayLabel := concept.label
  visibleProvenanceCount := atLeastOne (side.snapshot.fields.filter fun field =>
    concept ∈ semanticFieldBusinessConcepts tables role field).length
  identities := [.confirmedConcept concept.key]

def innerRelation (datasetId : UuidBytes) (source target : String) (kind : CrossDatasetExplicitRelationKind) :
    CrossDatasetExplicitRelationInput :=
  ⟨datasetId, source, datasetId, target, kind, .observed⟩

def fieldRelations (side : IdentifiedUnderstanding) (role : Option ReviewedMallDeliveryRole) (field : SemanticField) :
    List CrossDatasetExplicitRelationInput :=
  let visibleObjectIds := (side.snapshot.objects.map fun object => trim object.id).filter (· ≠ "")
  (if visibleObjectIds.contains (trim field.objectId) then
      [innerRelation side.datasetId field.objectId field.id .objectContainsField] else []) ++
    (semanticFieldBusinessConcepts tables role field).map fun concept =>
      innerRelation side.datasetId field.id concept.localNodeId .fieldExpressesConcept

def visibleFields (snapshot : DatasetSemanticUnderstanding) : List SemanticField :=
  snapshot.fields.filter fun field => !semanticFieldIsDirectPersonIdentifier tables field

def appendSnapshotSemanticEndpoints (side : IdentifiedUnderstanding) : SnapshotEndpoints :=
  let role := reviewedMallDeliveryRole tables side.snapshot
  let visible := visibleFields tables side.snapshot
  let concepts := MallBusinessConcept.all.filter fun concept =>
    visible.any fun field => concept ∈ semanticFieldBusinessConcepts tables role field
  { endpoints := rootEndpoint tables parseUuid side ::
      (side.snapshot.objects.map (objectEndpoint tables parseUuid side role) ++
        visible.map (fieldEndpoint tables parseUuid side role) ++ concepts.map (conceptEndpoint tables side role))
    explicitRelations := side.snapshot.objects.map (fun object =>
        innerRelation side.datasetId datasetRootLocalNodeId object.id .datasetContainsObject) ++
      visible.flatMap (fieldRelations tables side role)
    concepts }

end Endpoints

section Build

-- `digest` gives the first sixteen bytes of a text's SHA-256, `floatText` writes a double by its bits.
variable (tables : TextTables) (parseUuid : String → Option UuidBytes) (digest : String → List UInt8)
  (floatText : UInt64 → String)

def documentEndpoint (datasetId : UuidBytes) (identity : String) : CrossDatasetSemanticEndpointInput where
  datasetId
  localNodeId := semanticId digest "document" [datasetId.text, identity]
  kind := .document
  displayLabel := "共享资料"
  visibleProvenanceCount := 1
  identities := [.sharedDocumentMembership identity]

def matchDataset (side : IdentifiedUnderstanding) : DatasetSemanticGraphDataset where
  id := side.datasetId
  title := safeSemanticLinkLabel tables parseUuid side.snapshot.dataset.title "数据集"
  stale := side.snapshot.stale

/-- What the matcher is given for two snapshots. -/
def linkMatchInput (input : DatasetSemanticLinkMatchInput) : CrossDatasetSemanticMatchInput :=
  let left := appendSnapshotSemanticEndpoints tables parseUuid input.left
  let right := appendSnapshotSemanticEndpoints tables parseUuid input.right
  let complementary := snapshotsAreTemporallyComplementary left.concepts right.concepts
  let shared := sharedDocumentIdentities parseUuid input.left.snapshot input.right.snapshot
  { rootDatasetId := if (compare input.right.datasetId input.left.datasetId).isLT then input.right.datasetId
      else input.left.datasetId
    datasets := [matchDataset tables parseUuid input.left, matchDataset tables parseUuid input.right]
    endpoints := left.endpoints ++ right.endpoints ++ shared.flatMap fun identity =>
      [documentEndpoint digest input.left.datasetId identity, documentEndpoint digest input.right.datasetId identity]
    explicitRelations := left.explicitRelations ++ right.explicitRelations ++
      if complementary then [⟨input.left.datasetId, datasetRootLocalNodeId, input.right.datasetId,
        datasetRootLocalNodeId, .temporalComplementarity, .inferred⟩] else []
    options := ⟨false, false, false, false⟩
    limits := ⟨8, 240, 360⟩
    stale := input.left.snapshot.stale || input.right.snapshot.stale }

def buildDatasetSemanticLinkGraph (input : DatasetSemanticLinkMatchInput) : Except String DatasetSemanticGraphV1 :=
  if input.left.datasetId = input.right.datasetId then
    .error "semantic link snapshots must belong to distinct datasets"
  else if input.left.snapshot.status ≠ "ready" ∨ input.right.snapshot.status ≠ "ready" then
    .error "semantic link matcher requires two ready snapshots"
  else
    let graph := matchCrossDatasetSemanticGraph digest (linkMatchInput tables parseUuid digest input)
    if datasetSemanticLinkManifestIsSafe floatText (graphValue graph) then .ok graph
    else .error "semantic link manifest failed safe-output audit"

end Build

end DataMax.SemanticLink
