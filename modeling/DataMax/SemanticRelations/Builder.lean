import DataMax.Library.Selection
import DataMax.SemanticLabel.Classification

/-! The relations between the fields and objects of a dataset: those stated by
explicit evidence and shared keys inferred from field profiles. -/

namespace DataMax.SemanticRelations

open Domain Library SemanticUnderstanding SemanticLabel

def maxRelationsPerPair : Nat := 3

inductive ExplicitRelationKind where
  | foreignKey
  | parentChild
  | explicitReference
  | contains
  | collectionMembership
  | cooccurrence
  | textSimilarity
  deriving DecidableEq

namespace ExplicitRelationKind

def relationType : ExplicitRelationKind → String
  | .foreignKey => "foreign_key"
  | .parentChild => "parent_child"
  | .explicitReference => "explicit_reference"
  | .contains => "contains"
  | .collectionMembership => "collection_membership"
  | .cooccurrence => "cooccurrence"
  | .textSimilarity => "text_similarity"

def evidenceClass : ExplicitRelationKind → SemanticEvidenceClass
  | .foreignKey | .parentChild | .explicitReference => .confirmed
  | .contains | .collectionMembership => .observed
  | .cooccurrence | .textSimilarity => .inferred

def confidence : ExplicitRelationKind → Float64
  | .foreignKey => .ofRat 1
  | .parentChild | .explicitReference => .ofRat (98 / 100)
  | .contains | .collectionMembership => .ofRat (95 / 100)
  | .cooccurrence => .ofRat (45 / 100)
  | .textSimilarity => .ofRat (35 / 100)

def symmetric : ExplicitRelationKind → Bool
  | .cooccurrence | .textSimilarity => true
  | _ => false

end ExplicitRelationKind

structure ExplicitRelationEvidence where
  sourceId : String
  targetId : String
  kind : ExplicitRelationKind
  reason : String
  evidenceRefs : List SemanticEvidenceRef
  deriving DecidableEq

structure RelationFieldProfile where
  id : String
  objectId : String
  technicalName : String
  valueType : String
  semanticRole : SemanticRole
  nonEmptyCount : Nat
  totalCount : Nat
  distinctCount : Nat
  examples : List String
  sensitive : Bool
  evidenceRefs : List SemanticEvidenceRef
  deriving DecidableEq

section Functions

def coverage (field : RelationFieldProfile) : Float64 :=
  if field.totalCount = 0 then .ofRat 0
  else (Float64.ofNat field.nonEmptyCount).div (.ofNat field.totalCount)

def typeFamily (value : String) : String :=
  let name := asciiLower (trim value)
  if name ∈ ["int", "integer", "long", "float", "double", "decimal", "number"] then "number"
  else if name ∈ ["date", "datetime", "timestamp"] then "date"
  else if name ∈ ["string", "varchar", "char", "text"] then "text"
  else if name ∈ ["bool", "boolean"] then "boolean"
  else "unknown"

def compatibleTypes (left right : String) : Bool :=
  typeFamily left != "unknown" && typeFamily left == typeFamily right

def isPseudoIdentifier (value : String) : Bool :=
  ["id", "key", "code", "no", "number", "identifier"].contains (asciiLower (trim value))

def canonicalEndpoints (sourceId targetId : String) (symmetric : Bool) : String × String :=
  if symmetric ∧ targetId < sourceId then (targetId, sourceId) else (sourceId, targetId)

def relationLabel : ExplicitRelationKind → String
  | .foreignKey => "外键关联"
  | .parentChild => "父子结构"
  | .explicitReference => "明确引用"
  | .contains => "包含"
  | .collectionMembership => "属于集合"
  | .cooccurrence => "同组共现"
  | .textSimilarity => "文本相似"

/-- The reference names a source by texts that are not blank. -/
def isSourced (evidence : SemanticEvidenceRef) : Bool :=
  decide (trim evidence.sourceKind ≠ "" ∧ trim evidence.sourceId ≠ "")

def normalizedEvidence (values : List SemanticEvidenceRef) : List SemanticEvidenceRef :=
  (distinctBy evidenceKey (values.filter isSourced)).take maxEvidenceRefs

def compareRelationPriority (left right : SemanticRelation) : Ordering :=
  (compare (evidenceRank left.evidenceClass) (evidenceRank right.evidenceClass)).then <|
    ((right.confidence.partialCmp left.confidence).getD .eq).then <|
    (compare left.sourceId right.sourceId).then <|
    (compare left.targetId right.targetId).then <|
    compare left.relationType right.relationType

variable (classes : CharClasses) (digest : String → String)

/-- The checks on an inferred pair that look at each field or at both types. -/
def mayShareKey (left right : RelationFieldProfile) : Bool :=
  !(left.objectId == right.objectId || left.sensitive || right.sensitive ||
    left.semanticRole != .identifier || right.semanticRole != .identifier ||
    isPseudoIdentifier left.technicalName || isPseudoIdentifier right.technicalName ||
    !compatibleTypes left.valueType right.valueType ||
    (coverage left).lt (.ofRat (8 / 10)) || (coverage right).lt (.ofRat (8 / 10)) ||
    decide (left.distinctCount < 2) || decide (right.distinctCount < 2) ||
    decide (left.nonEmptyCount < left.distinctCount) || decide (right.nonEmptyCount < right.distinctCount))

def inferredSharedKey (left right : RelationFieldProfile) : Option SemanticRelation :=
  if !mayShareKey left right then none
  else
    let leftValues := safePublicExamples classes left.examples
    let rightValues := safePublicExamples classes right.examples
    let overlapCount := (leftValues.filter (decide <| · ∈ rightValues)).length
    let comparisonCount := min leftValues.length rightValues.length
    let overlapRatio := (Float64.ofNat overlapCount).div (.ofNat comparisonCount)
    if overlapCount < 2 ∨ comparisonCount < 2 then none
    else if overlapRatio.lt (.ofRat (5 / 10)) then none
    else
      let endpoints := canonicalEndpoints left.id right.id true
      some {
        id := stableSemanticId digest "relation" [endpoints.1, endpoints.2, "shared_key"]
        sourceId := endpoints.1
        targetId := endpoints.2
        relationType := "shared_key"
        label := "可能通过共享键关联"
        evidenceClass := .inferred
        confidence := (((Float64.ofRat (65 / 100)).add
          ((overlapRatio.minimum (.ofRat 1)).mul (.ofRat (15 / 100)))).add
          (((coverage left).minimum (coverage right)).mul (.ofRat (1 / 10)))).minimum (.ofRat (9 / 10))
        reason := "字段类型兼容，非空覆盖率均不低于 80%，受控样本重合 " ++ toString overlapCount ++ "/" ++
          toString comparisonCount ++ "；未发现已确认外键。"
        evidenceRefs := normalizedEvidence (left.evidenceRefs ++ right.evidenceRefs) }

/-- The explicit evidence passes the guards of the builder. -/
def isAdmitted (evidence : ExplicitRelationEvidence) : Bool :=
  decide (evidence.sourceId ≠ evidence.targetId ∧ trim evidence.reason ≠ "" ∧ evidence.evidenceRefs ≠ [])

def explicitRelation (evidence : ExplicitRelationEvidence) : SemanticRelation :=
  let endpoints := canonicalEndpoints evidence.sourceId evidence.targetId evidence.kind.symmetric
  { id := stableSemanticId digest "relation" [endpoints.1, endpoints.2, evidence.kind.relationType]
    sourceId := endpoints.1
    targetId := endpoints.2
    relationType := evidence.kind.relationType
    label := relationLabel evidence.kind
    evidenceClass := evidence.kind.evidenceClass
    confidence := evidence.kind.confidence
    reason := trim evidence.reason
    evidenceRefs := normalizedEvidence evidence.evidenceRefs }

/-- The inferred relations of each field with the later ones. -/
def inferredRelations : List RelationFieldProfile → List SemanticRelation
  | [] => []
  | left :: rest => rest.filterMap (inferredSharedKey classes digest left) ++ inferredRelations rest

def candidates (explicit : List ExplicitRelationEvidence) (fields : List RelationFieldProfile) :
    List SemanticRelation :=
  (explicit.filter isAdmitted).map (explicitRelation digest) ++ inferredRelations classes digest fields

def relationKey (relation : SemanticRelation) : String × String × String :=
  (relation.sourceId, relation.targetId, relation.relationType)

def endpointPair (relation : SemanticRelation) : String × String :=
  canonicalEndpoints relation.sourceId relation.targetId true

def buildSemanticRelations (explicit : List ExplicitRelationEvidence) (fields : List RelationFieldProfile) :
    List SemanticRelation :=
  retainCapped endpointPair maxRelationsPerPair .empty
    (dedupeBy relationKey compareRelationPriority (candidates classes digest explicit fields))

end Functions

end DataMax.SemanticRelations
