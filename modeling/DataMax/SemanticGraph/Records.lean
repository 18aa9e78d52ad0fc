import DataMax.Domain.Hex
import DataMax.SemanticUnderstanding.Records

/-! The graph over several datasets: what the matcher reads and what it returns. -/

namespace DataMax.SemanticGraph

open Domain Library SemanticUnderstanding

def datasetSemanticGraphSchemaVersion : String := "1.0.0"
def absoluteMaxDatasets : Nat := 8
def absoluteMaxEndpoints : Nat := 360
def absoluteMaxEdges : Nat := 600
def maxInternalIdentityPartLength : Nat := 512

inductive DatasetSemanticGraphNodeKind where
  | dataset
  | document
  | object
  | field
  | concept
  | structureNode
  deriving DecidableEq

namespace DatasetSemanticGraphNodeKind

/-- The kinds in the order of their declaration. -/
def position : DatasetSemanticGraphNodeKind → Nat
  | .dataset => 0
  | .document => 1
  | .object => 2
  | .field => 3
  | .concept => 4
  | .structureNode => 5

def sharedIdKind : DatasetSemanticGraphNodeKind → String
  | .dataset => "dataset"
  | .document => "document"
  | .object => "object"
  | .field => "field"
  | .concept => "concept"
  | .structureNode => "structure"

def fallbackLabel : DatasetSemanticGraphNodeKind → String
  | .dataset => "数据集"
  | .document => "资料"
  | .object => "业务对象"
  | .field => "业务字段"
  | .concept => "知识概念"
  | .structureNode => "数据结构"

end DatasetSemanticGraphNodeKind

instance : Ord DatasetSemanticGraphNodeKind := ⟨compareOn DatasetSemanticGraphNodeKind.position⟩

instance : Std.TransOrd DatasetSemanticGraphNodeKind :=
  inferInstanceAs (Std.TransCmp (compareOn DatasetSemanticGraphNodeKind.position))

instance : Std.LawfulEqOrd DatasetSemanticGraphNodeKind where
  eq_of_compare := by
    intro left right same
    have compared : compare left.position right.position = .eq := same
    have positions := Std.LawfulEqCmp.eq_of_compare compared
    cases left <;> cases right <;> first | rfl | cases positions

instance : Ord UuidBytes := ⟨compareOn UuidBytes.bytes⟩

instance : Std.TransOrd UuidBytes := inferInstanceAs (Std.TransCmp (compareOn UuidBytes.bytes))

instance : Std.LawfulEqOrd UuidBytes where
  eq_of_compare := by
    rintro ⟨left, _⟩ ⟨right, _⟩ same
    have compared : compare left right = .eq := same
    obtain rfl := Std.LawfulEqCmp.eq_of_compare compared
    rfl

inductive SemanticRelationSemantics where
  | identity
  | reference
  | structureRelation
  | similarity
  deriving DecidableEq

structure DatasetSemanticGraphDataset where
  id : UuidBytes
  title : String
  stale : Bool
  deriving DecidableEq

structure DatasetSemanticGraphNode where
  id : String
  kind : DatasetSemanticGraphNodeKind
  displayLabel : String
  datasetRefs : List UuidBytes
  visibleProvenanceCount : UInt64
  deriving DecidableEq

structure DatasetSemanticGraphEdge where
  id : String
  sourceId : String
  targetId : String
  relationType : String
  label : String
  relationSemantics : SemanticRelationSemantics
  evidenceClass : SemanticEvidenceClass
  confidence : Float64
  reason : String
  crossDataset : Bool
  supportingDatasetIds : List UuidBytes
  deriving DecidableEq

structure DatasetSemanticGraphTruncation where
  datasets : Nat
  nodes : Nat
  edges : Nat
  deriving DecidableEq

structure DatasetSemanticGraphV1 where
  schemaVersion : String
  rootDatasetId : UuidBytes
  datasets : List DatasetSemanticGraphDataset
  nodes : List DatasetSemanticGraphNode
  edges : List DatasetSemanticGraphEdge
  truncated : DatasetSemanticGraphTruncation
  stale : Bool
  deriving DecidableEq

inductive CrossDatasetCanonicalIdentity where
  | sharedDocumentMembership (sharedDocumentId : String)
  | canonicalDocument (canonicalDocumentId : String)
  | exactContent (contentIdentity : String)
  | exactSourceField (sourceSystemKey sourceSchemaKey sourceObjectKey sourceFieldKey : String)
  | confirmedConcept (conceptId : String)
  deriving DecidableEq

structure CrossDatasetSemanticEndpointInput where
  datasetId : UuidBytes
  localNodeId : String
  kind : DatasetSemanticGraphNodeKind
  displayLabel : String
  visibleProvenanceCount : UInt64
  identities : List CrossDatasetCanonicalIdentity
  deriving DecidableEq

inductive CrossDatasetExplicitRelationKind where
  | foreignKey
  | explicitReference
  | datasetContainsObject
  | objectContainsField
  | fieldExpressesConcept
  | temporalComplementarity
  deriving DecidableEq

def evidenceConfidence : SemanticEvidenceClass → Float64
  | .confirmed => .ofRat 1
  | .observed => .ofRat (72 / 100)
  | .inferred => .ofRat (45 / 100)

namespace CrossDatasetExplicitRelationKind

def relationType : CrossDatasetExplicitRelationKind → String
  | .foreignKey => "foreign_key"
  | .explicitReference => "explicit_reference"
  | .datasetContainsObject => "dataset_contains_object"
  | .objectContainsField => "object_contains_field"
  | .fieldExpressesConcept => "field_expresses_concept"
  | .temporalComplementarity => "temporal_complementarity"

def label : CrossDatasetExplicitRelationKind → SemanticEvidenceClass → String
  | .foreignKey, .confirmed => "已确认外键"
  | .foreignKey, .observed => "外键关系线索"
  | .foreignKey, .inferred => "可能外键关联"
  | .explicitReference, .confirmed => "明确引用"
  | .explicitReference, .observed => "引用关系线索"
  | .explicitReference, .inferred => "可能引用"
  | .datasetContainsObject, _ => "包含业务对象"
  | .objectContainsField, _ => "包含业务字段"
  | .fieldExpressesConcept, _ => "表达业务概念"
  | .temporalComplementarity, _ => "可按时间联合分析"

def reason : CrossDatasetExplicitRelationKind → SemanticEvidenceClass → String
  | .foreignKey, .confirmed => "两个节点存在已登记的外键关系。"
  | .foreignKey, .observed => "现有证据观察到外键关系线索，尚未确认。"
  | .foreignKey, .inferred => "现有证据提示可能存在外键关系，尚未确认。"
  | .explicitReference, .confirmed => "两个节点存在已登记的明确引用关系。"
  | .explicitReference, .observed => "现有证据观察到引用关系线索，尚未确认。"
  | .explicitReference, .inferred => "现有证据提示可能存在引用关系，尚未确认。"
  | .datasetContainsObject, _ => "数据集快照的可见结构表明该业务对象属于此数据集。"
  | .objectContainsField, _ => "数据集快照的可见结构表明该字段属于此业务对象。"
  | .fieldExpressesConcept, _ =>
    "该字段的已复核名称或语义角色可归入此通用业务概念；这是图谱组织关系，不是外键或逐记录关联。"
  | .temporalComplementarity, _ =>
    "两个数据集均包含日期维度，且客流指标与人群画像在业务上互补，形成按日期汇总比较的候选；仍需核验日期范围、时区与统计粒度，且不代表可以逐记录或逐人关联。"

def relationSemantics : CrossDatasetExplicitRelationKind → SemanticRelationSemantics
  | .foreignKey | .explicitReference => .reference
  | .datasetContainsObject | .objectContainsField | .fieldExpressesConcept => .structureRelation
  | .temporalComplementarity => .similarity

def strongestEvidenceClass : CrossDatasetExplicitRelationKind → SemanticEvidenceClass
  | .foreignKey | .explicitReference => .confirmed
  | .datasetContainsObject | .objectContainsField | .fieldExpressesConcept => .observed
  | .temporalComplementarity => .inferred

def confidence : CrossDatasetExplicitRelationKind → SemanticEvidenceClass → Float64
  | .datasetContainsObject, .confirmed | .objectContainsField, .confirmed => .ofRat 1
  | .datasetContainsObject, .observed | .objectContainsField, .observed => .ofRat (95 / 100)
  | .datasetContainsObject, .inferred | .objectContainsField, .inferred => .ofRat (55 / 100)
  | .fieldExpressesConcept, .confirmed => .ofRat 1
  | .fieldExpressesConcept, .observed => .ofRat (82 / 100)
  | .fieldExpressesConcept, .inferred => .ofRat (52 / 100)
  | .temporalComplementarity, _ => .ofRat (58 / 100)
  | .foreignKey, evidenceClass | .explicitReference, evidenceClass => evidenceConfidence evidenceClass

end CrossDatasetExplicitRelationKind

def capSemanticEvidenceClass (requested strongestAllowed : SemanticEvidenceClass) : SemanticEvidenceClass :=
  if evidenceRank requested < evidenceRank strongestAllowed then strongestAllowed else requested

structure CrossDatasetExplicitRelationInput where
  sourceDatasetId : UuidBytes
  sourceLocalNodeId : String
  targetDatasetId : UuidBytes
  targetLocalNodeId : String
  kind : CrossDatasetExplicitRelationKind
  evidenceClass : SemanticEvidenceClass
  deriving DecidableEq

/-- Only the first of the options is read. -/
structure CrossDatasetSemanticMatcherOptions where
  enableLabelSimilarity : Bool
  enableStructureSimilarity : Bool
  enableJaccardSimilarity : Bool
  enableSampleOverlap : Bool

structure CrossDatasetSemanticMatcherLimits where
  maxDatasets : Nat
  maxNodes : Nat
  maxEdges : Nat

structure CrossDatasetSemanticMatchInput where
  rootDatasetId : UuidBytes
  datasets : List DatasetSemanticGraphDataset
  endpoints : List CrossDatasetSemanticEndpointInput
  explicitRelations : List CrossDatasetExplicitRelationInput
  options : CrossDatasetSemanticMatcherOptions
  limits : CrossDatasetSemanticMatcherLimits
  stale : Bool

end DataMax.SemanticGraph
