import DataMax.Domain.Identifier
import DataMax.Domain.Text
import DataMax.Library.Float64
import DataMax.Library.SortedMap

/-! The semantic model of a dataset: its objects, fields and relations with the
evidence they rest on. -/

namespace DataMax.SemanticUnderstanding

open Domain Library

def maxObjects : Nat := 40
def maxFields : Nat := 160
def maxRelations : Nat := 240
def maxExamples : Nat := 5
def maxEvidenceRefs : Nat := 5

inductive SemanticStatus where
  | confirmed
  | observed
  | inferred
  | unresolved
  deriving DecidableEq

inductive SemanticEvidenceClass where
  | confirmed
  | observed
  | inferred
  deriving DecidableEq

structure SemanticEvidenceRef where
  sourceKind : String
  sourceId : String
  label : String
  deriving DecidableEq

structure DatasetSemanticIdentity where
  id : DatasetId
  title : String
  deriving DecidableEq

structure SemanticCoverage where
  sourceCount : Nat
  documentCount : Nat
  recordCount : Nat
  assetCount : Nat
  retrievalEvidenceCount : Nat
  confirmedFactCount : Nat
  unresolvedFieldCount : Nat
  deriving DecidableEq

structure SemanticSummary where
  headline : String
  limitations : List String
  deriving DecidableEq

structure SemanticObject where
  id : String
  kind : String
  label : String
  technicalName : String
  description : String
  labelSource : String
  confidence : Float64
  coverageCount : Nat
  status : SemanticStatus
  evidenceRefs : List SemanticEvidenceRef
  deriving DecidableEq

structure SemanticField where
  id : String
  objectId : String
  label : String
  technicalName : String
  semanticRole : String
  valueType : String
  nonEmptyCount : Nat
  distinctCount : Nat
  examples : List String
  status : SemanticStatus
  labelSource : String
  confidence : Float64
  evidenceRefs : List SemanticEvidenceRef
  deriving DecidableEq

structure SemanticRelation where
  id : String
  sourceId : String
  targetId : String
  relationType : String
  label : String
  evidenceClass : SemanticEvidenceClass
  confidence : Float64
  reason : String
  evidenceRefs : List SemanticEvidenceRef
  deriving DecidableEq

structure SemanticSourceGroup where
  id : String
  kind : String
  label : String
  objectIds : List String
  coverageCount : Nat
  deriving DecidableEq

structure SemanticPipelineStage where
  id : String
  label : String
  status : String
  detail : String
  evidenceCount : Nat
  deriving DecidableEq

/-- How many entries of each list were cut off. -/
structure SemanticTruncation where
  objects : Nat
  fields : Nat
  relations : Nat
  deriving DecidableEq

@[ext] structure DatasetSemanticUnderstanding where
  schemaVersion : String
  generationVersion : String
  status : String
  dataset : DatasetSemanticIdentity
  coverage : SemanticCoverage
  summary : SemanticSummary
  objects : List SemanticObject
  fields : List SemanticField
  relations : List SemanticRelation
  sourceGroups : List SemanticSourceGroup
  pipeline : List SemanticPipelineStage
  generatedAt : DateTime
  stale : Bool
  truncated : SemanticTruncation
  deriving DecidableEq

def statusRank : SemanticStatus → Nat
  | .confirmed => 0
  | .observed => 1
  | .inferred => 2
  | .unresolved => 3

def evidenceRank : SemanticEvidenceClass → Nat
  | .confirmed => 0
  | .observed => 1
  | .inferred => 2

/-- `digest` gives the first half of a text's SHA-256 in hexadecimal. -/
def stableSemanticId (digest : String → String) (kind : String) (parts : List String) : String :=
  trim kind ++ ":" ++ digest (parts.foldl (fun text part => text ++ "\x00" ++ trim part) (trim kind))

def evidenceKey (evidence : SemanticEvidenceRef) : String × String × String :=
  (evidence.sourceKind, evidence.sourceId, evidence.label)

instance evidenceKeyTransOrd : Std.TransOrd (String × String × String) := inferInstance

theorem evidenceKey_injective : Function.Injective evidenceKey := by
  rintro ⟨_, _, _⟩ ⟨_, _, _⟩ same
  cases same
  rfl

/-- The evidence names a source by its kind and its id. -/
def SemanticEvidenceRef.IsSourced (evidence : SemanticEvidenceRef) : Prop :=
  evidence.sourceKind ≠ "" ∧ evidence.sourceId ≠ ""

end DataMax.SemanticUnderstanding
