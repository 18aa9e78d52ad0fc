import DataMax.Domain.Hex
import DataMax.Library.SortedMap
import DataMax.SemanticLink.Repository
import DataMax.SemanticSnapshot.Repository

/-! Which links a snapshot that became ready asks for, and how the worker checks
a run that it claimed against the snapshots. -/

namespace DataMax.SemanticLink

open Domain Library SemanticSnapshot

def datasetSemanticGraphGenerationVersion : String := "dataset_semantic_graph_v3"

inductive DatasetCrossSemanticGraphAccess where
  | allowed
  | featureDisabled
  | tenantNotAllowlisted
  | leftDatasetNotAllowlisted
  | rightDatasetNotAllowlisted
  deriving DecidableEq

def DatasetCrossSemanticGraphAccess.isAllowed (access : DatasetCrossSemanticGraphAccess) : Bool :=
  access = .allowed

def DatasetCrossSemanticGraphAccess.safeReason : DatasetCrossSemanticGraphAccess → String
  | .allowed => "allowed"
  | .featureDisabled => "feature_disabled"
  | .tenantNotAllowlisted => "tenant_not_allowlisted"
  | .leftDatasetNotAllowlisted => "left_dataset_not_allowlisted"
  | .rightDatasetNotAllowlisted => "right_dataset_not_allowlisted"

structure ReadyDatasetSemanticLinkEndpoint where
  tenantId : TenantId
  datasetId : DatasetId
  snapshotId : Uuid
  sourceFingerprint : String
  deriving DecidableEq

section Access

-- `parseUuid` reads a UUID in any of the notations that are accepted.
variable (parseUuid : String → Option Uuid)

def semanticUuidCsvContains (csv : Option String) (expected : Uuid) : Bool :=
  ((csv.toList.flatMap (splitAt ',')).filterMap fun value => parseUuid (trim value)).any (· = expected)

variable (enabled : Bool) (tenantAllowlist datasetAllowlist : Option String)

def datasetCrossSemanticGraphAccessFromValues (tenantId : TenantId)
    (leftDatasetId rightDatasetId : DatasetId) : DatasetCrossSemanticGraphAccess :=
  if !enabled then .featureDisabled
  else if !semanticUuidCsvContains parseUuid tenantAllowlist tenantId then .tenantNotAllowlisted
  else if !semanticUuidCsvContains parseUuid datasetAllowlist leftDatasetId then .leftDatasetNotAllowlisted
  else if !semanticUuidCsvContains parseUuid datasetAllowlist rightDatasetId then .rightDatasetNotAllowlisted
  else .allowed

end Access

section Fingerprint

variable (sha256 : String → List UInt8)

def linkDigest (pair : LinkPair) (leftSourceFingerprint rightSourceFingerprint : String) : String :=
  hex (sha256 (String.join ([pair.leftDatasetId.text, pair.rightDatasetId.text, pair.leftSnapshotId.text,
    pair.rightSnapshotId.text, trim leftSourceFingerprint, trim rightSourceFingerprint,
    datasetSemanticGraphGenerationVersion].map (· ++ "\x00"))))

/-- The code panics on two endpoints that are not distinct. -/
def datasetSemanticLinkSourceFingerprint (leftDatasetId rightDatasetId : DatasetId)
    (leftSnapshotId rightSnapshotId : Uuid) (leftSourceFingerprint rightSourceFingerprint : String) :
    Option String :=
  let fingerprints := if leftDatasetId < rightDatasetId then (leftSourceFingerprint, rightSourceFingerprint)
    else (rightSourceFingerprint, leftSourceFingerprint)
  match canonicalDatasetSemanticLinkPair leftDatasetId rightDatasetId leftSnapshotId rightSnapshotId with
  | .error _ => none
  | .ok pair => some (linkDigest sha256 pair fingerprints.1 fingerprints.2)

end Fingerprint

section Plan

variable (sha256 : String → List UInt8) (parseUuid : String → Option Uuid) (enabled : Bool)
  (tenantAllowlist datasetAllowlist : Option String) (current : ReadyDatasetSemanticLinkEndpoint)
  (candidates : List ReadyDatasetSemanticLinkEndpoint) (availableAt : DateTime)

def isLinkable (candidate : ReadyDatasetSemanticLinkEndpoint) : Bool :=
  candidate.tenantId = current.tenantId && candidate.datasetId ≠ current.datasetId &&
    (datasetCrossSemanticGraphAccessFromValues parseUuid enabled tenantAllowlist datasetAllowlist
      current.tenantId current.datasetId candidate.datasetId).isAllowed

def endpointKey (candidate : ReadyDatasetSemanticLinkEndpoint) : DatasetId × Uuid :=
  (candidate.datasetId, candidate.snapshotId)

/-- Of several candidates with one snapshot the last stays. -/
def uniqueCandidates : List ReadyDatasetSemanticLinkEndpoint :=
  (SortedMap.keyed endpointKey (candidates.filter
    (isLinkable parseUuid enabled tenantAllowlist datasetAllowlist current))).values

/-- A candidate with the snapshot of the current endpoint is passed over. -/
def linkedPair (candidate : ReadyDatasetSemanticLinkEndpoint) :
    Option (ReadyDatasetSemanticLinkEndpoint × LinkPair) :=
  match canonicalDatasetSemanticLinkPair current.datasetId candidate.datasetId current.snapshotId
      candidate.snapshotId with
  | .error _ => none
  | .ok pair => some (candidate, pair)

def orderedFingerprints (candidate : ReadyDatasetSemanticLinkEndpoint) : String × String :=
  if current.datasetId < candidate.datasetId then (current.sourceFingerprint, candidate.sourceFingerprint)
  else (candidate.sourceFingerprint, current.sourceFingerprint)

def newRun (pair : LinkPair) (sourceFingerprint : String) : NewDatasetSemanticLinkRun where
  leftDatasetId := pair.leftDatasetId
  rightDatasetId := pair.rightDatasetId
  leftSnapshotId := pair.leftSnapshotId
  rightSnapshotId := pair.rightSnapshotId
  generationVersion := datasetSemanticGraphGenerationVersion
  sourceFingerprint := sourceFingerprint
  priority := 100
  maxAttempts := 3
  availableAt := availableAt

def plannedRun (linked : ReadyDatasetSemanticLinkEndpoint × LinkPair) : Option NewDatasetSemanticLinkRun :=
  let fingerprints := orderedFingerprints current linked.1
  (datasetSemanticLinkSourceFingerprint sha256 linked.2.leftDatasetId linked.2.rightDatasetId
    linked.2.leftSnapshotId linked.2.rightSnapshotId fingerprints.1 fingerprints.2).map
      (newRun availableAt linked.2)

/-- `none` if computing a fingerprint panics. -/
def planDatasetSemanticLinkRunsFromValues : Option (List NewDatasetSemanticLinkRun) :=
  ((uniqueCandidates parseUuid enabled tenantAllowlist datasetAllowlist current candidates).filterMap
    (linkedPair current)).mapM (plannedRun sha256 current availableAt)

end Plan

section Worker

variable (sha256 : String → List UInt8) (parseUuid : String → Option Uuid) (enabled : Bool)
  (tenantAllowlist datasetAllowlist : Option String) (snapshots : SnapshotTable) (tenantId : TenantId)
  (run : DatasetSemanticLinkRun)

def semanticLinkRunInputsAreCurrent (leftLatest rightLatest : DatasetSemanticSnapshot) : Bool :=
  run.generationVersion = datasetSemanticGraphGenerationVersion && run.tenantId = leftLatest.tenantId &&
    run.tenantId = rightLatest.tenantId && run.leftDatasetId = leftLatest.datasetId &&
    run.rightDatasetId = rightLatest.datasetId && run.leftSnapshotId = leftLatest.id &&
    run.rightSnapshotId = rightLatest.id

def expectedFingerprint (leftSnapshot rightSnapshot : DatasetSemanticSnapshot) : Option String :=
  datasetSemanticLinkSourceFingerprint sha256 run.leftDatasetId run.rightDatasetId run.leftSnapshotId
    run.rightSnapshotId leftSnapshot.sourceFingerprint rightSnapshot.sourceFingerprint

inductive ClaimedRun where
  | failed (message : String)
  | panicked
  | obsolete
  | validated (fingerprint : String)
  deriving DecidableEq

/-- What happens to a claimed run before its link is built. -/
def processClaimedRun : ClaimedRun :=
  let access := datasetCrossSemanticGraphAccessFromValues parseUuid enabled tenantAllowlist datasetAllowlist
    tenantId run.leftDatasetId run.rightDatasetId
  if run.tenantId ≠ tenantId then .failed "semantic link run tenant mismatch"
  else if !access.isAllowed then .failed ("semantic link rollout gate denied: " ++ access.safeReason)
  else match loadReadyById snapshots tenantId run.leftDatasetId run.leftSnapshotId with
    | none => .failed "left ready semantic snapshot was not found"
    | some leftSnapshot => match loadReadyById snapshots tenantId run.rightDatasetId run.rightSnapshotId with
      | none => .failed "right ready semantic snapshot was not found"
      | some rightSnapshot => match loadLatestReady snapshots tenantId run.leftDatasetId with
        | none => .failed "left latest ready semantic snapshot was not found"
        | some leftLatest => match loadLatestReady snapshots tenantId run.rightDatasetId with
          | none => .failed "right latest ready semantic snapshot was not found"
          | some rightLatest =>
            if !semanticLinkRunInputsAreCurrent run leftLatest rightLatest then .obsolete
            else match expectedFingerprint sha256 run leftSnapshot rightSnapshot with
              | none => .panicked
              | some fingerprint =>
                if run.generationVersion ≠ datasetSemanticGraphGenerationVersion ∨
                    run.sourceFingerprint ≠ fingerprint then
                  .failed "semantic link run identity validation failed"
                else .validated fingerprint

end Worker

end DataMax.SemanticLink
