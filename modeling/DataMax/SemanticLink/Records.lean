import DataMax.Domain.Identifier
import DataMax.Domain.Text
import DataMax.Json.Value
import DataMax.Library.Table

/-! The two tables behind the semantic links between datasets: the snapshots of
links and the queue of the runs that build them. -/

namespace DataMax.SemanticLink

open Domain Json Library

inductive LinkSnapshotStatus where
  | building
  | ready
  | failed
  | superseded
  deriving DecidableEq

inductive LinkRunStatus where
  | pending
  | running
  | succeeded
  | retryWait
  | deadLetter
  deriving DecidableEq

structure NewDatasetSemanticLinkSnapshot where
  leftDatasetId : DatasetId
  rightDatasetId : DatasetId
  leftSnapshotId : Uuid
  rightSnapshotId : Uuid
  schemaVersion : String
  generationVersion : String
  sourceFingerprint : String
  manifest : Value

structure DatasetSemanticLinkSnapshot where
  id : Uuid
  tenantId : TenantId
  leftDatasetId : DatasetId
  rightDatasetId : DatasetId
  leftSnapshotId : Uuid
  rightSnapshotId : Uuid
  schemaVersion : String
  generationVersion : String
  sourceFingerprint : String
  status : LinkSnapshotStatus
  manifest : Value
  nodeCount : Int
  edgeCount : Int
  failureCode : Option String
  generatedAt : Option DateTime
  createdAt : DateTime
  updatedAt : DateTime

structure NewDatasetSemanticLinkRun where
  leftDatasetId : DatasetId
  rightDatasetId : DatasetId
  leftSnapshotId : Uuid
  rightSnapshotId : Uuid
  generationVersion : String
  sourceFingerprint : String
  priority : Int
  maxAttempts : Int
  availableAt : DateTime

structure DatasetSemanticLinkRun where
  id : Uuid
  tenantId : TenantId
  leftDatasetId : DatasetId
  rightDatasetId : DatasetId
  leftSnapshotId : Uuid
  rightSnapshotId : Uuid
  generationVersion : String
  sourceFingerprint : String
  status : LinkRunStatus
  priority : Int
  attemptCount : Int
  maxAttempts : Int
  availableAt : DateTime
  claimedAt : Option DateTime
  finishedAt : Option DateTime
  failureCode : Option String
  createdAt : DateTime
  updatedAt : DateTime
  deriving DecidableEq

/-- What a link is built from. Both tables have one row for each. -/
structure LinkInputs where
  tenantId : TenantId
  leftSnapshotId : Uuid
  rightSnapshotId : Uuid
  generationVersion : String
  deriving DecidableEq

def DatasetSemanticLinkSnapshot.inputs (link : DatasetSemanticLinkSnapshot) : LinkInputs :=
  ⟨link.tenantId, link.leftSnapshotId, link.rightSnapshotId, link.generationVersion⟩

def DatasetSemanticLinkRun.inputs (run : DatasetSemanticLinkRun) : LinkInputs :=
  ⟨run.tenantId, run.leftSnapshotId, run.rightSnapshotId, run.generationVersion⟩

def linkSchema : Schema DatasetSemanticLinkSnapshot Uuid LinkInputs where
  identity := DatasetSemanticLinkSnapshot.id
  key := DatasetSemanticLinkSnapshot.inputs

def runSchema : Schema DatasetSemanticLinkRun Uuid LinkInputs where
  identity := DatasetSemanticLinkRun.id
  key := DatasetSemanticLinkRun.inputs

structure LinkStore where
  links : Table linkSchema
  runs : Table runSchema

def LinkStore.empty : LinkStore := ⟨.empty, .empty⟩

structure DatasetPair where
  leftDatasetId : DatasetId
  rightDatasetId : DatasetId
  deriving DecidableEq

structure LinkPair extends DatasetPair where
  leftSnapshotId : Uuid
  rightSnapshotId : Uuid
  deriving DecidableEq

def canonicalDatasetSemanticLinkPair (leftDatasetId rightDatasetId : DatasetId)
    (leftSnapshotId rightSnapshotId : Uuid) : Except StorageError LinkPair :=
  if leftDatasetId = rightDatasetId then
    .error (.message "dataset semantic link endpoints must be distinct")
  else if leftSnapshotId = rightSnapshotId then
    .error (.message "dataset semantic link snapshots must be distinct")
  else if leftDatasetId < rightDatasetId then
    .ok ⟨⟨leftDatasetId, rightDatasetId⟩, leftSnapshotId, rightSnapshotId⟩
  else .ok ⟨⟨rightDatasetId, leftDatasetId⟩, rightSnapshotId, leftSnapshotId⟩

def canonicalDatasetSemanticLinkDatasetPair (leftDatasetId rightDatasetId : DatasetId) :
    Except StorageError DatasetPair :=
  if leftDatasetId = rightDatasetId then
    .error (.message "dataset semantic link endpoints must be distinct")
  else if leftDatasetId < rightDatasetId then .ok ⟨leftDatasetId, rightDatasetId⟩
  else .ok ⟨rightDatasetId, leftDatasetId⟩

def validateDatasetSemanticLinkManifest (manifest : Value) : Except StorageError Unit :=
  if manifest.isObject then .ok ()
  else .error (.message "dataset semantic link manifest must be a JSON object")

def validateDatasetSemanticLinkReadyPayload (manifest : Value) (nodeCount edgeCount : Int) :
    Except StorageError Unit :=
  match validateDatasetSemanticLinkManifest manifest with
  | .error error => .error error
  | .ok () =>
    if nodeCount < 0 ∨ edgeCount < 0 then
      .error (.message "dataset semantic link node and edge counts must be non-negative")
    else .ok ()

end DataMax.SemanticLink
