import DataMax.Domain.Identifier
import DataMax.Json.Value
import DataMax.Library.Table

/-! The table of the semantic snapshots of datasets and its statements. -/

namespace DataMax.SemanticSnapshot

open Domain Json Library

inductive SnapshotStatus where
  | building
  | ready
  | failed
  | superseded
  deriving DecidableEq

structure NewDatasetSemanticSnapshot where
  datasetId : DatasetId
  schemaVersion : String
  generationVersion : String
  sourceFingerprint : String
  manifest : Value
  sourceDocumentCount : Int
  sourceAssetCount : Int
  sourceRecordCount : Int

structure DatasetSemanticSnapshot where
  id : Uuid
  tenantId : TenantId
  datasetId : DatasetId
  schemaVersion : String
  generationVersion : String
  sourceFingerprint : String
  status : SnapshotStatus
  manifest : Value
  sourceDocumentCount : Int
  sourceAssetCount : Int
  sourceRecordCount : Int
  nodeCount : Int
  edgeCount : Int
  failureCode : Option String
  generatedAt : Option DateTime
  createdAt : DateTime
  updatedAt : DateTime

/-- What a snapshot is built from. The table has one row for each. -/
structure SnapshotInputs where
  tenantId : TenantId
  datasetId : DatasetId
  generationVersion : String
  sourceFingerprint : String
  deriving DecidableEq

def DatasetSemanticSnapshot.inputs (row : DatasetSemanticSnapshot) : SnapshotInputs :=
  ⟨row.tenantId, row.datasetId, row.generationVersion, row.sourceFingerprint⟩

def snapshotSchema : Schema DatasetSemanticSnapshot Uuid SnapshotInputs where
  identity := DatasetSemanticSnapshot.id
  key := DatasetSemanticSnapshot.inputs

abbrev SnapshotTable : Type := Table snapshotSchema

variable (table : SnapshotTable) (tenantId : TenantId)

def buildingSnapshot (newId : Uuid) (snapshot : NewDatasetSemanticSnapshot) (now : DateTime) :
    DatasetSemanticSnapshot where
  id := newId
  tenantId := tenantId
  datasetId := snapshot.datasetId
  schemaVersion := snapshot.schemaVersion
  generationVersion := snapshot.generationVersion
  sourceFingerprint := snapshot.sourceFingerprint
  status := .building
  manifest := snapshot.manifest
  sourceDocumentCount := snapshot.sourceDocumentCount
  sourceAssetCount := snapshot.sourceAssetCount
  sourceRecordCount := snapshot.sourceRecordCount
  nodeCount := 0
  edgeCount := 0
  failureCode := none
  generatedAt := none
  createdAt := now
  updatedAt := now

/-- The schema version stays what it was. -/
def becomeBuilding (snapshot : NewDatasetSemanticSnapshot) (now : DateTime) : Change snapshotSchema where
  apply row := { row with
    status := .building
    manifest := snapshot.manifest
    sourceDocumentCount := snapshot.sourceDocumentCount
    sourceAssetCount := snapshot.sourceAssetCount
    sourceRecordCount := snapshot.sourceRecordCount
    nodeCount := 0
    edgeCount := 0
    failureCode := none
    generatedAt := none
    updatedAt := now }

def isEnded (row : DatasetSemanticSnapshot) : Bool :=
  row.status = .failed ∨ row.status = .superseded

/-- A ready snapshot of the same inputs is left as it is. -/
def tryBeginBuild (newId : Uuid) (snapshot : NewDatasetSemanticSnapshot) (now : DateTime) :
    Except StorageError (Option DatasetSemanticSnapshot) × SnapshotTable :=
  match table.insertOrUpdate (buildingSnapshot tenantId newId snapshot now) true isEnded
      (becomeBuilding snapshot now) with
  | .refused => (.error .uniqueViolation, table)
  | .skipped => (.ok none, table)
  | .updated updated row => (.ok (some row), updated)
  | .inserted inserted row => (.ok (some row), inserted)

variable (datasetId : DatasetId)

def isBuilding (snapshotId : Uuid) (row : DatasetSemanticSnapshot) : Bool :=
  row.tenantId = tenantId ∧ row.datasetId = datasetId ∧ row.id = snapshotId ∧ row.status = .building

def becomeReady (manifest : Value) (nodeCount edgeCount : Int) (generatedAt : DateTime) :
    Change snapshotSchema where
  apply row := { row with
    status := .ready
    manifest := manifest
    nodeCount := nodeCount
    edgeCount := edgeCount
    failureCode := none
    generatedAt := some generatedAt
    updatedAt := generatedAt }

/-- Unlike a link, a dataset's snapshot supersedes none of the earlier ones. -/
def markReady (snapshotId : Uuid) (manifest : Value) (nodeCount edgeCount : Int) (generatedAt : DateTime) :
    Option DatasetSemanticSnapshot × SnapshotTable :=
  let building := isBuilding tenantId datasetId snapshotId
  let ready := becomeReady manifest nodeCount edgeCount generatedAt
  ((table.returning building ready).head?, table.update building ready)

def becomeFailed (failureCode : String) (now : DateTime) : Change snapshotSchema where
  apply row := { row with status := .failed, failureCode := some failureCode, updatedAt := now }

def markFailed (snapshotId : Uuid) (failureCode : String) (now : DateTime) :
    Option DatasetSemanticSnapshot × SnapshotTable :=
  let building := isBuilding tenantId datasetId snapshotId
  let failed := becomeFailed failureCode now
  ((table.returning building failed).head?, table.update building failed)

def isReadyOf (row : DatasetSemanticSnapshot) : Bool :=
  row.tenantId = tenantId ∧ row.datasetId = datasetId ∧ row.status = .ready

/-- `desc` puts the rows without a time first. -/
def generatedLater (left right : DatasetSemanticSnapshot) : Bool :=
  match left.generatedAt, right.generatedAt with
  | none, some _ => true
  | some leftTime, some rightTime => rightTime < leftTime
  | _, none => false

/-- `order by generated_at desc, created_at desc`. -/
def latestFirst (left right : DatasetSemanticSnapshot) : Bool :=
  generatedLater left right ∨ left.generatedAt = right.generatedAt ∧ right.createdAt < left.createdAt

theorem latestFirst_iff {left right : DatasetSemanticSnapshot} : latestFirst left right = true ↔
    (match left.generatedAt, right.generatedAt with
      | none, none => @LT.lt Int _ right.createdAt left.createdAt
      | none, some _ => True
      | some _, none => False
      | some leftTime, some rightTime => @LT.lt Int _ rightTime leftTime ∨
        @Eq Int leftTime rightTime ∧ @LT.lt Int _ right.createdAt left.createdAt) := by
  rw [latestFirst, generatedLater, decide_eq_true_eq]
  cases left.generatedAt with
  | none => cases right.generatedAt <;> simp
  | some first => cases right.generatedAt <;> simp

theorem latestFirst_asymm (left right : DatasetSemanticSnapshot) (before : latestFirst left right = true) :
    latestFirst right left = false := by
  rw [← Bool.not_eq_true, latestFirst_iff]
  rw [latestFirst_iff] at before
  intro after
  cases leftTime : left.generatedAt <;> cases rightTime : right.generatedAt <;>
    simp only [leftTime, rightTime] at before after <;> omega

theorem latestFirst_negative (left middle right : DatasetSemanticSnapshot) (first : latestFirst left middle = false)
    (second : latestFirst middle right = false) : latestFirst left right = false := by
  rw [← Bool.not_eq_true, latestFirst_iff] at *
  intro across
  cases leftTime : left.generatedAt <;> cases middleTime : middle.generatedAt <;>
    cases rightTime : right.generatedAt <;>
    simp only [leftTime, middleTime, rightTime, not_true_eq_false] at first second across <;> omega

def loadLatestReady : Option DatasetSemanticSnapshot :=
  firstBy latestFirst (table.rows.filter (isReadyOf tenantId datasetId))

theorem loadLatestReady_first {row other : DatasetSemanticSnapshot}
    (found : loadLatestReady table tenantId datasetId = some row) (member : other ∈ table.rows)
    (ready : isReadyOf tenantId datasetId other = true) : latestFirst other row = false :=
  firstBy_first latestFirst_asymm latestFirst_negative found other (List.mem_filter.mpr ⟨member, ready⟩)

def loadReadyById (snapshotId : Uuid) : Option DatasetSemanticSnapshot :=
  table.rows.find? fun row => isReadyOf tenantId datasetId row && row.id = snapshotId

end DataMax.SemanticSnapshot
