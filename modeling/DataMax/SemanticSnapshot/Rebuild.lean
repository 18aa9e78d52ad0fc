import DataMax.SemanticSnapshot.Repository

/-! Rebuilding the semantic snapshot of a dataset from its sources. -/

namespace DataMax.SemanticSnapshot

open Domain Json Library

def datasetSemanticSchemaVersion : String := "1.0.0"

def datasetSemanticGenerationVersion : String := "semantic_profile_v3"

def maxSemanticSnapshotManifestBytes : Nat := 2 * 1024 * 1024

structure SemanticSnapshotQualityReport where
  manifestBytes : Nat
  qualityGatePassed : Bool

/-- What a rebuild does with an understanding of a dataset: it is counted,
audited, written as JSON and read back, and marked stale. -/
structure UnderstandingSupport (Understanding : Type) where
  objectCount : Understanding → Nat
  fieldCount : Understanding → Nat
  relationCount : Understanding → Nat
  auditSemanticSnapshotQuality : Understanding → SemanticSnapshotQualityReport
  toValue : Understanding → Value
  fromValue : Value → Option Understanding
  semanticSnapshotFailureFallback : Understanding → String → Understanding

structure DatasetSemanticSnapshotPreview (Understanding : Type) where
  sourceFingerprint : String
  sourceDocumentCount : Int
  sourceAssetCount : Int
  sourceRecordCount : Int
  snapshot : Understanding

inductive RebuildStatus where
  | skipped
  | failed
  | ready
  deriving DecidableEq

structure DatasetSemanticRebuildOutcome (Understanding : Type) where
  status : RebuildStatus
  sourceFingerprint : String
  snapshot : Option Understanding
  failureCode : Option String

variable {Understanding : Type} (support : UnderstandingSupport Understanding) (table : SnapshotTable)
  (tenantId : TenantId) (datasetId : DatasetId) (newId : Uuid)
  (preview : DatasetSemanticSnapshotPreview Understanding) (generatedAt : DateTime)

/-- The latest ready snapshot was built from the same sources by this generation. -/
def isCurrent (latest : DatasetSemanticSnapshot) : Bool :=
  latest.sourceFingerprint = preview.sourceFingerprint ∧
    latest.generationVersion = datasetSemanticGenerationVersion

def newSnapshot : NewDatasetSemanticSnapshot where
  datasetId := datasetId
  schemaVersion := datasetSemanticSchemaVersion
  generationVersion := datasetSemanticGenerationVersion
  sourceFingerprint := preview.sourceFingerprint
  manifest := json []
  sourceDocumentCount := preview.sourceDocumentCount
  sourceAssetCount := preview.sourceAssetCount
  sourceRecordCount := preview.sourceRecordCount

def qualityFailureCode (report : SemanticSnapshotQualityReport) : String :=
  if maxSemanticSnapshotManifestBytes ≤ report.manifestBytes then "manifest_too_large"
  else "semantic_quality_gate_failed"

def notClaimable : StorageError := .message "semantic snapshot build record is no longer claimable"

/-- The sources have been previewed at `generatedAt`, and `newId` is what the
database draws for a new row. -/
def rebuildDatasetSemanticSnapshotFromStorage :
    Except StorageError (DatasetSemanticRebuildOutcome Understanding) × SnapshotTable :=
  let latestReady := loadLatestReady table tenantId datasetId
  let shown := latestReady.bind fun item => support.fromValue item.manifest
  let fingerprint := preview.sourceFingerprint
  if latestReady.any (isCurrent preview) then (.ok ⟨.skipped, fingerprint, shown, none⟩, table)
  else match tryBeginBuild table tenantId newId (newSnapshot datasetId preview) generatedAt with
    | (.error error, begun) => (.error error, begun)
    | (.ok none, begun) =>
      (.ok ⟨.skipped, fingerprint, shown, some "build_in_progress_or_complete"⟩, begun)
    | (.ok (some buildRecord), begun) =>
      let qualityReport := support.auditSemanticSnapshotQuality preview.snapshot
      if qualityReport.qualityGatePassed then
        match markReady begun tenantId datasetId buildRecord.id (support.toValue preview.snapshot)
            (support.objectCount preview.snapshot + support.fieldCount preview.snapshot)
            (support.relationCount preview.snapshot) generatedAt with
        | (none, marked) => (.error notClaimable, marked)
        | (some _, marked) => (.ok ⟨.ready, fingerprint, some preview.snapshot, none⟩, marked)
      else
        let failureCode := qualityFailureCode qualityReport
        (.ok ⟨.failed, fingerprint,
            shown.map fun item => support.semanticSnapshotFailureFallback item failureCode, some failureCode⟩,
          (markFailed begun tenantId datasetId buildRecord.id failureCode generatedAt).2)

end DataMax.SemanticSnapshot
