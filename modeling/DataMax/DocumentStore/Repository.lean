import DataMax.Domain.Identifier
import DataMax.Json.Value
import DataMax.Library.Table

/-! The documents with the fingerprints of their content. A statement that fails leaves the
store as it was. -/

namespace DataMax.DocumentStore

open Domain Json Library

abbrev UserId := Uuid
abbrev DocumentId := Uuid

inductive DocumentLifecycle where
  | received
  | extracted
  | indexed
  | failed
  | archived
  deriving DecidableEq

inductive DedupState where
  | unknown
  | canonical
  | duplicate
  deriving DecidableEq

structure DocumentRow where
  id : DocumentId
  tenantId : TenantId
  datasetId : DatasetId
  ownerUserId : Option UserId
  title : String
  objectKey : String
  contentType : String
  lifecycle : DocumentLifecycle
  metadata : Map
  contentSha256 : Option String
  contentSizeBytes : Option Int
  canonicalDocumentId : Option DocumentId
  dedupState : DedupState
  dedupedAt : Option DateTime
  createdAt : DateTime
  updatedAt : DateTime

structure ContentFingerprintRow where
  tenantId : TenantId
  contentSha256 : String
  contentSizeBytes : Int
  canonicalDocumentId : DocumentId
  createdAt : DateTime
  updatedAt : DateTime

def ContentFingerprintRow.content (fingerprint : ContentFingerprintRow) : TenantId × String :=
  (fingerprint.tenantId, fingerprint.contentSha256)

def documentSchema : Schema DocumentRow DocumentId DocumentId where
  identity := DocumentRow.id
  key := DocumentRow.id

def fingerprintSchema : Schema ContentFingerprintRow (TenantId × String) (TenantId × String) where
  identity := ContentFingerprintRow.content
  key := ContentFingerprintRow.content

abbrev DocumentTable := Table documentSchema

structure ContentStore where
  documents : DocumentTable
  fingerprints : Table fingerprintSchema

def isDocument (tenantId : TenantId) (documentId : DocumentId) (document : DocumentRow) : Bool :=
  document.tenantId = tenantId ∧ document.id = documentId

def getById (documents : DocumentTable) (tenantId : TenantId) (documentId : DocumentId) : Option DocumentRow :=
  documents.rows.find? (isDocument tenantId documentId)

section Metadata

inductive DocumentError where
  | notFound (documentId : DocumentId) (tenantId : TenantId)
  | updatesNotObject
  deriving DecidableEq

def mergeDocumentMetadata (currentMetadata : Map) (metadataUpdates : Value) : Except DocumentError Map :=
  match metadataUpdates with
  | .object updates => .ok (updates.foldl (fun merged entry => merged.insert entry.1 entry.2) currentMetadata)
  | _ => .error .updatesNotObject

/-- The two operations that read a document and write its merged metadata back. -/
inductive DocumentChange where
  | updateState (lifecycle : DocumentLifecycle) (title : Option String) (metadataUpdates : Value)
      (updatedAt : DateTime)
  | moveToDataset (datasetId : DatasetId) (metadataUpdates : Value) (updatedAt : DateTime)

/-- The columns that the statement of an operation sets. -/
inductive DocumentWrite where
  | state (title : String) (lifecycle : DocumentLifecycle) (metadata : Map) (updatedAt : DateTime)
  | move (datasetId : DatasetId) (metadata : Map) (updatedAt : DateTime)

/-- The first half of an operation: the row is read and the update computed from it. -/
def DocumentChange.read (documents : DocumentTable) (tenantId : TenantId) (documentId : DocumentId) :
    DocumentChange → Except DocumentError DocumentWrite
  | .updateState lifecycle title metadataUpdates updatedAt => do
    let current ← (getById documents tenantId documentId).elim (.error (.notFound documentId tenantId)) .ok
    let mergedMetadata ← mergeDocumentMetadata current.metadata metadataUpdates
    return .state (title.getD current.title) lifecycle mergedMetadata updatedAt
  | .moveToDataset datasetId metadataUpdates updatedAt => do
    let current ← (getById documents tenantId documentId).elim (.error (.notFound documentId tenantId)) .ok
    let mergedMetadata ← mergeDocumentMetadata current.metadata metadataUpdates
    return .move datasetId mergedMetadata updatedAt

def DocumentWrite.change : DocumentWrite → Change documentSchema
  | .state title lifecycle metadata updatedAt => {
    apply := fun document => { document with title, lifecycle, metadata, updatedAt } }
  | .move datasetId metadata updatedAt => {
    apply := fun document => { document with datasetId, metadata, updatedAt } }

/-- The second half: the columns are set, whatever the row holds by now. -/
def DocumentWrite.run (documents : DocumentTable) (tenantId : TenantId) (documentId : DocumentId)
    (write : DocumentWrite) : DocumentTable :=
  documents.update (isDocument tenantId documentId) write.change

end Metadata

section Fingerprints

variable (store : ContentStore) (tenantId : TenantId) (documentId : DocumentId)

def newFingerprint (contentSha256 : String) (contentSizeBytes : Int) (recordedAt : DateTime) :
    ContentFingerprintRow where
  tenantId := tenantId
  contentSha256 := contentSha256
  contentSizeBytes := contentSizeBytes
  canonicalDocumentId := documentId
  createdAt := recordedAt
  updatedAt := recordedAt

def becomeRecorded (contentSha256 : String) (contentSizeBytes : Int) (canonicalDocumentId : DocumentId)
    (dedupState : DedupState) (recordedAt : DateTime) : Change documentSchema where
  apply document := { document with
    contentSha256 := some contentSha256
    contentSizeBytes := some contentSizeBytes
    canonicalDocumentId := some canonicalDocumentId
    dedupState := dedupState
    dedupedAt := some recordedAt
    updatedAt := recordedAt }

/-- `on conflict do nothing`; without a conflict the document has to exist. -/
def insertFingerprint (contentSha256 : String) (contentSizeBytes : Int) (recordedAt : DateTime) :
    Option (Table fingerprintSchema) :=
  match store.fingerprints.insertOrUpdate (newFingerprint tenantId documentId contentSha256 contentSizeBytes recordedAt)
      (store.documents.findIdentity documentId).isSome (fun _ => false) ⟨id, fun _ => rfl, fun _ => rfl⟩ with
  | .refused => none
  | .skipped => some store.fingerprints
  | .updated fingerprints _ => some fingerprints
  | .inserted fingerprints _ => some fingerprints

/-- One transaction: it fails when the tenant has no such document. -/
def recordContentFingerprint (contentSha256 : String) (contentSizeBytes : Int) (recordedAt : DateTime) :
    Option DocumentRow × ContentStore :=
  match insertFingerprint store tenantId documentId contentSha256 contentSizeBytes recordedAt with
  | none => (none, store)
  | some fingerprints => match fingerprints.findKey (tenantId, contentSha256) with
    | none => (none, store)
    | some fingerprint =>
      let dedupState := if fingerprint.canonicalDocumentId = documentId then .canonical else .duplicate
      let recorded := becomeRecorded contentSha256 contentSizeBytes fingerprint.canonicalDocumentId dedupState recordedAt
      match (store.documents.returning (isDocument tenantId documentId) recorded).head? with
      | none => (none, store)
      | some document =>
        (some document, ⟨store.documents.update (isDocument tenantId documentId) recorded, fingerprints⟩)

def resolveCanonicalDocumentId : DocumentId :=
  ((getById store.documents tenantId documentId).map fun document =>
    document.canonicalDocumentId.getD document.id).getD documentId

end Fingerprints

def sampleDocument (name : String) : DocumentRow where
  id := ⟨name⟩
  tenantId := ⟨"tenant"⟩
  datasetId := ⟨"dataset"⟩
  ownerUserId := none
  title := name
  objectKey := name
  contentType := "text/plain"
  lifecycle := .received
  metadata := .empty
  contentSha256 := none
  contentSizeBytes := none
  canonicalDocumentId := none
  dedupState := .unknown
  dedupedAt := none
  createdAt := 0
  updatedAt := 0

end DataMax.DocumentStore
