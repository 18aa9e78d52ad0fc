import DataMax.DocumentSharing.Audience
import DataMax.Library.Run

/-! The datasets that a document belongs to: its canonical dataset and the secondary
memberships that users add and remove. -/

namespace DataMax.DocumentSharing

open Domain Json Library

/-- The datasets of one tenant. -/
structure DatasetTable where
  tenantId : TenantId
  find : DatasetId → Option Dataset
  identified : find datasetId = some dataset → dataset.id = datasetId

/-- A document and the datasets of its secondary memberships, in their order. -/
structure DocumentMemberships where
  document : Document
  memberships : SortedMap DatasetId Unit

inductive ApiError where
  | documentNotFound
  | datasetNotFound
  | documentDatasetMembershipRequired
  | documentDatasetScopeIncompatible
  deriving DecidableEq

namespace DocumentMemberships

def listDatasetIds (store : DocumentMemberships) : List DatasetId := store.memberships.entries.map (·.1)

/-- The canonical dataset and the secondary ones. -/
def members (store : DocumentMemberships) : List DatasetId := store.document.datasetId :: store.listDatasetIds

end DocumentMemberships

section Calls

variable (datasets : DatasetTable) (activeSecretBindingIds : List SecretBindingId) (currentUserId : Option UserId)

def ensureDatasetVisibleForRequest (dataset : Dataset) : Except ApiError Unit :=
  if dataset.tenantId ≠ datasets.tenantId ∨
      !datasetIsVisibleForRequest dataset activeSecretBindingIds currentUserId none then .error .datasetNotFound
  else .ok ()

def loadVisibleDatasetForUser (datasetId : DatasetId) : Except ApiError Dataset :=
  match datasets.find datasetId with
  | none => .error .datasetNotFound
  | some dataset => (ensureDatasetVisibleForRequest datasets activeSecretBindingIds currentUserId dataset).map fun _ =>
    dataset

def documentHasVisibleDatasetScope (store : DocumentMemberships) : Bool :=
  store.members.any fun datasetId =>
    (loadVisibleDatasetForUser datasets activeSecretBindingIds currentUserId datasetId).isOk

def loadVisibleDocumentForUser (store : DocumentMemberships) : Except ApiError Document :=
  if !ownerUserIdIsVisible store.document.ownerUserId currentUserId then .error .documentNotFound
  else if documentHasVisibleDatasetScope datasets activeSecretBindingIds currentUserId store then .ok store.document
  else .error .documentNotFound

def ensureOwnerManagedResource (missing : ApiError) (ownerUserId currentUserId : Option UserId) : Except ApiError Unit :=
  if ownerUserId.isSome && ownerUserId ≠ currentUserId then .error missing else .ok ()

def findDataset (datasetId : DatasetId) : Except ApiError Dataset :=
  match datasets.find datasetId with
  | none => .error .datasetNotFound
  | some dataset => .ok dataset

def shouldCreateSecondaryDatasetMembership (canonicalDatasetId targetDatasetId : DatasetId) : Bool :=
  canonicalDatasetId ≠ targetDatasetId

def ensureDocumentDatasetMembershipScopeCompatible (document : Document) (canonicalDataset targetDataset : Dataset) :
    Except ApiError Unit :=
  if documentScopeCanContributeToDataset document canonicalDataset targetDataset then .ok ()
  else .error .documentDatasetScopeIncompatible

def addDocumentDatasetMembershipForUser (store : DocumentMemberships) (datasetId : DatasetId) :
    Except ApiError DocumentMemberships := do
  let document ← loadVisibleDocumentForUser datasets activeSecretBindingIds currentUserId store
  ensureOwnerManagedResource .documentNotFound document.ownerUserId currentUserId
  let dataset ← loadVisibleDatasetForUser datasets activeSecretBindingIds currentUserId datasetId
  ensureOwnerManagedResource .datasetNotFound dataset.ownerUserId currentUserId
  if shouldCreateSecondaryDatasetMembership document.datasetId datasetId then
    let canonicalDataset ← findDataset datasets document.datasetId
    ensureDocumentDatasetMembershipScopeCompatible document canonicalDataset dataset
    return { store with memberships := store.memberships.insert datasetId () }
  else return store

def candidateMembershipDatasetIdsAfterRemoval (membershipDatasetIds : List DatasetId) (removedDatasetId : DatasetId) :
    List DatasetId :=
  membershipDatasetIds.filter (· ≠ removedDatasetId)

def selectCompatiblePromotionDataset (document : Document) (canonicalDataset : Dataset)
    (visibleCandidateDatasets : List Dataset) : Except ApiError Dataset :=
  match visibleCandidateDatasets.find? (documentScopeCanContributeToDataset document canonicalDataset ·) with
  | some dataset => .ok dataset
  | none =>
    if visibleCandidateDatasets.isEmpty then .error .documentDatasetMembershipRequired
    else .error .documentDatasetScopeIncompatible

def documentDatasetMembershipUpdateMetadata (removedDatasetId promotedDatasetId : DatasetId) (updatedAt : String) : Value :=
  json [("removed_dataset_id", .string removedDatasetId.text), ("promoted_dataset_id", .string promotedDatasetId.text),
    ("updated_at", .string updatedAt)]

def Document.moveToDataset (document : Document) (removedDatasetId datasetId : DatasetId) (updatedAt : String) : Document :=
  { document with
    datasetId
    metadata := document.metadata.insert "dataset_membership_update"
      (documentDatasetMembershipUpdateMetadata removedDatasetId datasetId updatedAt) }

/-- The dataset that becomes canonical when the canonical one is removed. -/
def promotedDataset (store : DocumentMemberships) (removedDatasetId : DatasetId) : Except ApiError Dataset := do
  let canonicalDataset ← findDataset datasets store.document.datasetId
  let candidateDatasetIds := candidateMembershipDatasetIdsAfterRemoval store.listDatasetIds removedDatasetId
  let visibleCandidateDatasets := candidateDatasetIds.filterMap fun datasetId =>
    (loadVisibleDatasetForUser datasets activeSecretBindingIds currentUserId datasetId).toOption
  selectCompatiblePromotionDataset store.document canonicalDataset visibleCandidateDatasets

def removeCanonicalDatasetMembership (store : DocumentMemberships) (removedDatasetId : DatasetId) (now : String) :
    Except ApiError DocumentMemberships := do
  let promoted ← promotedDataset datasets activeSecretBindingIds currentUserId store removedDatasetId
  return { document := store.document.moveToDataset removedDatasetId promoted.id now
           memberships := store.memberships.erase promoted.id }

def removeDocumentDatasetMembershipForUser (store : DocumentMemberships) (datasetId : DatasetId) (now : String) :
    Except ApiError DocumentMemberships := do
  let document ← loadVisibleDocumentForUser datasets activeSecretBindingIds currentUserId store
  ensureOwnerManagedResource .documentNotFound document.ownerUserId currentUserId
  let _ ← loadVisibleDatasetForUser datasets activeSecretBindingIds currentUserId datasetId
  if document.datasetId = datasetId then
    removeCanonicalDatasetMembership datasets activeSecretBindingIds currentUserId store datasetId now
  else return { store with memberships := store.memberships.erase datasetId }

end Calls

/-- A call with the rights of its caller; a removal also carries its time. -/
inductive MembershipCall where
  | add (activeSecretBindingIds : List SecretBindingId) (currentUserId : Option UserId) (datasetId : DatasetId)
  | remove (activeSecretBindingIds : List SecretBindingId) (currentUserId : Option UserId) (datasetId : DatasetId)
    (now : String)

def MembershipCall.run (datasets : DatasetTable) (store : DocumentMemberships) :
    MembershipCall → Except ApiError DocumentMemberships
  | .add secrets user datasetId => addDocumentDatasetMembershipForUser datasets secrets user store datasetId
  | .remove secrets user datasetId now => removeDocumentDatasetMembershipForUser datasets secrets user store datasetId now

/-- What is stored after a call; a call that fails stores nothing. -/
def afterCall (datasets : DatasetTable) (store : DocumentMemberships) (call : MembershipCall) : DocumentMemberships :=
  match call.run datasets store with
  | .ok next => next
  | .error _ => store

end DataMax.DocumentSharing
