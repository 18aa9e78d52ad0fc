import DataMax.Domain.Identifier
import DataMax.Domain.Text
import DataMax.Json.Value

/-! Who sees a dataset, and into which datasets a document can be shared. -/

namespace DataMax.DocumentSharing

open Domain Json

abbrev UserId := Uuid
abbrev SecretBindingId := Uuid
abbrev DocumentId := Uuid

inductive DatasetVisibility where
  | publicDataset
  | privateDataset
  deriving DecidableEq

structure Dataset where
  id : DatasetId
  tenantId : TenantId
  ownerUserId : Option UserId
  visibility : DatasetVisibility
  defaultSecretBindingIds : List SecretBindingId
  metadata : Map

structure Document where
  id : DocumentId
  tenantId : TenantId
  datasetId : DatasetId
  ownerUserId : Option UserId
  secretBindingIds : List SecretBindingId
  metadata : Map

inductive DocumentContributionScopeMismatch where
  | tenant
  | canonicalDataset
  | owner
  | visibility
  | secretBinding
  | localThread
  deriving DecidableEq

section Requests

def localOnly (metadata : Map) : Bool := ((metadata.get? "local_only").bind Value.asBool).getD false

/-- The thread id as it is stored. -/
def storedThreadId (metadata : Map) : Option String :=
  ((metadata.get? "local_thread_id").bind Value.asStr).filter (· ≠ "")

def ownerUserIdIsVisible (ownerUserId currentUserId : Option UserId) : Bool :=
  ownerUserId.isNone || ownerUserId = currentUserId

def datasetIsVisible (dataset : Dataset) (activeSecretBindingIds : List SecretBindingId)
    (currentUserId : Option UserId) : Bool :=
  (dataset.ownerUserId.isSome && dataset.ownerUserId = currentUserId) ||
    (dataset.ownerUserId.isNone && dataset.visibility = .publicDataset) ||
    dataset.defaultSecretBindingIds.any (activeSecretBindingIds.contains ·)

def datasetLocalScopeIsVisible (dataset : Dataset) (localThreadId : Option String) : Bool :=
  if !localOnly dataset.metadata || dataset.ownerUserId.isSome then true
  else (storedThreadId dataset.metadata).isSome && storedThreadId dataset.metadata = localThreadId

def datasetIsVisibleByLocalThreadScope (dataset : Dataset) (localThreadId : Option String) : Bool :=
  dataset.ownerUserId.isNone && localOnly dataset.metadata && (storedThreadId dataset.metadata).isSome &&
    storedThreadId dataset.metadata = localThreadId

def datasetIsVisibleForRequest (dataset : Dataset) (activeSecretBindingIds : List SecretBindingId)
    (currentUserId : Option UserId) (localThreadId : Option String) : Bool :=
  (datasetIsVisible dataset activeSecretBindingIds currentUserId && datasetLocalScopeIsVisible dataset localThreadId) ||
    datasetIsVisibleByLocalThreadScope dataset localThreadId

end Requests

section Contribution

/-- The thread that an object without an owner is confined to. -/
def localThreadScope (ownerUserId : Option UserId) (metadata : Map) :
    Except DocumentContributionScopeMismatch (Option String) :=
  if !localOnly metadata || ownerUserId.isSome then .ok none
  else match (((metadata.get? "local_thread_id").bind Value.asStr).map trim).filter (· ≠ "") with
    | some thread => .ok (some thread)
    | none => .error .localThread

def datasetLocalThreadScope (dataset : Dataset) : Except DocumentContributionScopeMismatch (Option String) :=
  localThreadScope dataset.ownerUserId dataset.metadata

def documentLocalThreadScope (document : Document) : Except DocumentContributionScopeMismatch (Option String) :=
  localThreadScope document.ownerUserId document.metadata

/-- `matches!(scope, Ok(None))` -/
def isUnconfined : Except DocumentContributionScopeMismatch (Option String) → Bool
  | .ok none => true
  | _ => false

def targetScopeIsUnrestrictedPublic (dataset : Dataset) : Bool :=
  dataset.ownerUserId.isNone && dataset.visibility = .publicDataset && isUnconfined (datasetLocalThreadScope dataset)

def sourceScopeIsUnrestrictedPublic (document : Document) (dataset : Dataset) : Bool :=
  document.ownerUserId.isNone && document.secretBindingIds.isEmpty &&
    isUnconfined (documentLocalThreadScope document) && targetScopeIsUnrestrictedPublic dataset

def secretSetIsSubset (candidateSubset candidateSuperset : List SecretBindingId) : Bool :=
  candidateSubset.all (candidateSuperset.contains ·)

variable (document : Document) (canonicalDataset targetDataset : Dataset)

def ownerScopeMismatch : Bool :=
  match document.ownerUserId, canonicalDataset.ownerUserId with
  | some documentOwner, canonicalOwner =>
    let canonicalScopeAllowsOwner := canonicalOwner = some documentOwner ||
      (canonicalOwner.isNone && canonicalDataset.visibility = .publicDataset &&
        isUnconfined (datasetLocalThreadScope canonicalDataset))
    !canonicalScopeAllowsOwner || targetDataset.ownerUserId ≠ some documentOwner ||
      !targetDataset.defaultSecretBindingIds.isEmpty
  | none, some sourceOwner => targetDataset.ownerUserId ≠ some sourceOwner
  | none, none => canonicalDataset.visibility ≠ .publicDataset && targetDataset.ownerUserId.isSome

def localThreadMismatch : Bool :=
  match datasetLocalThreadScope canonicalDataset, documentLocalThreadScope document,
    datasetLocalThreadScope targetDataset with
  | .ok source, .ok document', .ok target =>
    if source.isSome && document'.isSome && source ≠ document' then true
    else match document'.or source with
      | some sourceThread => target ≠ some sourceThread
      | none => target.isSome && !sourceScopeIsUnrestrictedPublic document canonicalDataset
  | _, _, _ => true

def documentContributionScopeMismatch : Option DocumentContributionScopeMismatch :=
  if document.tenantId ≠ canonicalDataset.tenantId ∨ document.tenantId ≠ targetDataset.tenantId then some .tenant
  else if document.datasetId ≠ canonicalDataset.id then some .canonicalDataset
  else if ownerScopeMismatch document canonicalDataset targetDataset then some .owner
  else if localThreadMismatch document canonicalDataset targetDataset then some .localThread
  else if targetScopeIsUnrestrictedPublic targetDataset && !sourceScopeIsUnrestrictedPublic document canonicalDataset then
    some .visibility
  else if canonicalDataset.visibility ≠ .publicDataset && !secretSetIsSubset targetDataset.defaultSecretBindingIds
      canonicalDataset.defaultSecretBindingIds then some .secretBinding
  else if !document.secretBindingIds.isEmpty && !secretSetIsSubset targetDataset.defaultSecretBindingIds
      document.secretBindingIds then some .secretBinding
  else none

def documentScopeCanContributeToDataset : Bool :=
  (documentContributionScopeMismatch document canonicalDataset targetDataset).isNone

end Contribution

section Facts

variable {document : Document} {canonicalDataset targetDataset : Dataset}

/-- What a document that can be shared has been checked for. -/
structure CanContribute (document : Document) (canonicalDataset targetDataset : Dataset) : Prop where
  canonicalTenant : document.tenantId = canonicalDataset.tenantId
  targetTenant : document.tenantId = targetDataset.tenantId
  canonical : document.datasetId = canonicalDataset.id
  owner : ownerScopeMismatch document canonicalDataset targetDataset = false
  localThread : localThreadMismatch document canonicalDataset targetDataset = false
  unrestricted : targetScopeIsUnrestrictedPublic targetDataset → sourceScopeIsUnrestrictedPublic document canonicalDataset
  canonicalSecrets : canonicalDataset.visibility ≠ .publicDataset →
    targetDataset.defaultSecretBindingIds ⊆ canonicalDataset.defaultSecretBindingIds
  documentSecrets : document.secretBindingIds ≠ [] →
    targetDataset.defaultSecretBindingIds ⊆ document.secretBindingIds

theorem secretSetIsSubset_iff {subset superset : List SecretBindingId} :
    secretSetIsSubset subset superset ↔ subset ⊆ superset := by
  simp [secretSetIsSubset, List.subset_def]

theorem canContribute_iff : documentScopeCanContributeToDataset document canonicalDataset targetDataset ↔
    CanContribute document canonicalDataset targetDataset := by
  have secrets : ∀ subset superset : List SecretBindingId,
      secretSetIsSubset subset superset = false ↔ ¬ subset ⊆ superset := by
    intro subset superset
    rw [← secretSetIsSubset_iff, Bool.not_eq_true]
  rw [documentScopeCanContributeToDataset, documentContributionScopeMismatch]
  constructor
  · intro accepted
    repeat' split at accepted
    all_goals cases accepted
    rename_i tenants canonical owner localThread unrestricted canonicalSecrets documentSecrets
    simp only [ne_eq, not_or, not_not, Bool.and_eq_true, Bool.not_eq_true', not_and, Bool.not_eq_false, Bool.not_eq_true,
      decide_eq_true_eq, List.isEmpty_eq_false_iff, secretSetIsSubset_iff] at *
    exact ⟨tenants.1, tenants.2, canonical, owner, localThread, unrestricted, canonicalSecrets, documentSecrets⟩
  · intro checked
    have tenants : ¬ (document.tenantId ≠ canonicalDataset.tenantId ∨ document.tenantId ≠ targetDataset.tenantId) := by
      simp [← checked.canonicalTenant, ← checked.targetTenant]
    simp only [if_neg tenants, checked.canonical, ne_eq, not_true_eq_false, if_false, checked.owner, checked.localThread,
      Bool.false_eq_true, Bool.and_eq_true, Bool.not_eq_true', decide_eq_true_eq, List.isEmpty_eq_false_iff, secrets]
    rw [if_neg, if_neg, if_neg]
    · rfl
    · exact fun ⟨bound, beyond⟩ => beyond (checked.documentSecrets bound)
    · exact fun ⟨restricted, beyond⟩ => beyond (checked.canonicalSecrets (by simpa using restricted))
    · exact fun ⟨open_, closed⟩ => by simp [checked.unrestricted open_] at closed

end Facts

end DataMax.DocumentSharing
