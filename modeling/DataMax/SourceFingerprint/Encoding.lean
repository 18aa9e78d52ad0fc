import DataMax.Domain.Hex
import DataMax.Domain.Identifier
import DataMax.Library.Selection

/-! The fingerprint of what a dataset's semantic model is built from: each source
is written as a line of parts with their lengths, and the set of the lines is
digested. -/

namespace DataMax.SourceFingerprint

open Domain Library

structure SemanticDocumentSourceVersion where
  documentId : UuidBytes
  sourceDatasetId : UuidBytes
  ownerUserId : Option UuidBytes
  secretBindingIds : List UuidBytes
  updatedAt : DateTime
  parseVersions : List String
  factSnapshotVersions : List String

structure SemanticDatasetScopeVersion where
  tenantId : UuidBytes
  datasetId : UuidBytes
  ownerUserId : Option UuidBytes
  visibility : String
  defaultSecretBindingIds : List UuidBytes
  updatedAt : DateTime

structure SemanticDatasetMembershipVersion where
  documentId : UuidBytes
  membershipKind : String
  source : String
  expiresAt : Option DateTime
  createdAt : DateTime

structure SemanticSourceIdentityVersion where
  sourceKind : String
  sourceSystemKey : String
  sourceSchemaKey : String
  sourceObjectKey : String

structure SemanticAssetSourceVersion where
  assetId : UuidBytes
  updatedAt : DateTime
  profileVersions : List String

structure SemanticSourceFingerprintInput where
  datasetScope : Option SemanticDatasetScopeVersion
  documents : List SemanticDocumentSourceVersion
  assets : List SemanticAssetSourceVersion
  memberships : List SemanticDatasetMembershipVersion
  sourceIdentities : List SemanticSourceIdentityVersion
  datasetFactSnapshotVersion : Option String
  dictionaryVersions : List String

/-- The lengths are counted in bytes. -/
def canonicalComponent (kind : String) (parts : List String) : String :=
  parts.foldl (fun output part => output ++ "|" ++ toString part.utf8ByteSize ++ ":" ++ part)
    (toString kind.utf8ByteSize ++ ":" ++ kind)

def optionalUserId (value : Option UuidBytes) : String := (value.map UuidBytes.text).getD "none"

def normalizedSecretBindingIds (values : List UuidBytes) : List String := distinctBy id (values.map UuidBytes.text)

def normalizedIdentityPart (value : String) : String := asciiLower (trim value)

def normalizedVersions (values : List String) : List String :=
  distinctBy id ((values.map trim).filter (· ≠ ""))

section Components

-- `rfc3339` writes an instant with nanoseconds and a trailing `Z`.
variable (rfc3339 : DateTime → String)

def scopeParts (scope : SemanticDatasetScopeVersion) : List String :=
  [scope.tenantId.text, scope.datasetId.text, optionalUserId scope.ownerUserId,
    normalizedIdentityPart scope.visibility,
    ",".intercalate (normalizedSecretBindingIds scope.defaultSecretBindingIds), rfc3339 scope.updatedAt]

def documentParts (document : SemanticDocumentSourceVersion) : List String :=
  [document.documentId.text, document.sourceDatasetId.text, optionalUserId document.ownerUserId,
    ",".intercalate (normalizedSecretBindingIds document.secretBindingIds), rfc3339 document.updatedAt,
    ",".intercalate (normalizedVersions document.parseVersions),
    ",".intercalate (normalizedVersions document.factSnapshotVersions)]

def assetParts (asset : SemanticAssetSourceVersion) : List String :=
  [asset.assetId.text, rfc3339 asset.updatedAt, ",".intercalate (normalizedVersions asset.profileVersions)]

def membershipParts (membership : SemanticDatasetMembershipVersion) : List String :=
  [membership.documentId.text, normalizedIdentityPart membership.membershipKind, trim membership.source,
    (membership.expiresAt.map rfc3339).getD "none", rfc3339 membership.createdAt]

def identityParts (identity : SemanticSourceIdentityVersion) : List String :=
  [normalizedIdentityPart identity.sourceKind, normalizedIdentityPart identity.sourceSystemKey,
    normalizedIdentityPart identity.sourceSchemaKey, normalizedIdentityPart identity.sourceObjectKey]

def snapshotWord (version : Option String) : String := trim (version.getD "none")

/-- The components in the order in which they are pushed, each with its kind. -/
def components (input : SemanticSourceFingerprintInput) : List (String × List String) :=
  (input.datasetScope.toList.map fun scope => ("dataset_scope", scopeParts rfc3339 scope)) ++
    (input.documents.map fun document => ("document", documentParts rfc3339 document)) ++
    (input.assets.map fun asset => ("asset", assetParts rfc3339 asset)) ++
    (input.memberships.map fun membership => ("membership", membershipParts rfc3339 membership)) ++
    (input.sourceIdentities.map fun identity => ("source_identity", identityParts identity)) ++
    [("dataset_fact_snapshot", [snapshotWord input.datasetFactSnapshotVersion])] ++
    (normalizedVersions input.dictionaryVersions).map fun version => ("semantic_dictionary", [version])

/-- `sort` and `dedup` of the lines. -/
def canonical (input : SemanticSourceFingerprintInput) : List String :=
  dedupAdjacent id (sortBy compare ((components rfc3339 input).map fun component =>
    canonicalComponent component.1 component.2))

def sourceFingerprint (sha256 : String → List UInt8) (input : SemanticSourceFingerprintInput) : String :=
  hex (sha256 (String.join ((canonical rfc3339 input).map (· ++ "\n"))))

end Components

end DataMax.SourceFingerprint
