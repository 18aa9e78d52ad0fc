import DataMax.Domain.Hex
import DataMax.Json.Value

/-! The key of the dataset that parsed external documents go to, made of the external ids
of its source and of the dataset. -/

namespace DataMax.ExternalDocument

open Domain Json Library

/-- SHA-256, as a digest of 32 bytes. -/
structure Sha256 where
  digest : String → List UInt8
  width : ∀ text, (digest text).length = 32

/-- The first twelve digits of the digest. -/
def Sha256.prefixDigits (sha256 : Sha256) (text : String) : List Char :=
  (hex (sha256.digest text)).toList.take 12

/-- The ids that a dataset is made for. -/
structure ExternalIds where
  sourceId : String
  datasetExternalId : Option String
  deriving DecidableEq

/-- One step of the loop: the slug so far, and whether it ends with a separator. -/
def slugStep (state : List Char × Bool) (character : Char) : List Char × Bool :=
  if character.isAlphanum then (state.1 ++ [character.toLower], false)
  else if state.1 ≠ [] ∧ state.2 = false then (state.1 ++ ['-'], true)
  else state

/-- Hyphens at the end are popped. -/
def dropHyphens (slug : List Char) : List Char := slug.rdropWhile (· == '-')

section Keys

variable (sha256 : Sha256)

/-- The slug of an id. It is ASCII, so its bytes are its characters. -/
def externalDocumentParseDatasetKeyComponent (value : String) : List Char :=
  let slug := dropHyphens ((trim value).toList.foldl slugStep ([], false)).1
  if slug = [] then "ref-".toList ++ sha256.prefixDigits value
  else if 64 < slug.length then dropHyphens (slug.take 48) ++ '-' :: sha256.prefixDigits value
  else slug

def compactExternalDocumentParseDatasetKey (key : List Char) : List Char :=
  if key.length ≤ 128 then key
  else dropHyphens (key.take 112) ++ '-' :: sha256.prefixDigits (.ofList key)

def rawKey (ids : ExternalIds) : List Char :=
  let sourceSlug := externalDocumentParseDatasetKeyComponent sha256 ids.sourceId
  match ids.datasetExternalId with
  | some datasetExternalId => "external-source-".toList ++ sourceSlug ++ "-dataset-".toList ++
      externalDocumentParseDatasetKeyComponent sha256 datasetExternalId
  | none => "external-source-".toList ++ sourceSlug

def externalDocumentParseDatasetKey (ids : ExternalIds) : String :=
  .ofList (compactExternalDocumentParseDatasetKey sha256 (rawKey sha256 ids))

inductive DatasetLifecycle where
  | draft
  | active
  | archived
  deriving DecidableEq

structure Dataset where
  key : String
  lifecycle : DatasetLifecycle
  metadata : Map

def externalSource (metadata : Map) : Option Value :=
  ((metadata.get? "external_source").or (metadata.get? "externalSource")).filter Value.isObject

def nonEmptyTrimmedString (value : String) : Option String :=
  if trim value = "" then none else some (trim value)

def externalDocumentSourceIdFromMetadata (metadata : Map) : Option String := do
  let object ← externalSource metadata
  let sourceId ← (object.get "source_id").or (object.get "sourceId") >>= Value.asStr
  nonEmptyTrimmedString sourceId

def externalDocumentDatasetExternalIdsFromMetadata (metadata : Map) : List String :=
  match externalSource metadata with
  | none => []
  | some object => (["dataset_external_id", "datasetExternalId", "requested_dataset_external_id",
      "requestedDatasetExternalId"].filterMap fun key =>
        object.get key >>= Value.asStr >>= nonEmptyTrimmedString).eraseDups

/-- The dataset is accepted for its key. -/
def matchesByKey (dataset : Dataset) (sourceId datasetExternalId : String) : Bool :=
  dataset.lifecycle ≠ .archived &&
    dataset.key = externalDocumentParseDatasetKey sha256 ⟨sourceId, some datasetExternalId⟩

def externalDatasetMatchesExternalDocumentParseDataset (dataset : Dataset) (sourceId datasetExternalId : String) : Bool :=
  if dataset.lifecycle = .archived then false
  else if matchesByKey sha256 dataset sourceId datasetExternalId then true
  else externalDocumentSourceIdFromMetadata dataset.metadata = some sourceId &&
    (externalDocumentDatasetExternalIdsFromMetadata dataset.metadata).contains datasetExternalId

end Keys

end DataMax.ExternalDocument
