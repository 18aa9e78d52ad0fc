import DataMax.Domain.Hex
import DataMax.Ingest.SheetFormat
import DataMax.Json.Access
import DataMax.Json.Text
import DataMax.Library.SortedSet
import DataMax.SemanticLink.Privacy

/-! The key under which a published page is found again: the parts of its scope, sorted and joined. -/

namespace DataMax.StaticPage

open Domain Json Library
open Ingest (trimEndMatches)
open SemanticLink (isControl)

def staticPageStableKeyToken (value : String) : Option String :=
  let normalized := String.ofList ((trim value).toList.filter fun ch => !isControl ch)
  if normalized = "" then none
  else some (replaceText ":" "\\:" (replaceText "|" "\\|" (replaceText "\\" "\\\\" normalized)))

def pushExternalId (ids : List String) (value : Value) : List String :=
  match (value.asStr.map trim).filter (· ≠ "") with
  | none => ids
  | some id => if id ∈ ids then ids else ids ++ [id]

def externalStringIdsFromPayloadValue (value : Value) : List String :=
  let rawValues := match value with
    | .array items => items
    | other => [other]
  rawValues.foldl pushExternalId []

/-- The items of a list that may be absent. -/
def arrayItems (value : Option Value) : List Value := (value.bind Value.asArray).getD []

section Selection

variable (parseUuid : String → Option UuidBytes)

def datasetIdFromScopeItem (item : Value) : Option UuidBytes :=
  if ((item.get "type").bind Value.asStr).any (· ≠ "dataset") then none
  else (item.asStr.or ((item.get "id").bind Value.asStr)).bind parseUuid

def pushDatasetId (datasetIds : List UuidBytes) (item : Value) : List UuidBytes :=
  match datasetIdFromScopeItem parseUuid item with
  | none => datasetIds
  | some datasetId => if datasetId ∈ datasetIds then datasetIds else datasetIds ++ [datasetId]

def selectedDatasetIdsFromScope (scope : Value) : List UuidBytes :=
  ["datasets", "selected"].foldl (fun datasetIds key =>
    (arrayItems (scope.get key)).foldl (pushDatasetId parseUuid) datasetIds) []

end Selection

/-- The `BTreeSet` of the parts. -/
abbrev ScopeParts := SortedSet String

section Insertion

variable (output : ScopeParts) (start : String)

def insertPart (token : Option String) : ScopeParts := match token with
  | none => output
  | some token => SortedSet.add output (start ++ ":" ++ token)

def staticPageStableKeyInsertValue (value : Option Value) : ScopeParts := match value with
  | none => output
  | some value => (externalStringIdsFromPayloadValue value).foldl (fun output raw =>
      insertPart output start (staticPageStableKeyToken raw)) output

/-- The token of the first key that has one. -/
def firstToken (keys : List String) (item : Value) : Option String :=
  keys.findSome? fun key => ((item.get key).bind Value.asStr).bind staticPageStableKeyToken

def scopeItemIdKeys : List String := ["id", "dataset_id", "datasetId", "document_id", "documentId"]

def scopeItemExternalIdKeys : List String :=
  ["document_external_id", "documentExternalId", "external_document_id", "externalDocumentId"]

def staticPageStableKeyInsertScopeItemId (item : Value) : ScopeParts :=
  insertPart output start (firstToken scopeItemIdKeys item)

def staticPageStableKeyInsertScopeItemExternalId (item : Value) : ScopeParts :=
  insertPart output start (firstToken scopeItemExternalIdKeys item)

end Insertion

section Collection

variable (floatText : UInt64 → String) (parseUuid : String → Option UuidBytes) (parts : ScopeParts)
  (selectedScope sourceRefs : Value)

def hasPart (starts : List String) : Bool :=
  (SortedSet.toList parts).any fun part => starts.any fun start => startsWith part start

def externalDatasetStarts : List String :=
  ["dataset_external_id:", "requested_dataset_external_id:", "available_dataset_external_id:"]

def datasetStarts : List String := externalDatasetStarts ++ ["canonical_dataset_id:", "dataset_id:"]

/-- The values of the keys, each under the key without its last letters `s`. -/
def insertValues (keys : List String) (valueOf : String → Option Value) : ScopeParts :=
  keys.foldl (fun parts key => staticPageStableKeyInsertValue parts (trimEndMatches 's' key) (valueOf key)) parts

def collectExternalDatasets : ScopeParts :=
  let parts := insertValues parts
    ["dataset_external_ids", "requested_dataset_external_ids", "available_dataset_external_ids"] selectedScope.get
  match selectedScope.get "dataset_document_scope" with
  | none => parts
  | some datasetScope => insertValues parts ["dataset_external_ids", "requested_dataset_external_ids"] datasetScope.get

def collectCanonicalDatasets : ScopeParts :=
  (arrayItems (selectedScope.get "canonical_datasets")).foldl (fun parts item =>
    staticPageStableKeyInsertScopeItemId parts "canonical_dataset_id" item) parts

def collectSelectedDatasets : ScopeParts :=
  (selectedDatasetIdsFromScope parseUuid selectedScope).foldl (fun parts datasetId =>
    SortedSet.add parts ("dataset_id:" ++ datasetId.text)) parts

def collectDocuments : ScopeParts :=
  let parts := staticPageStableKeyInsertValue parts "available_document_external_id"
    (selectedScope.get "available_document_external_ids")
  (arrayItems (selectedScope.get "documents")).foldl (fun parts item =>
    staticPageStableKeyInsertScopeItemId (staticPageStableKeyInsertScopeItemExternalId parts "document_external_id" item)
      "document_id" item) parts

def collectDatabaseSources : ScopeParts :=
  insertValues parts ["database_source_ids", "databaseSourceIds", "database_source_id", "databaseSourceId"]
    fun key => (sourceRefs.get key).or (selectedScope.get key)

def insertCandidate (parts : ScopeParts) (candidate : Value) : ScopeParts :=
  let parts := insertPart parts "recipient_role" (((candidate.get "role").bind Value.asStr).bind staticPageStableKeyToken)
  insertPart parts "recipient_scope" (((candidate.get "default_scope").bind Value.asStr).bind staticPageStableKeyToken)

/-- A mapping that is not `null` goes in as its JSON text. -/
def insertMapping (providedMapping : Option Value) : ScopeParts := match providedMapping with
  | none => parts
  | some .null => parts
  | some mapping => insertPart parts "recipient_mapping" (staticPageStableKeyToken (mapping.text floatText))

def collectRecipients : ScopeParts := match sourceRefs.get "recipient_delivery" with
  | none => parts
  | some recipientDelivery =>
    let parts := staticPageStableKeyInsertValue parts "recipient_user" (recipientDelivery.get "target_external_user_ids")
    let parts := (arrayItems (recipientDelivery.get "role_scope_candidates")).foldl insertCandidate parts
    insertMapping floatText parts (recipientDelivery.get "provided_mapping")

/-- Datasets are looked for in three places, one after the other, and documents only where there is no dataset. -/
def staticPageStableKeyCollectScopeParts (connectionId : Option String) : ScopeParts :=
  let parts := insertPart .empty "channel" (connectionId.bind staticPageStableKeyToken)
  let parts := collectExternalDatasets parts selectedScope
  let hasDatasetExternalScope := hasPart parts externalDatasetStarts
  let parts := if hasDatasetExternalScope then parts else collectCanonicalDatasets parts selectedScope
  let hasCanonicalDatasetScope := hasPart parts ["canonical_dataset_id:"]
  let parts := if hasDatasetExternalScope || hasCanonicalDatasetScope then parts
    else collectSelectedDatasets parseUuid parts selectedScope
  let parts := if hasPart parts datasetStarts then parts else collectDocuments parts selectedScope
  collectRecipients floatText (collectDatabaseSources parts selectedScope sourceRefs) sourceRefs

def materialStarts : List String := ["dataset_external_id:", "requested_dataset_external_id:", "canonical_dataset_id:",
  "dataset_id:", "available_document_external_id:", "document_external_id:", "document_id:", "database_source_id:",
  "databaseSourceId:"]

def staticPageDatasetArtifactKey (templateStabilityKey : String) (connectionId : Option String) : Option String :=
  let scopeParts := staticPageStableKeyCollectScopeParts floatText parseUuid selectedScope sourceRefs connectionId
  if hasPart scopeParts materialStarts then
    some ("|".intercalate ("v3-static-page" :: templateStabilityKey :: SortedSet.toList scopeParts))
  else none

end Collection

end DataMax.StaticPage
