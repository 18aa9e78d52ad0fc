import DataMax.Json.Text
import DataMax.SemanticGraph.Matcher
import DataMax.SemanticLabel.Aliases

/-! What a link graph must not show: markers of identifiers, secrets and paths, in
a label before the graph is built and in the text of the graph afterwards. -/

namespace DataMax.SemanticLink

open Domain Json Library SemanticLabel SemanticGraph SemanticUnderstanding

section Markers

def asciiTokenIsDirectPersonIdentifier (token : String) : Bool :=
  if token ∈ ["pid", "personid", "personidentifier"] || contains token "personid" ||
      contains token "personidentifier" || startsWith token "pid" then true
  else contains token "pid" && containsAny token ["raw", "hash", "value", "source", "external", "customer", "visitor",
    "user", "subject", "member", "person", "key", "code", "identifier"]

def personIdentifierPhrases : List String := ["person_id", "person-id", "person id", "person_identifier"]

def containsDirectPersonIdentifierMarker (value : String) : Bool :=
  let lower := asciiLower value
  containsAny lower personIdentifierPhrases ||
    (lower.toList.splitOnP fun character => !character.isAlphanum).any fun token =>
      asciiTokenIsDirectPersonIdentifier (.ofList token)

end Markers

section Labels

-- `parseUuid` reads a UUID in any of its written forms.
variable (tables : TextTables) (parseUuid : String → Option UuidBytes)

def looksOpaqueSemanticLabel (value : String) : Bool :=
  let compact := value.toList.filter fun character => !(['-', '_', ':', ' '].contains character)
  let hexadecimal := 16 ≤ (String.ofList compact).utf8ByteSize && compact.all isAsciiHexdigit
  let opaqueToken := 24 ≤ (String.ofList compact).utf8ByteSize && compact.all Char.isAlphanum &&
    compact.any Char.isLower && compact.any Char.isUpper && compact.any Char.isDigit
  (parseUuid value).isSome || hexadecimal || opaqueToken

def internalLabelMarkers : List String := ["/home/", "/users/", "/root/", "/tmp/", "/var/", "file://", "postgres://",
  "mysql://", "jdbc:", "s3://", "oss://", "sha256", "hmac", "http://", "https://", "token=", "password=", "passwd=",
  "secret=", "api_key=", "apikey=", "bearer "]

/-- A Unicode control character, `char::is_control`. -/
def isControl (character : Char) : Bool :=
  character.toNat < 0x20 || (0x7F ≤ character.toNat && character.toNat < 0xA0)

def safeSemanticLinkLabel (value fallback : String) : String :=
  let compact := " ".intercalate (words value)
  let lower := asciiLower compact
  let internal := looksLikeDrive lower || startsWith lower "\\\\" || containsDirectPersonIdentifierMarker lower ||
    containsAny lower internalLabelMarkers
  if compact = "" || 48 < compact.toList.length || compact.toList.any isControl || internal ||
      looksOpaqueSemanticLabel parseUuid compact then fallback
  else (safeSemanticBusinessLabel tables.toCharClasses compact).getD fallback

end Labels

section Manifest

def manifestMarkers : List String := ["sha256", "hmac", "content_identity", "source_identity", "technical_name",
  "observed_values", "examples", "raw_value", "object_key", "token=", "password=", "passwd=", "secret=", "api_key=",
  "apikey=", "bearer ", "file://", "http://", "https://", "postgres://", "mysql://", "jdbc:", "c:\\\\", "/home/",
  "/users/", "/root/"]

-- `floatText` writes a double by its bits.
variable (floatText : UInt64 → String)

def datasetSemanticLinkManifestIsSafe (manifest : Value) : Bool :=
  let serialized := asciiLower (manifest.text floatText)
  !containsDirectPersonIdentifierMarker serialized && !containsAny serialized manifestMarkers

/-- A double by its bits; what is not a number has no text. -/
def ofFloat64 : Float64 → Value
  | .nan => .null
  | .ranked rank _ =>
    if rank.natAbs < infinityRank then
      .number (.float (.ofNat (if rank < 0 then 2 ^ 63 + rank.natAbs else rank.natAbs)))
    else .null

def ofNat (count : Nat) : Value := .number (.posInt (.ofNat count))

def relationSemanticsName : SemanticRelationSemantics → String
  | .identity => "identity"
  | .reference => "reference"
  | .structureRelation => "structure"
  | .similarity => "similarity"

def ofUuids (ids : List UuidBytes) : Value := .array (ids.map fun id => .string id.text)

def datasetValue (dataset : DatasetSemanticGraphDataset) : Value :=
  json [("id", .string dataset.id.text), ("title", .string dataset.title), ("stale", .bool dataset.stale)]

def nodeValue (node : DatasetSemanticGraphNode) : Value :=
  json [("id", .string node.id), ("kind", .string node.kind.sharedIdKind), ("display_label", .string node.displayLabel),
    ("dataset_refs", ofUuids node.datasetRefs),
    ("visible_provenance_count", .number (.posInt node.visibleProvenanceCount))]

def edgeValue (edge : DatasetSemanticGraphEdge) : Value :=
  json [("id", .string edge.id), ("source_id", .string edge.sourceId), ("target_id", .string edge.targetId),
    ("relation_type", .string edge.relationType), ("label", .string edge.label),
    ("relation_semantics", .string (relationSemanticsName edge.relationSemantics)),
    ("evidence_class", .string (evidenceName edge.evidenceClass)), ("confidence", ofFloat64 edge.confidence),
    ("reason", .string edge.reason), ("cross_dataset", .bool edge.crossDataset),
    ("supporting_dataset_ids", ofUuids edge.supportingDatasetIds)]

/-- The serialized graph. -/
def graphValue (graph : DatasetSemanticGraphV1) : Value :=
  json [("schema_version", .string graph.schemaVersion), ("root_dataset_id", .string graph.rootDatasetId.text),
    ("datasets", .array (graph.datasets.map datasetValue)), ("nodes", .array (graph.nodes.map nodeValue)),
    ("edges", .array (graph.edges.map edgeValue)),
    ("truncated", json [("datasets", ofNat graph.truncated.datasets), ("nodes", ofNat graph.truncated.nodes),
      ("edges", ofNat graph.truncated.edges)]),
    ("stale", .bool graph.stale)]

end Manifest

end DataMax.SemanticLink
