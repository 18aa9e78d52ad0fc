import DataMax.Domain.Hex
import DataMax.ExternalChannel.PublicText
import DataMax.Json.Value

/-! The events of an external channel: the envelope of one event, and the compact
payload that a stream shows of it. -/

namespace DataMax.ExternalChannel

open Domain Json Library

def externalChannelSseSchemaV1 : String := "v3.external_channel.sse.v1"
def externalChannelPublicStreamDedupeKey : String := "_stream_dedupe_key"

def ofI64 (value : Int64) : Value :=
  .number (if 0 ≤ value then .posInt value.toUInt64 else .negInt value)

/-- `{sequence:06}` -/
def paddedSequence (sequence : Int64) : String :=
  let digits := toString sequence.toInt.natAbs
  let sign := if sequence < 0 then "-" else ""
  sign ++ .ofList (List.replicate (6 - sign.length - digits.length) '0') ++ digits

def eventId (runId : Option UuidBytes) (sequence : Int64) : String :=
  ((runId.map UuidBytes.text).getD "pending") ++ ":" ++ paddedSequence sequence

def ofOption (write : Item → Value) : Option Item → Value
  | some item => write item
  | none => .null

/-- What one public event says. -/
structure SseEvent where
  runId : Option UuidBytes
  idempotencyKey : String
  conversationExternalId : String
  sequence : Int64
  phase : String
  status : String
  displayText : String
  statusUrl : Option String
  pollAfterSeconds : Option UInt64
  data : Value

def envelopeFields (event : SseEvent) : List (String × Value) := [
  ("schema", .string externalChannelSseSchemaV1),
  ("event_id", .string (eventId event.runId event.sequence)),
  ("sequence", ofI64 event.sequence),
  ("assistant_run_id", ofOption (fun runId => .string runId.text) event.runId),
  ("idempotency_key", .string event.idempotencyKey),
  ("conversation_external_id", .string event.conversationExternalId),
  ("phase", .string event.phase),
  ("status", .string event.status),
  ("display_text", .string event.displayText),
  ("status_url", ofOption .string event.statusUrl),
  ("poll_after_seconds", ofOption (fun seconds => .number (.posInt seconds)) event.pollAfterSeconds),
  ("data", event.data)]

def externalChannelSseEnvelope (event : SseEvent) : Map := .ofList (envelopeFields event)

/-- `entry(key).or_insert(value)` -/
def orInsert (map : Map) (entry : String × Value) : Map := match map.get? entry.1 with
  | some _ => map
  | none => map.insert entry.1 entry.2

def objectEntries : Value → List (String × Value)
  | .object entries => entries
  | _ => []

/-- The members of the data stand beside the envelope's own, which they do not replace. -/
def externalChannelSsePublicPayload (event : SseEvent) : Map :=
  (objectEntries event.data).foldl orInsert (externalChannelSseEnvelope event)

/-- `Value::pointer` with the keys of the path. -/
def pointer (value : Value) : List String → Option Value
  | [] => some value
  | key :: rest => (value.get key).bind fun item => pointer item rest

def codexHostFixedTaskPublicArtifactUrlAllowed (publicUrl : String) : Bool :=
  let normalized := trim publicUrl
  !(contains normalized "/generated-artifacts/pending-" || contains normalized "/generated-artifacts/pending/" ||
    endsWith normalized "/generated-artifacts/pending") &&
  (startsWith normalized "https://v3.elepcloud.com/generated-artifacts/" ||
    startsWith normalized "/generated-artifacts/")

/-- A text that is an allowed link, trimmed. -/
def allowedUrl (value : Value) : Option String :=
  (value.asStr.map trim).filter codexHostFixedTaskPublicArtifactUrlAllowed

def arrayItems : Value → List Value
  | .array items => items
  | _ => []

def externalChannelPublicArtifactUrlFromLinksValue (value : Option Value) : Option String :=
  value.bind fun links => (arrayItems links).findSome? allowedUrl

def directArtifactKeys : List String :=
  ["public_url", "generated_artifact_url", "artifact_public_url", "html_download_url", "download_url"]

def artifactPointers : List (List String) := [
  ["finalPage", "public_url"],
  ["finalPage", "generated_artifact_url"],
  ["final_page", "public_url"],
  ["final_page", "generated_artifact_url"],
  ["artifact", "public_url"],
  ["output", "artifact_public_url"]]

def baselinePointers : List (List String) := [
  ["visual_contract_url"],
  ["relaxed_template_match", "baseline_public_url"],
  ["template_reference", "public_url"],
  ["template_reference", "publicUrl"]]

def externalChannelPublicArtifactUrlFromValue (value : Value) : Option String :=
  ((directArtifactKeys.findSome? fun key => (value.get key).bind allowedUrl).or
    (artifactPointers.findSome? fun path => (pointer value path).bind allowedUrl)).or
    (externalChannelPublicArtifactUrlFromLinksValue (value.get "artifact_links"))

def externalChannelStaticPageBaselinePublicUrl (payload : Value) : Option String :=
  (externalChannelPublicArtifactUrlFromValue payload).or
    (baselinePointers.findSome? fun path => (pointer payload path).bind allowedUrl)

def externalChannelStaticPageProvisionalExistingArtifact (card : Option Value) : Bool :=
  (card >>= (·.get "provisional_existing_artifact") >>= Value.asBool) = some true

def externalChannelStaticPageAcceptedTemplateBaseline : Option Value → Bool
  | none => false
  | some card =>
    let reason := (card.get "provisional_existing_artifact_reason").or (card.get "image2_skip_reason")
    let acceptedReason := (reason >>= Value.asStr) = some "accepted_dataset_overlap_template_baseline"
    let acceptedMarker := externalChannelStaticPageProvisionalExistingArtifact (some card) ||
      (card.get "image2_skipped" >>= Value.asBool).getD false
    acceptedReason && acceptedMarker && (externalChannelStaticPageBaselinePublicUrl card).isSome

def externalChannelPublicStatusAllowsArtifactLink (status : String) : Bool :=
  ["static_page_published", "static_page_stable_artifact_reused"].contains (externalChannelPublicStatus status)

def externalChannelPublicStatusAllowsArtifactLinkForCard (status : String) (card : Option Value) : Bool :=
  if externalChannelStaticPageAcceptedTemplateBaseline card then true
  else if externalChannelStaticPageProvisionalExistingArtifact card &&
      externalChannelPublicStatus status != "static_page_stable_artifact_reused" then false
  else externalChannelPublicStatusAllowsArtifactLink status

def externalChannelPublicStatusAllowsPreviewLink (status : String) : Bool :=
  externalChannelPublicStatus status == "static_page_preview_ready"

/-- The keys of internal members. -/
def isInternalKey (key : String) : Bool :=
  let lower := asciiLower key
  ["codex", "image_job", "effect_image", "fixed_task", "preview_asset", "runtime", "manifest", "evidence", "prompt",
    "snapshot", "module"].any (contains lower) ||
  ["data", "debug", "output", "validation", "source_refs", "auto_publish_after_preview", "asset_provenance"].contains lower

def artifactLinkKeys : List String := ["artifact_links", "artifact_public_url", "data_url", "download_url",
  "generated_artifact_url", "html_download_url", "html_preview_url", "render_asset_url"]

section Pruning

variable (includeArtifactLink includePreviewLink : Bool)

def isPrunedKey (key : String) : Bool :=
  artifactLinkKeys.contains key || !includeArtifactLink && key == "public_url" ||
    !includePreviewLink && key == "preview_url"

mutual

def pruneExternalChannelPublicCardLinks : Value → Value
  | .object entries => .object (pruneEntries entries)
  | .array items => .array (pruneItems items)
  | other => other

def pruneItems : List Value → List Value
  | [] => []
  | item :: rest => pruneExternalChannelPublicCardLinks item :: pruneItems rest

def pruneEntries : List (String × Value) → List (String × Value)
  | [] => []
  | (key, value) :: rest =>
    if isPrunedKey includeArtifactLink includePreviewLink key then pruneEntries rest
    else (key, pruneExternalChannelPublicCardLinks value) :: pruneEntries rest

end

end Pruning

/-- What a card gets from other parts: the fields of a report, and the public link of a
preview. -/
structure CardSupport where
  enrichReportCard : Value → Value
  previewPublicUrl : String → Option String

section Cards

variable (support : CardSupport)

/-- The link of a preview that has a key only. -/
def missingPreviewUrl (entries : List (String × Value)) : Option String :=
  match SortedMap.findEntry "preview_url" entries with
  | some _ => none
  | none => SortedMap.findEntry "preview_asset_key" entries >>= Value.asStr >>= support.previewPublicUrl

def publicCardKind (kind : String) : String :=
  if contains kind "static_page" then "v3_static_page_pipeline" else externalChannelPublicText kind

/-- A member of a card whose value is cleaned already; a status and a type that are
texts have rules of their own. -/
def publicCardMember (key : String) (value cleaned : Value) : Value :=
  if key = "status" then ((value.asStr.map externalChannelPublicStatus).map Value.string).getD cleaned
  else if key = "type" then ((value.asStr.map publicCardKind).map Value.string).getD cleaned
  else cleaned

mutual

/-- A missing preview link is added; it is a text and is cleaned like one. -/
def externalChannelPublicCardValue : Value → Value
  | .object entries => .object (match missingPreviewUrl support entries with
    | some url => SortedMap.insertEntry "preview_url" (.string (externalChannelPublicText url))
        (publicCardEntries entries)
    | none => publicCardEntries entries)
  | .array items => .array (publicCardItems items)
  | .string value => .string (externalChannelPublicText value)
  | other => other

def publicCardItems : List Value → List Value
  | [] => []
  | item :: rest => externalChannelPublicCardValue item :: publicCardItems rest

def publicCardEntries : List (String × Value) → List (String × Value)
  | [] => []
  | (key, value) :: rest =>
    if isInternalKey key then publicCardEntries rest
    else (key, publicCardMember key value (externalChannelPublicCardValue value)) :: publicCardEntries rest

end

def cardSummaryKeys : List String := ["type", "status", "draft_id", "status_url", "poll_after_seconds", "public_url",
  "generated_artifact_url", "download_url", "html_download_url", "artifact_links", "data_url", "data_snapshot_url",
  "table_data_url", "ppt_download_url", "markdown_download_url", "text_download_url", "download_exports", "title",
  "report_title", "display_title", "preview_url", "requires_confirmation", "can_continue_same_conversation",
  "resume_action"]

def externalChannelPublicStreamCardSummary (card : Value) (includeArtifactLink includePreviewLink : Bool) : Value :=
  let enriched := support.enrichReportCard card
  let sanitized := externalChannelPublicCardValue support enriched
  match pruneExternalChannelPublicCardLinks includeArtifactLink includePreviewLink sanitized with
  | .object input => .ofMap (.ofList (cardSummaryKeys.filterMap fun key =>
      (SortedMap.findEntry key input).map fun value => (key, value)))
  | _ => .null

end Cards

/-- The value is written under the key if there is one. -/
def insertSome (key : String) (value : Option Value) (map : Map) : Map := match value with
  | some value => map.insert key value
  | none => map

section Compaction

variable (support : CardSupport) (object : Map)

def rawData : Value := (object.get? "data").getD .null

def rawReply : Option Value := (rawData object).get "response" >>= (·.get "reply")

def payloadStatus : String :=
  (((object.get? "status" >>= Value.asStr).or ((rawData object).get "status" >>= Value.asStr)).or
    (rawReply object >>= (·.get "task_status") >>= Value.asStr)).getD "processing"

def payloadPhase : String :=
  ((object.get? "phase" >>= Value.asStr).or ((rawData object).get "phase" >>= Value.asStr)).getD ""

def rawCard : Option Value :=
  (((object.get? "card").or ((rawData object).get "card")).or (rawReply object >>= (·.get "card"))).map
    support.enrichReportCard

def directArtifactUrl : Option String := externalChannelPublicArtifactUrlFromLinksValue
  ((object.get? "artifact_links").or ((rawData object).get "artifact_links"))

def includeArtifactLink : Bool :=
  externalChannelPublicStatusAllowsArtifactLinkForCard (payloadStatus object) (rawCard support object) ||
    payloadPhase object == "completed" && (directArtifactUrl object).isSome

def includePreviewLink : Bool := externalChannelPublicStatusAllowsPreviewLink (payloadStatus object)

def pendingPageNotice : String :=
  "DataMax 已返回当前处理状态，页面仍在后台继续生成；第三方请按 status_url 继续轮询，完成后会返回最终页面链接。"

def shownText : String :=
  let raw := ((object.get? "display_text" >>= Value.asStr).or ((rawData object).get "text" >>= Value.asStr)).getD
    "DataMax 正在处理。"
  let text := externalChannelPublicStreamText raw
  if !includeArtifactLink support object && !includePreviewLink object && contains text "generated-artifacts/" then
    pendingPageNotice
  else text

def isEmptyObject : Value → Bool
  | .object entries => entries.isEmpty
  | _ => false

def shownCard : Option Value :=
  ((rawCard support object).map fun card => externalChannelPublicStreamCardSummary support card
    (includeArtifactLink support object) (includePreviewLink object)).filter fun card => !isEmptyObject card

def shownPublicUrl : Option String :=
  if includeArtifactLink support object then
    ((rawCard support object >>= externalChannelPublicArtifactUrlFromValue).or (directArtifactUrl object)).or
      (externalChannelPublicArtifactUrlFromLinksValue (rawReply object >>= (·.get "artifact_links")))
  else none

/-- The member of the payload, of its data or of its card. -/
def firstOf (key : String) : Option Value :=
  ((object.get? key).or ((rawData object).get key)).or (rawCard support object >>= (·.get key))

def compactDataKeys : List String := ["assistant_run_id", "idempotency_key", "status", "phase"]

/-- The data before the public link is written. -/
def unlinkedData : Map :=
  let copied := compactDataKeys.foldl (fun data key =>
    insertSome key ((object.get? key).or ((rawData object).get key)) data) .empty
  insertSome "card" (shownCard support object)
    (insertSome "poll_after_seconds" (firstOf support object "poll_after_seconds")
      (insertSome "status_url" (firstOf support object "status_url")
        (copied.insert "text" (.string (shownText support object)))))

def compactData : Map := match shownPublicUrl support object with
  | some url => ((unlinkedData support object).insert "public_url" (.string url)).insert "artifact_links"
      (.array [.string url])
  | none => unlinkedData support object

/-- The value replaces the member, or the member goes. -/
def setOrRemove (key : String) (value : Option Value) (map : Map) : Map := match value with
  | some value => map.insert key value
  | none => map.erase key

def removedKeys : List String :=
  ["response", "modules", "data_snapshot", "style_direction", "summary", "source_refs", "runtime_event"]

def linkedObject : Map :=
  let polled := insertSome "poll_after_seconds" (firstOf support object "poll_after_seconds")
    (insertSome "status_url" (firstOf support object "status_url")
      (object.insert "display_text" (.string (shownText support object))))
  let url := shownPublicUrl support object
  setOrRemove "artifact_links" (url.map fun url => .array [.string url])
    (setOrRemove "public_url" (url.map .string) (setOrRemove "card" (shownCard support object) polled))

def compactObject : Map := removedKeys.foldl SortedMap.erase
  ((linkedObject support object).insert "data" (.ofMap (compactData support object)))

def compactExternalChannelPublicStreamPayload : Map :=
  if (object.get? "schema" >>= Value.asStr) = some externalChannelSseSchemaV1 then compactObject support object
  else object

/-- What a stream shows of a payload that is an object. -/
def externalChannelPublicStreamPayload : Map :=
  compactExternalChannelPublicStreamPayload support (object.erase externalChannelPublicStreamDedupeKey)

end Compaction

end DataMax.ExternalChannel
