import DataMax.Domain.Lines
import DataMax.Json.Size
import DataMax.Library.Outcome

/-! What the agent does next, as it is read from the text of a model. -/

namespace DataMax.ReactAgent

open Domain Json Library

def assistantRunReactArgumentMaxBytes : Nat := 16 * 1024

def assistantRunReactReasonMaxChars : Nat := 240

inductive AssistantRunReActStatus where
  | act
  | finalAnswer
  | reportChoice
  | askClarifyingQuestion
  | cannotAnswer
  deriving DecidableEq

/-- The names are compared with the trimmed text. -/
def AssistantRunReActStatus.fromStr (value : String) : Option AssistantRunReActStatus :=
  [("act", act), ("final_answer", finalAnswer), ("report_choice", reportChoice),
    ("ask_clarifying_question", askClarifyingQuestion), ("cannot_answer", cannotAnswer)].lookup (trim value)

inductive AssistantRunReActActionType where
  | retrieveEvidence
  | webSearch
  | readDocumentDetail
  | upgradeParseVlm
  | recallConversationMemory
  | listReportOptions
  | resolveVideoUrl
  | extractVideoPptTranscript
  | createStaticPageDraft
  | updateStaticPageModule
  | submitStaticPageImagePreview
  | renderStaticPage
  | publishStaticPageRevision
  | createReportDraft
  | reportChoice
  | openClawMemoryRecall
  | openClawReadonlyExecution
  | codexHostTask
  | finalAnswer
  deriving DecidableEq

namespace AssistantRunReActActionType

def asStr : AssistantRunReActActionType → String
  | retrieveEvidence => "retrieve_evidence"
  | webSearch => "web_search"
  | readDocumentDetail => "read_document_detail"
  | upgradeParseVlm => "upgrade_parse_vlm"
  | recallConversationMemory => "recall_conversation_memory"
  | listReportOptions => "list_report_options"
  | resolveVideoUrl => "resolve_video_url"
  | extractVideoPptTranscript => "extract_video_ppt_transcript"
  | createStaticPageDraft => "create_static_page_draft"
  | updateStaticPageModule => "update_static_page_module"
  | submitStaticPageImagePreview => "submit_static_page_image_preview"
  | renderStaticPage => "render_static_page"
  | publishStaticPageRevision => "publish_static_page_revision"
  | createReportDraft => "create_report_draft"
  | reportChoice => "report_choice"
  | openClawMemoryRecall => "openclaw_memory_recall"
  | openClawReadonlyExecution => "openclaw_readonly_execution"
  | codexHostTask => "codex_host_task"
  | finalAnswer => "final_answer"

def all : List AssistantRunReActActionType := [retrieveEvidence, webSearch, readDocumentDetail, upgradeParseVlm,
  recallConversationMemory, listReportOptions, resolveVideoUrl, extractVideoPptTranscript, createStaticPageDraft,
  updateStaticPageModule, submitStaticPageImagePreview, renderStaticPage, publishStaticPageRevision, createReportDraft,
  reportChoice, openClawMemoryRecall, openClawReadonlyExecution, codexHostTask, finalAnswer]

/-- The names are those of `as_str`. -/
def fromStr (value : String) : Option AssistantRunReActActionType := all.find? fun action => action.asStr = trim value

end AssistantRunReActActionType

structure AssistantRunReActCitation where
  sourceId : Option String
  title : Option String
  snippet : Option String

structure AssistantRunReActDecision where
  status : AssistantRunReActStatus
  intent : Option String
  actionType : AssistantRunReActActionType
  reasonSummary : String
  arguments : Value
  requiresConfirmation : Bool
  answer : Option String
  citations : List AssistantRunReActCitation
  conversationState : Value

structure AssistantRunReActParseError where
  message : String

def unsafeKeys : List String := ["__proto__", "constructor", "prototype"]

mutual

def containsUnsafeJsonKey : Value → Bool
  | .object entries => entriesUnsafe entries
  | .array items => itemsUnsafe items
  | _ => false

def itemsUnsafe : List Value → Bool
  | [] => false
  | item :: rest => containsUnsafeJsonKey item || itemsUnsafe rest

def entriesUnsafe : List (String × Value) → Bool
  | [] => false
  | (key, item) :: rest => (unsafeKeys.contains key || containsUnsafeJsonKey item) || entriesUnsafe rest

end

section Parts

variable (floatText : UInt64 → String)

/-- The text under a key, trimmed and not empty. -/
def filledText (value : Option Value) : Option String := ((value.bind Value.asStr).map trim).filter (· ≠ "")

/-- `if let Some(object) = value.as_object_mut()`, and a change of the object. -/
def updateObject (value : Value) (change : Map → Map) : Value := match value.asMap with
  | some map => .ofMap (change map)
  | none => value

def withContent (arguments : Value) (fallbackAnswer : Option String) : Value := match fallbackAnswer with
  | none => arguments
  | some answer =>
    if ((arguments.get "content").bind Value.asStr).isNone then
      updateObject arguments (·.insert "content" (.string answer))
    else arguments

def normalizeArguments (rawArguments : Option Value) (fallbackAnswer : Option String) :
    Except AssistantRunReActParseError Value := do
  let arguments := rawArguments.getD (json [])
  ensure arguments.isObject ⟨"arguments must be a JSON object"⟩
  let arguments := withContent arguments fallbackAnswer
  ensure (arguments.size floatText ≤ assistantRunReactArgumentMaxBytes)
    ⟨"arguments exceed " ++ toString assistantRunReactArgumentMaxBytes ++ " bytes"⟩
  return arguments

def normalizeReason (rawReason fallback : String) : String :=
  let reason := trim rawReason
  let reason := if reason = "" then fallback else reason
  takeText assistantRunReactReasonMaxChars reason

def statusForAction : AssistantRunReActActionType → AssistantRunReActStatus
  | .finalAnswer => .finalAnswer
  | .reportChoice => .reportChoice
  | _ => .act

def finalAnswerFromArguments (arguments : Value) : Option String :=
  filledText ((arguments.get "content").or (arguments.get "answer"))

def parseCitation (item : Value) : Option AssistantRunReActCitation :=
  if item.isObject then
    some {
      sourceId := ((item.get "source_id").or (item.get "sourceId")).bind Value.asStr
      title := (item.get "title").bind Value.asStr
      snippet := (item.get "snippet").bind Value.asStr }
  else none

def parseCitations (rawCitations : Option Value) : List AssistantRunReActCitation :=
  ((rawCitations.bind Value.asArray).map (·.filterMap parseCitation)).getD []

def conversationStateOf (object : Map) : Value :=
  ((object.get? "conversationState").or (object.get? "conversation_state")).getD (json [])

/-- `entry("choice").or_insert_with` -/
def insertChoice (arguments : Value) (choice : String) : Value :=
  updateObject arguments fun map => if (map.get? "choice").isSome then map else map.insert "choice" (.string choice)

def declaredStatus (object : Map) : Option AssistantRunReActStatus :=
  ((object.get? "status").bind Value.asStr).bind AssistantRunReActStatus.fromStr

def declaredType (object : Map) : Option AssistantRunReActActionType :=
  (((object.get? "action").bind (·.get "type")).bind Value.asStr).bind AssistantRunReActActionType.fromStr

def declaredChoice (object : Map) : Option String :=
  filledText ((object.get? "choice").or (object.get? "report_choice"))

end Parts

variable (floatText : UInt64 → String) (fromStr : String → Except String Value)

def parseLegacyDecision (object : Map) : Except AssistantRunReActParseError AssistantRunReActDecision := do
  let actionType ← okOr (((object.get? "action_type").bind Value.asStr).bind AssistantRunReActActionType.fromStr)
    ⟨"unknown or missing action_type"⟩
  let reasonSummary := normalizeReason (((object.get? "reason_summary").bind Value.asStr).getD actionType.asStr)
    actionType.asStr
  let arguments ← normalizeArguments floatText (object.get? "arguments") none
  return {
    status := statusForAction actionType
    intent := none
    actionType := actionType
    reasonSummary := reasonSummary
    answer := finalAnswerFromArguments arguments
    arguments := arguments
    requiresConfirmation := ((object.get? "requires_confirmation").bind Value.asBool).getD false
    citations := parseCitations (object.get? "citations")
    conversationState := conversationStateOf object }

/-- An action must be named for `act`, and is implied by the other statuses. -/
def structuredActionType (object : Map) : AssistantRunReActStatus → Except AssistantRunReActParseError AssistantRunReActActionType
  | .finalAnswer | .askClarifyingQuestion | .cannotAnswer => .ok ((declaredType object).getD .finalAnswer)
  | .reportChoice => .ok ((declaredType object).getD .reportChoice)
  | .act => okOr (declaredType object) ⟨"unknown or missing action.type"⟩

def parseStructuredDecision (object : Map) : Except AssistantRunReActParseError AssistantRunReActDecision := do
  let status ← okOr (declaredStatus object) ⟨"unknown or missing status"⟩
  let fallbackAnswer := filledText (object.get? "answer")
  let actionType ← structuredActionType object status
  let reasonSummary := normalizeReason
    ((((object.get? "reason").or (object.get? "reason_summary")).bind Value.asStr).getD actionType.asStr) actionType.asStr
  let arguments ← normalizeArguments floatText ((object.get? "action").bind (·.get "arguments")) fallbackAnswer
  let arguments := if status = .reportChoice then (declaredChoice object).elim arguments (insertChoice arguments) else arguments
  return {
    status := status
    intent := filledText (object.get? "intent")
    actionType := actionType
    reasonSummary := reasonSummary
    answer := fallbackAnswer.or (finalAnswerFromArguments arguments)
    arguments := arguments
    requiresConfirmation :=
      (((object.get? "requires_confirmation").or (object.get? "requiresConfirmation")).bind Value.asBool).getD false
    citations := parseCitations (object.get? "citations")
    conversationState := conversationStateOf object }

/-- The whole text, or what stands from the first opening brace to the last closing one. -/
def parseJsonObjectFromModelOutput (outputText : String) : Except AssistantRunReActParseError Value := do
  let trimmed := trim outputText
  ensure (trimmed ≠ "") ⟨"model output is empty"⟩
  match fromStr trimmed with
  | .ok value => return value
  | .error _ =>
    let start ← okOr (trimmed.toList.findIdx? (· == '{')) ⟨"model output does not contain a JSON object"⟩
    let last ← okOr (rfindChar '}' trimmed) ⟨"model output does not contain a complete JSON object"⟩
    ensure (start < last) ⟨"model output has invalid JSON object bounds"⟩
    (fromStr (.ofList ((trimmed.toList.take (last + 1)).drop start))).mapError fun error =>
      ⟨"model output JSON is invalid: " ++ error⟩

def parseAssistantRunReactDecision (outputText : String) :
    Except AssistantRunReActParseError AssistantRunReActDecision := do
  let payload ← parseJsonObjectFromModelOutput fromStr outputText
  ensure (!containsUnsafeJsonKey payload) ⟨"payload contains unsafe key"⟩
  let object ← okOr payload.asMap ⟨"ReAct action payload must be a JSON object"⟩
  if (object.get? "action_type").isSome then parseLegacyDecision floatText object
  else parseStructuredDecision floatText object

end DataMax.ReactAgent
