import DataMax.Domain.Lines
import DataMax.Json.Value
import DataMax.Library.Outcome

/-! The chat completion of an OpenAI compatible provider, read from one answer or from
a stream of its parts. -/

namespace DataMax.ModelGateway

open Domain Json Library

inductive LlmFinishReason where
  | stop
  | toolCalls
  | length
  | contentFilter
  | error
  | other (value : String)
  deriving DecidableEq

def LlmFinishReason.fromWireValue : String → LlmFinishReason
  | "stop" => .stop
  | "tool_calls" => .toolCalls
  | "length" => .length
  | "content_filter" => .contentFilter
  | "error" => .error
  | value => .other value

inductive LlmProviderFailureKind where
  | requestFailed
  | requestTimeout
  | httpStatus
  | responseBodyReadFailed
  | invalidJson
  | invalidResponse
  | finishReasonError
  deriving DecidableEq

structure LlmProviderFailure where
  kind : LlmProviderFailureKind
  message : String
  deriving DecidableEq

structure LlmRequest where
  model : String
  lane : Option String
  systemPromptKey : Option String

inductive LlmToolCallStatus where
  | requested
  | completed
  | failed
  deriving DecidableEq

structure LlmToolCall where
  callId : Option String
  toolName : String
  status : LlmToolCallStatus
  arguments : Option Value
  result : Option Value

structure LlmTokenUsage where
  inputTokens : UInt64
  outputTokens : UInt64
  totalTokens : UInt64
  deriving DecidableEq

structure LlmRuntimeMetadata where
  provider : String
  model : String
  lane : Option String
  requestId : Option String
  finishReason : Option LlmFinishReason
  providerFailure : Option LlmProviderFailure
  usage : Option LlmTokenUsage
  systemPromptKey : Option String
  systemPromptVersion : Option String
  toolTraceCount : Nat
  deriving DecidableEq

structure LlmResponse where
  outputText : String
  runtime : LlmRuntimeMetadata
  toolCalls : List LlmToolCall

structure LlmStreamDelta where
  index : Nat
  delta : String
  deriving DecidableEq

/-- An error of the provider, or one that the receiver of the deltas gave back. -/
inductive CompletionError where
  | provider (runtime : LlmRuntimeMetadata)
  | receiver (message : String)

/-- What arrives of a body, and the error that ended the reading early. -/
structure Body where
  received : String
  failure : Option String

inductive HttpReply where
  | failed (timedOut : Bool) (error : String)
  | answered (status : Nat) (body : Body)

def isSuccess (status : Nat) : Bool := 200 ≤ status && status < 300

structure OpenAiCompatibleLlmProvider where
  providerName : String
  endpoint : String
  /-- The active version of a system prompt. -/
  activeVersion : String → Option String
  /-- `serde_json::from_str` -/
  fromStr : String → Except String Value

def parseUsage (value : Option Value) : Option LlmTokenUsage := do
  let usage ← value
  guard usage.isObject
  let input ← ((usage.get "prompt_tokens").orElse fun _ => usage.get "input_tokens") >>= Value.asU64
  let output ← ((usage.get "completion_tokens").orElse fun _ => usage.get "output_tokens") >>= Value.asU64
  let total ← ((usage.get "total_tokens").orElse fun _ => usage.get "input_tokens") >>= Value.asU64
  return ⟨input, output, total⟩

def asArray : Value → Option (List Value)
  | .array items => some items
  | _ => none

/-- The texts of the parts whose type is text, unless a part has another shape. -/
def contentParts : List Value → Option (List String)
  | [] => some []
  | item :: rest => do
    guard item.isObject
    if (item.get "type" >>= Value.asStr) = some "text" then
      let text ← item.get "text" >>= Value.asStr
      return text :: (← contentParts rest)
    else contentParts rest

def contentText (separator : String) (content : Value) : Option String :=
  match content.asStr with
  | some value => some value
  | none => do
    let parts ← asArray content >>= contentParts
    if parts = [] then none else some (separator.intercalate parts)

def firstChoice (value : Value) : Option Value := do
  let choices ← value.get "choices" >>= asArray
  choices.head?

def extractChatCompletionText (choice : Value) : Option String := do
  let message ← choice.get "message"
  guard message.isObject
  contentText "\n" (← message.get "content")

def extractChatCompletionStreamDelta (value : Value) : Option String := do
  let delta ← (← firstChoice value).get "delta"
  contentText "" (← delta.get "content")

def choiceFinishReason (choice : Value) : Option LlmFinishReason :=
  (choice.get "finish_reason" >>= Value.asStr).map .fromWireValue

def extractChatCompletionStreamFinishReason (value : Value) : Option LlmFinishReason :=
  firstChoice value >>= choiceFinishReason

def normalizeProviderOutputText (value : String) : String := value

section ToolCalls

variable (fromStr : String → Except String Value)

/-- Arguments that are no JSON stay a text. -/
def parseToolArguments (value : String) : Value := match fromStr value with
  | .ok parsed => parsed
  | .error _ => .string value

def readToolCall (toolCall : Value) : Except String LlmToolCall := do
  let function ← okOr ((toolCall.get "function").filter Value.isObject)
    "tool_call.function missing from provider response"
  let arguments := (function.get "arguments" >>= Value.asStr).map (parseToolArguments fromStr)
  let toolName ← okOr (function.get "name" >>= Value.asStr) "tool_call.function.name missing"
  return ⟨toolCall.get "id" >>= Value.asStr, toolName, .requested, arguments, none⟩

def extractChatCompletionToolCalls (choice : Value) : Except String (List LlmToolCall) :=
  match choice.get "message" >>= (·.get "tool_calls") >>= asArray with
  | none => .ok []
  | some toolCalls => toolCalls.mapM (readToolCall fromStr)

end ToolCalls

def providerFailureForFinishReason (providerName : String) (finishReason : Option LlmFinishReason) :
    Option LlmProviderFailure :=
  if finishReason = some .error then
    some ⟨.finishReasonError, providerName ++ " returned finish_reason=error"⟩
  else none

namespace OpenAiCompatibleLlmProvider

variable (provider : OpenAiCompatibleLlmProvider) (request : LlmRequest)

def resolvePromptVersion : Option String := request.systemPromptKey >>= provider.activeVersion

/-- The error with its message as it is before `redact_provider_error`. -/
def providerError (kind : LlmProviderFailureKind) (message : String) : CompletionError :=
  .provider {
    provider := provider.providerName
    model := request.model
    lane := request.lane
    requestId := none
    finishReason := some .error
    providerFailure := some ⟨kind, message⟩
    usage := none
    systemPromptKey := request.systemPromptKey
    systemPromptVersion := provider.resolvePromptVersion request
    toolTraceCount := 0 }

def sendKind (timedOut : Bool) : LlmProviderFailureKind := if timedOut then .requestTimeout else .requestFailed

/-- The answer as a value, or why there is none. -/
def readAnswer : HttpReply → Except CompletionError Value
  | .failed timedOut error => .error (provider.providerError request (sendKind timedOut)
      s!"{provider.providerName} request to {provider.endpoint} failed: {error}")
  | .answered status ⟨received, failure⟩ => match failure with
    | some error => .error (provider.providerError request .responseBodyReadFailed
        s!"{provider.providerName} response body read failed: {error}")
    | none =>
      if isSuccess status then match provider.fromStr received with
        | .ok value => .ok value
        | .error error => .error (provider.providerError request .invalidJson
            (s!"{provider.providerName} returned invalid JSON payload from {provider.endpoint}: {received}" ++
              s!" ({error})"))
      else .error (provider.providerError request .httpStatus
        s!"{provider.providerName} returned HTTP {status} with body {received}")

def complete (reply : HttpReply) : Except CompletionError LlmResponse := do
  let value ← provider.readAnswer request reply
  let invalid (message : String) := provider.providerError request .invalidResponse message
  let choice ← okOr (firstChoice value) (invalid s!"{provider.providerName} response missing choices[0]")
  let outputText ← okOr (extractChatCompletionText choice)
    (invalid s!"{provider.providerName} response missing assistant message content")
  let toolCalls ← (extractChatCompletionToolCalls provider.fromStr choice).mapError fun error =>
    invalid s!"{provider.providerName} response has invalid tool calls: {error}"
  let finishReason := choiceFinishReason choice
  return {
    outputText := normalizeProviderOutputText outputText
    toolCalls
    runtime := {
      provider := provider.providerName
      model := request.model
      lane := request.lane
      requestId := value.get "id" >>= Value.asStr
      finishReason
      providerFailure := providerFailureForFinishReason provider.providerName finishReason
      usage := parseUsage (value.get "usage")
      systemPromptKey := request.systemPromptKey
      systemPromptVersion := provider.resolvePromptVersion request
      toolTraceCount := toolCalls.length } }

end OpenAiCompatibleLlmProvider

/-- The filter of reasoning at the start of a text; `new` turns the stripping off. -/
structure LeadingReasoningStreamFilter where
  buffer : String
  strippingLeadingReasoning : Bool
  deriving DecidableEq

namespace LeadingReasoningStreamFilter

def new : LeadingReasoningStreamFilter := ⟨"", false⟩

/-- The loop of `drain`; each round takes one reasoning block from the buffer. -/
def drainLoop (finish : Bool) : Nat → LeadingReasoningStreamFilter →
    LeadingReasoningStreamFilter × List String
  | 0, filter => (filter, [])
  | rounds + 1, filter =>
    let ended : LeadingReasoningStreamFilter := if finish then ⟨"", false⟩ else filter
    let trimmed := trimStart filter.buffer
    if trimmed = "" then (ended, [])
    else
      let normalized := asciiLower trimmed
      if startsWith normalized "<think>" then
        match findText "</think>" (.ofList (normalized.toList.drop "<think>".length)) with
        | none => (ended, [])
        | some closeOffset =>
          let closeEnd := "<think>".length + closeOffset + "</think>".length
          drainLoop finish rounds { filter with buffer := trimStart (.ofList (trimmed.toList.drop closeEnd)) }
      else if !finish && startsWith "<think>" normalized then (filter, [])
      else (⟨"", false⟩, if filter.buffer = "" then [] else [filter.buffer])

def drain (filter : LeadingReasoningStreamFilter) (finish : Bool) :
    LeadingReasoningStreamFilter × List String :=
  if filter.strippingLeadingReasoning then drainLoop finish (filter.buffer.length + 1) filter
  else (filter, [])

def push (filter : LeadingReasoningStreamFilter) (delta : String) :
    LeadingReasoningStreamFilter × List String :=
  if filter.strippingLeadingReasoning then
    drain { filter with buffer := filter.buffer ++ delta } false
  else (filter, [delta])

def finish (filter : LeadingReasoningStreamFilter) : LeadingReasoningStreamFilter × List String :=
  drain filter true

end LeadingReasoningStreamFilter

/-- The variables of the reading loop. -/
structure StreamState where
  outputText : String
  requestId : Option String
  finishReason : Option LlmFinishReason
  usage : Option LlmTokenUsage
  chunkIndex : Nat
  reasoningFilter : LeadingReasoningStreamFilter

def StreamState.start : StreamState := ⟨"", none, none, none, 0, .new⟩

/-- The first identity, usage and finish reason are kept. -/
def StreamState.noteFields (value : Value) (state : StreamState) : StreamState :=
  { state with
    requestId := state.requestId.or (value.get "id" >>= Value.asStr)
    usage := state.usage.or (parseUsage (value.get "usage"))
    finishReason := state.finishReason.or (extractChatCompletionStreamFinishReason value) }

/-- The lines that `read_line` gives, each with its line feed. An unfinished last line
is lost when the reading fails. -/
def readLines (body : Body) : List String :=
  let pieces := body.received.toList.splitOn '\n'
  let ended := pieces.dropLast.map (· ++ ['\n'])
  let rest := pieces.getLast?.getD []
  (if rest = [] || body.failure.isSome then ended else ended ++ [rest]).map String.ofList

namespace OpenAiCompatibleLlmProvider

variable {Receiver : Type}

/-- A run of the receiver of the deltas, which has a state of its own. -/
abbrev Streaming (Receiver Result : Type) := ExceptT CompletionError (StateM Receiver) Result

variable (onDelta : LlmStreamDelta → Streaming Receiver Unit)

/-- The emitted parts with the next numbers. -/
def passDeltas : List String → Nat → Streaming Receiver Nat
  | [], chunkIndex => pure chunkIndex
  | delta :: rest, chunkIndex => do
    onDelta ⟨chunkIndex, delta⟩
    passDeltas rest (chunkIndex + 1)

/-- The text of a chunk, if it has any. -/
def takeDelta (delta : Option String) (state : StreamState) : Streaming Receiver StreamState := match delta with
  | none => return state
  | some delta =>
    if delta = "" then return state
    else do
      let (reasoningFilter, emitted) := state.reasoningFilter.push delta
      let chunkIndex ← passDeltas onDelta emitted state.chunkIndex
      return { state with outputText := state.outputText ++ delta, chunkIndex, reasoningFilter }

def takeChunk (value : Value) (state : StreamState) : Streaming Receiver StreamState :=
  takeDelta onDelta (extractChatCompletionStreamDelta value) (state.noteFields value)

variable (provider : OpenAiCompatibleLlmProvider) (request : LlmRequest)

/-- The data of a line, unless the line has none. -/
def lineData (line : String) : Option String :=
  let trimmed := trim line
  if trimmed = "" || !startsWith trimmed "data:" then none
  else some (trim (trimStartMatches "data:" trimmed))

/-- The loop over the lines, up to the one that says that the stream is done. -/
def streamLines (failure : Option String) : List String → StreamState → Streaming Receiver StreamState
  | [], state => match failure with
    | none => return state
    | some error => throw (provider.providerError request .responseBodyReadFailed
        s!"{provider.providerName} streaming body read failed: {error}")
  | line :: rest, state => match lineData line with
    | none => streamLines failure rest state
    | some data =>
      if data = "[DONE]" then return state
      else match provider.fromStr data with
        | .ok value => do streamLines failure rest (← takeChunk onDelta value state)
        | .error error => throw (provider.providerError request .invalidJson
            s!"{provider.providerName} returned invalid streaming JSON chunk {data}: {error}")

/-- A stream that does not say why it ended has stopped. -/
def streamResponse (state : StreamState) : LlmResponse :=
  let finishReason := state.finishReason.or (some .stop)
  { outputText := normalizeProviderOutputText state.outputText
    toolCalls := []
    runtime := {
      provider := provider.providerName
      model := request.model
      lane := request.lane
      requestId := state.requestId
      finishReason
      providerFailure := providerFailureForFinishReason provider.providerName finishReason
      usage := state.usage
      systemPromptKey := request.systemPromptKey
      systemPromptVersion := provider.resolvePromptVersion request
      toolTraceCount := 0 } }

/-- What follows the loop. -/
def finishStream (state : StreamState) : Streaming Receiver LlmResponse := do
  let _ ← passDeltas onDelta state.reasoningFilter.finish.2 state.chunkIndex
  let response := provider.streamResponse request state
  if response.outputText = "" then
    throw (provider.providerError request .invalidResponse
      s!"{provider.providerName} streaming response missing assistant content")
  else return response

def completeStreaming : HttpReply → Streaming Receiver LlmResponse
  | .failed timedOut error => throw (provider.providerError request (sendKind timedOut)
      s!"{provider.providerName} streaming request to {provider.endpoint} failed: {error}")
  | .answered status body =>
    if isSuccess status then do
      let state ← streamLines onDelta provider request body.failure (readLines body) .start
      finishStream onDelta provider request state
    else
      let received := if body.failure.isSome then "" else body.received
      throw (provider.providerError request .httpStatus
        s!"{provider.providerName} returned HTTP {status} with streaming body {received}")

end OpenAiCompatibleLlmProvider

end DataMax.ModelGateway
