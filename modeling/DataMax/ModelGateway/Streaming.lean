import DataMax.Domain.Words
import DataMax.ModelGateway.Completion
import Mathlib.Data.Option.Basic

/-! A completion that is read from a stream, next to the same completion read from
one answer. -/

namespace DataMax.ModelGateway

open Domain Json Library OpenAiCompatibleLlmProvider

/-- What the model has to say. The tool calls and the usage are what the server writes. -/
structure AssistantMessage where
  content : Option String
  toolCalls : List Value
  finishReason : Option String
  usage : Option Value

/-- One part of the message, as the server sends it. -/
structure Chunk where
  content : Option String
  finishReason : Option String
  usage : Option Value

/-- The member has the value, or is null or missing. -/
def Holds (object : Value) (key : String) : Option Value → Prop
  | some value => object.get key = some value
  | none => object.get key = none ∨ object.get key = some .null

def HoldsText (object : Value) (key : String) (text : Option String) : Prop :=
  Holds object key (text.map .string)

def HoldsCalls (object : Value) (toolCalls : List Value) : Prop :=
  object.get "tool_calls" = some (.array toolCalls) ∨ toolCalls = [] ∧ Holds object "tool_calls" none

structure CarriesMessage (value : Value) (message : AssistantMessage) : Prop where
  choice : ∃ choice rest text, value.get "choices" = some (.array (choice :: rest)) ∧
    choice.get "message" = some text ∧ text.isObject = true ∧ HoldsText text "content" message.content ∧
    HoldsCalls text message.toolCalls ∧ HoldsText choice "finish_reason" message.finishReason
  usage : Holds value "usage" message.usage

/-- A part without a choice carries neither text nor a finish reason. -/
structure CarriesChunk (value : Value) (chunk : Chunk) : Prop where
  choice : value.get "choices" = some (.array []) ∧ chunk.content = none ∧ chunk.finishReason = none ∨
    ∃ choice rest delta, value.get "choices" = some (.array (choice :: rest)) ∧
      choice.get "delta" = some delta ∧ HoldsText delta "content" chunk.content ∧
      HoldsText choice "finish_reason" chunk.finishReason
  usage : Holds value "usage" chunk.usage

/-- Some part brings what the whole has, and no part brings anything else. -/
def Brings {Item : Type} (whole : Option Item) (parts : List (Option Item)) : Prop :=
  (∀ part ∈ parts, part = none ∨ part = whole) ∧ (whole = none ∨ whole ∈ parts)

structure Splits (message : AssistantMessage) (chunks : List Chunk) : Prop where
  content : String.join (chunks.map (·.content.getD "")) = message.content.getD ""
  finishReason : Brings message.finishReason (chunks.map (·.finishReason))
  usage : Brings message.usage (chunks.map (·.usage))

/-- A data line with the text of one object. -/
def DataLine (line json : String) : Prop :=
  (trim line = "data:" ++ json ∨ trim line = "data: " ++ json) ∧ startsWith json "\x7b" ∧ endsWith json "\x7d"

/-- The lines of a stream: one for each part, blank lines and comments between them,
and one that says that the stream is done. -/
inductive CarriesLines (fromStr : String → Except String Value) : List String → List Chunk → Prop where
  | done {line : String} {rest : List String} (closing : trim line = "data:[DONE]" ∨ trim line = "data: [DONE]") :
      CarriesLines fromStr (line :: rest) []
  | blank {line : String} {rest : List String} {chunks : List Chunk} (empty : trim line = "")
      (later : CarriesLines fromStr rest chunks) : CarriesLines fromStr (line :: rest) chunks
  | comment {line : String} {rest : List String} {chunks : List Chunk} (colon : startsWith (trim line) ":")
      (later : CarriesLines fromStr rest chunks) : CarriesLines fromStr (line :: rest) chunks
  | data {line json : String} {value : Value} {chunk : Chunk} {rest : List String} {chunks : List Chunk}
      (data : DataLine line json) (parsed : fromStr json = .ok value) (carried : CarriesChunk value chunk)
      (later : CarriesLines fromStr rest chunks) : CarriesLines fromStr (line :: rest) (chunk :: chunks)

/-- The answer that has the message in one piece. -/
def AnswersWith (provider : OpenAiCompatibleLlmProvider) (message : AssistantMessage) (reply : HttpReply) : Prop :=
  ∃ status received value, reply = .answered status ⟨received, none⟩ ∧ isSuccess status = true ∧
    provider.fromStr received = .ok value ∧ CarriesMessage value message

/-- The answer that has the message as a stream of parts. -/
def StreamsWith (provider : OpenAiCompatibleLlmProvider) (message : AssistantMessage) (reply : HttpReply) : Prop :=
  ∃ status body chunks, reply = .answered status body ∧ isSuccess status = true ∧
    CarriesLines provider.fromStr (readLines body) chunks ∧ Splits message chunks

/-- The receiver that keeps every delta. -/
def keepDelta (delta : LlmStreamDelta) : Streaming (List LlmStreamDelta) Unit :=
  modify fun kept => kept ++ [delta]

def runOn {Receiver Result : Type} (action : Streaming Receiver Result) (receiver : Receiver) :
    Except CompletionError Result × Receiver := StateT.run (ExceptT.run action) receiver

/-- Both fail, or both give the same text, tool calls, finish reason and usage. -/
def SameOutcome : Except CompletionError LlmResponse → Except CompletionError LlmResponse → Prop
  | .ok plain, .ok live => live.outputText = plain.outputText ∧ live.toolCalls = plain.toolCalls ∧
      live.runtime.finishReason = plain.runtime.finishReason ∧ live.runtime.usage = plain.runtime.usage
  | .error _, .error _ => True
  | _, _ => False

/-- The deltas are numbered from zero and are together the text. -/
structure Numbered (deltas : List LlmStreamDelta) (text : String) : Prop where
  indices : deltas.map (·.index) = List.range deltas.length
  joined : String.join (deltas.map (·.delta)) = text

def Agrees (plain : Except CompletionError LlmResponse)
    (live : Except CompletionError LlmResponse × List LlmStreamDelta) : Prop :=
  SameOutcome plain live.1 ∧ Numbered live.2 (match live.1 with
    | .ok response => response.outputText
    | .error _ => "")

/-- A call of a named function. -/
def IsToolCall (call : Value) : Prop :=
  ∃ function name, call.get "function" = some function ∧ function.isObject = true ∧
    function.get "name" = some (.string name)

/-- The messages of which a stream loses nothing: those both readers refuse, and texts
with a finish reason and no tool calls. -/
def AssistantMessage.Streamable (message : AssistantMessage) : Prop :=
  message.content = none ∨
  message.content = some "" ∧ (∃ call ∈ message.toolCalls, ¬ IsToolCall call) ∨
  (∃ text, message.content = some text ∧ text ≠ "") ∧ message.toolCalls = [] ∧ message.finishReason ≠ none

section Running

variable {Receiver First Result : Type} {receiver later : Receiver}

theorem runOn_bind {first : Streaming Receiver First} {item : First} (ran : runOn first receiver = (.ok item, later))
    (next : First → Streaming Receiver Result) : runOn (first >>= next) receiver = runOn (next item) later := by
  have unfolded : StateT.run (ExceptT.run first) receiver = (.ok item, later) := ran
  simp only [runOn, ExceptT.run_bind, StateT.run_bind]
  rw [unfolded]
  rfl

theorem runOn_pure (item : Result) : runOn (pure item) receiver = (.ok item, receiver) := rfl

theorem runOn_throw (error : CompletionError) :
    runOn (throw error : Streaming Receiver Result) receiver = (.error error, receiver) := rfl

end Running

section Reading

variable {object value choice : Value} {key : String} {text : Option String}

theorem get_asStr_of_holds (held : HoldsText object key text) : object.get key >>= Value.asStr = text := by
  cases text with
  | none => rcases held with missing | null <;> simp [*]; rfl
  | some text =>
    have found : object.get key = some (.string text) := held
    rw [found]
    rfl

theorem contentText_of_holds (held : HoldsText object "content" text) (separator : String) :
    (object.get "content").bind (contentText separator) = text := by
  cases text with
  | none => rcases held with missing | null <;> simp [*]; rfl
  | some text =>
    have found : object.get "content" = some (.string text) := held
    rw [found]
    rfl

theorem parseUsage_of_holds {usage : Option Value} (held : Holds object "usage" usage) :
    parseUsage (object.get "usage") = parseUsage usage := by
  cases usage with
  | none => rcases held with missing | null <;> simp [*]; rfl
  | some usage =>
    have found : object.get "usage" = some usage := held
    rw [found]

theorem firstChoice_eq {rest : List Value} (choices : value.get "choices" = some (.array (choice :: rest))) :
    firstChoice value = some choice := by
  rw [firstChoice, choices]
  rfl

end Reading

section Whole

variable {provider : OpenAiCompatibleLlmProvider} {request : LlmRequest} {message : AssistantMessage}
  {fromStr : String → Except String Value} {calls : List Value}

theorem asStr_eq_some {value : Value} {text : String} (held : value.asStr = some text) : value = .string text := by
  cases value <;> simp_all [Value.asStr]

/-- A tool call is read when it names a function. -/
theorem readToolCall_isOk (call : Value) :
    (∃ toolCall, readToolCall fromStr call = .ok toolCall) ↔ IsToolCall call := by
  simp only [readToolCall, exists_bind_ok, okOr_eq_ok, Option.filter_eq_some_iff]
  constructor
  · rintro ⟨function, ⟨present, object⟩, name, named, _⟩
    obtain ⟨value, member, text⟩ := Option.bind_eq_some_iff.mp named
    exact ⟨function, name, present, object, by rw [member, asStr_eq_some text]⟩
  · rintro ⟨function, name, present, object, named⟩
    exact ⟨function, ⟨present, object⟩, name, by rw [named]; rfl, _, rfl⟩

theorem mapM_isOk (fromStr : String → Except String Value) (calls : List Value) :
    (∃ toolCalls, calls.mapM (readToolCall fromStr) = .ok toolCalls) ↔ ∀ call ∈ calls, IsToolCall call := by
  induction calls with
  | nil => simp [pure, Except.pure]
  | cons call rest ih =>
    rw [List.forall_mem_cons, ← ih, ← readToolCall_isOk]
    simp only [List.mapM_cons, exists_bind_ok]
    constructor
    · rintro ⟨toolCall, read, toolCalls, others, _⟩
      exact ⟨⟨toolCall, read⟩, toolCalls, others⟩
    · rintro ⟨⟨toolCall, read⟩, toolCalls, others⟩
      exact ⟨toolCall, read, toolCalls, others, _, rfl⟩

theorem length_of_mapM {toolCalls : List LlmToolCall} (read : calls.mapM (readToolCall fromStr) = .ok toolCalls) :
    toolCalls.length = calls.length := by
  induction calls generalizing toolCalls with
  | nil =>
    cases read
    rfl
  | cons call rest ih =>
    simp only [List.mapM_cons, bind_eq_ok] at read
    obtain ⟨first, _, others, later, same⟩ := read
    cases same
    rw [List.length_cons, List.length_cons, ih later]

theorem extractChatCompletionToolCalls_eq {choice text : Value} (fromStr : String → Except String Value) (inside : choice.get "message" = some text)
    (held : HoldsCalls text calls) :
    extractChatCompletionToolCalls fromStr choice = calls.mapM (readToolCall fromStr) := by
  rw [extractChatCompletionToolCalls, inside]
  rcases held with present | ⟨rfl, missing | null⟩
  · have read : (some text >>= (·.get "tool_calls") >>= asArray) = some calls := by
      simp only [Option.bind_eq_bind, Option.bind_some, present]
      rfl
    rw [read]
  · simp [missing, pure, Except.pure]
  · simp [null, asArray, pure, Except.pure]

/-- What the whole reader gives, and when it gives anything. -/
theorem complete_spec (request : LlmRequest) {reply : HttpReply} (answered : AnswersWith provider message reply) :
    ((∃ response, provider.complete request reply = .ok response) ↔
      message.content ≠ none ∧ ∀ call ∈ message.toolCalls, IsToolCall call) ∧
    ∀ response, provider.complete request reply = .ok response →
      message.content = some response.outputText ∧ response.toolCalls.length = message.toolCalls.length ∧
      response.runtime.finishReason = message.finishReason.map .fromWireValue ∧
      response.runtime.usage = parseUsage message.usage := by
  obtain ⟨status, received, value, rfl, success, parsed, ⟨choice, rest, text, choices, inside, object,
    content, calls, reason⟩, usage⟩ := answered
  have read : provider.readAnswer request (.answered status ⟨received, none⟩) = .ok value := by
    simp only [readAnswer, success, parsed, if_true]
  have written : extractChatCompletionText choice = message.content := by
    rw [extractChatCompletionText, inside]
    simp only [Option.bind_eq_bind, Option.bind_some, object, guard_true, Option.pure_def]
    exact contentText_of_holds content "\n"
  have ended : choiceFinishReason choice = message.finishReason.map .fromWireValue := by
    rw [choiceFinishReason, get_asStr_of_holds reason]
  have requested := extractChatCompletionToolCalls_eq provider.fromStr inside calls
  have stages (response : LlmResponse) : provider.complete request (.answered status ⟨received, none⟩) = .ok response ↔
      ∃ outputText, message.content = some outputText ∧ ∃ toolCalls,
        message.toolCalls.mapM (readToolCall provider.fromStr) = .ok toolCalls ∧ response = {
          outputText
          toolCalls
          runtime := {
            provider := provider.providerName
            model := request.model
            lane := request.lane
            requestId := value.get "id" >>= Value.asStr
            finishReason := choiceFinishReason choice
            providerFailure := providerFailureForFinishReason provider.providerName (choiceFinishReason choice)
            usage := parseUsage (value.get "usage")
            systemPromptKey := request.systemPromptKey
            systemPromptVersion := provider.resolvePromptVersion request
            toolTraceCount := toolCalls.length } } := by
    simp only [complete, read, firstChoice_eq choices, bind_eq_ok, okOr_eq_ok, mapError_eq_ok, Except.ok.injEq,
      Option.some.injEq, exists_eq_left', written, requested, normalizeProviderOutputText, pure, Except.pure]
    simp only [@eq_comm _ _ response]
  simp only [stages]
  constructor
  · rw [← mapM_isOk provider.fromStr, ← Option.isSome_iff_ne_none, Option.isSome_iff_exists]
    constructor
    · rintro ⟨response, outputText, said, toolCalls, called, _⟩
      exact ⟨⟨outputText, said⟩, toolCalls, called⟩
    · rintro ⟨⟨outputText, said⟩, toolCalls, called⟩
      exact ⟨_, outputText, said, toolCalls, called, rfl⟩
  · rintro response ⟨outputText, said, toolCalls, called, rfl⟩
    exact ⟨said, length_of_mapM called, ended, parseUsage_of_holds usage⟩

end Whole

section Lines

variable {line json : String}

theorem lineData_blank (empty : trim line = "") : lineData line = none := by
  rw [lineData, empty]
  rfl

theorem lineData_comment (colon : startsWith (trim line) ":") : lineData line = none := by
  have other : startsWith (trim line) "data:" = false := by
    rw [startsWith, List.isPrefixOf_iff_prefix] at colon
    obtain ⟨rest, same⟩ := colon
    rw [startsWith, ← same]
    rfl
  simp [lineData, other]

theorem lineData_done (closing : trim line = "data:[DONE]" ∨ trim line = "data: [DONE]") :
    lineData line = some "[DONE]" := by
  rw [lineData]
  rcases closing with close | spaced
  · rw [close]
    decide
  · rw [spaced]
    decide

theorem object_last (closed : endsWith json "\x7d") (before : List Char) :
    ∀ char ∈ (before ++ json.toList).getLast?, isWhitespace char = false := by
  rw [endsWith, List.isSuffixOf_iff_suffix] at closed
  obtain ⟨initial, ends⟩ := closed
  rw [← ends, ← List.append_assoc]
  intro char last
  rw [Option.mem_def, List.getLast?_append_of_ne_nil _ (by decide)] at last
  cases last
  decide

/-- The text of an object has no space around it. -/
theorem trim_object (opened : startsWith json "\x7b") (closed : endsWith json "\x7d") : trim json = json := by
  rw [startsWith, List.isPrefixOf_iff_prefix] at opened
  obtain ⟨rest, begins⟩ := opened
  apply trim_eq_self_of_ends
  · rw [← begins]
    rintro char first
    cases Option.mem_some.mp first
    decide
  · exact object_last closed []

theorem trim_space (text : String) : trim (" " ++ text) = trim text := by
  rw [trim, trim, String.toList_append]
  rfl

theorem dropStarts_object (opened : startsWith json "\x7b") (rounds : Nat) :
    dropStarts "data:".toList rounds json.toList = json.toList ∧
      dropStarts "data:".toList rounds (" " ++ json).toList = (" " ++ json).toList := by
  rw [startsWith, List.isPrefixOf_iff_prefix] at opened
  obtain ⟨rest, begins⟩ := opened
  rw [String.toList_append, ← begins]
  cases rounds with
  | zero => exact ⟨rfl, rfl⟩
  | succ rounds => exact ⟨rfl, rfl⟩

theorem lineData_data (data : DataLine line json) : lineData line = some json ∧ json ≠ "[DONE]" := by
  obtain ⟨whole, opened, closed⟩ := data
  have shape : ∃ rest, trim line = "data:" ++ rest ∧ trim rest = json ∧
      ∀ rounds, dropStarts "data:".toList rounds rest.toList = rest.toList := by
    rcases whole with close | spaced
    · exact ⟨json, close, trim_object opened closed, fun rounds => (dropStarts_object opened rounds).1⟩
    · refine ⟨" " ++ json, by rw [spaced, ← String.append_assoc]; rfl, ?_, fun rounds =>
        (dropStarts_object opened rounds).2⟩
      rw [trim_space, trim_object opened closed]
  obtain ⟨rest, labelled, trimmed, unchanged⟩ := shape
  constructor
  · have label : startsWith ("data:" ++ rest) "data:" = true := by simp [startsWith]
    have cut : trimStartMatches "data:" ("data:" ++ rest) = rest := by
      have rounds : ("data:" ++ rest).length = (rest.length + 4) + 1 := by
        rw [String.length_append, Nat.add_comm]
        rfl
      rw [trimStartMatches, rounds, String.toList_append, dropStarts, if_pos (by simp), List.drop_left, unchanged,
        String.ofList_toList]
    simp [lineData, labelled, label, cut, trimmed]
  · rintro rfl
    revert opened
    decide

end Lines

section Live

variable {provider : OpenAiCompatibleLlmProvider} {request : LlmRequest} {message : AssistantMessage}
  {seen : List LlmStreamDelta} {state : StreamState} {value : Value} {chunk : Chunk}

/-- The loop has passed its text on, and its filter lets everything through. -/
structure PassedOn (seen : List LlmStreamDelta) (state : StreamState) : Prop where
  filter : state.reasoningFilter = .new
  count : state.chunkIndex = seen.length
  numbered : Numbered seen state.outputText

theorem Numbered.append {text : String} (numbered : Numbered seen text) (delta : String) :
    Numbered (seen ++ [⟨seen.length, delta⟩]) (text ++ delta) where
  indices := by
    rw [List.map_append, numbered.indices, List.length_append, List.length_singleton, List.range_succ]
    rfl
  joined := by
    apply String.toList_inj.mp
    have joined := congrArg String.toList numbered.joined
    rw [String.toList_join] at joined
    rw [String.toList_join, String.toList_append, ← joined]
    simp

/-- What a part of the message does to the variables of the loop. -/
structure Takes (content : Option String) (reason : Option LlmFinishReason) (usage : Option LlmTokenUsage)
    (state next : StreamState) : Prop where
  outputText : next.outputText = state.outputText ++ content.getD ""
  finishReason : next.finishReason = state.finishReason.or reason
  usage : next.usage = state.usage.or usage

theorem takeDelta_spec (delta : Option String) (passed : PassedOn seen state) :
    ∃ next later, runOn (takeDelta keepDelta delta state) seen = (.ok next, later) ∧ PassedOn later next ∧
      Takes delta none none state next := by
  cases delta with
  | none => exact ⟨state, seen, runOn_pure state, passed, ⟨by simp, by simp, by simp⟩⟩
  | some delta =>
    by_cases empty : delta = ""
    · exact ⟨state, seen, by rw [takeDelta, if_pos empty]; exact runOn_pure state, passed,
        ⟨by simp [empty], by simp, by simp⟩⟩
    · have pushed : state.reasoningFilter.push delta = (.new, [delta]) := by
        rw [passed.filter]
        rfl
      have emitted : runOn (passDeltas keepDelta [delta] state.chunkIndex) seen =
          (.ok (state.chunkIndex + 1), seen ++ [⟨state.chunkIndex, delta⟩]) := rfl
      refine ⟨_, _, by
        rw [takeDelta, if_neg empty]
        simp only [pushed]
        exact (runOn_bind emitted _).trans (runOn_pure _), ⟨rfl, ?_, ?_⟩, ⟨rfl, by simp, by simp⟩⟩
      · simp [passed.count]
      · rw [passed.count]
        exact passed.numbered.append delta

theorem takeChunk_spec (value : Value) (passed : PassedOn seen state) :
    ∃ next later, runOn (takeChunk keepDelta value state) seen = (.ok next, later) ∧ PassedOn later next ∧
      Takes (extractChatCompletionStreamDelta value) (extractChatCompletionStreamFinishReason value)
        (parseUsage (value.get "usage")) state next := by
  have noted : PassedOn seen (state.noteFields value) := ⟨passed.filter, passed.count, passed.numbered⟩
  obtain ⟨next, later, ran, passed, takes⟩ := takeDelta_spec (extractChatCompletionStreamDelta value) noted
  refine ⟨next, later, ran, passed, takes.outputText, ?_, ?_⟩
  · rw [takes.finishReason, Option.or_none]
    rfl
  · rw [takes.usage, Option.or_none]
    rfl

/-- The readers of a part find what it carries. -/
theorem extract_of_carries (carried : CarriesChunk value chunk) :
    extractChatCompletionStreamDelta value = chunk.content ∧
      extractChatCompletionStreamFinishReason value = chunk.finishReason.map .fromWireValue ∧
      parseUsage (value.get "usage") = parseUsage chunk.usage := by
  refine ⟨?_, ?_, parseUsage_of_holds carried.usage⟩
  · rcases carried.choice with ⟨none, content, _⟩ | ⟨choice, rest, delta, choices, inside, content, _⟩
    · have nothing : firstChoice value = .none := by
        rw [firstChoice, none]
        rfl
      rw [extractChatCompletionStreamDelta, nothing, content]
      rfl
    · rw [extractChatCompletionStreamDelta, firstChoice_eq choices]
      simp only [Option.bind_eq_bind, Option.bind_some, inside]
      exact contentText_of_holds content ""
  · rcases carried.choice with ⟨none, _, reason⟩ | ⟨choice, rest, delta, choices, _, _, reason⟩
    · have nothing : firstChoice value = .none := by
        rw [firstChoice, none]
        rfl
      rw [extractChatCompletionStreamFinishReason, nothing, reason]
      rfl
    · rw [extractChatCompletionStreamFinishReason, firstChoice_eq choices, ← get_asStr_of_holds reason]
      rfl

theorem findSome?_cons_or {Item Found : Type} (find : Item → Option Found) (first : Item) (rest : List Item) :
    (first :: rest).findSome? find = (find first).or (rest.findSome? find) := by
  rw [List.findSome?_cons]
  cases find first <;> rfl

/-- Part by part the loop collects the text and the first reason and usage. -/
theorem streamLines_spec {lines : List String} {chunks : List Chunk} (failure : Option String)
    (carried : CarriesLines provider.fromStr lines chunks) (passed : PassedOn seen state) :
    ∃ next later, runOn (streamLines keepDelta provider request failure lines state) seen = (.ok next, later) ∧
      PassedOn later next ∧
      Takes (some (String.join (chunks.map (·.content.getD ""))))
        (chunks.findSome? fun chunk => chunk.finishReason.map .fromWireValue)
        (chunks.findSome? fun chunk => parseUsage chunk.usage) state next := by
  induction carried generalizing seen state with
  | done closing =>
    refine ⟨state, seen, by rw [streamLines, lineData_done closing]; exact runOn_pure _, passed, ?_⟩
    exact ⟨by simp, by simp, by simp⟩
  | blank empty _ ih =>
    rw [streamLines, lineData_blank empty]
    exact ih passed
  | comment colon _ ih =>
    rw [streamLines, lineData_comment colon]
    exact ih passed
  | data data parsed carried _ ih =>
    obtain ⟨found, other⟩ := lineData_data data
    obtain ⟨middle, between, taken, passed, takes⟩ := takeChunk_spec _ passed
    obtain ⟨next, later, ran, passed, others⟩ := ih passed
    obtain ⟨content, reason, usage⟩ := extract_of_carries carried
    refine ⟨next, later, ?_, passed, ?_⟩
    · rw [streamLines, found]
      simp only [if_neg other, parsed]
      rw [runOn_bind taken, ran]
    · refine ⟨?_, ?_, ?_⟩
      · rw [others.outputText, takes.outputText, content]
        simp [String.append_assoc]
      · rw [others.finishReason, takes.finishReason, reason, Option.or_assoc, findSome?_cons_or]
      · rw [others.usage, takes.usage, usage, Option.or_assoc, findSome?_cons_or]

/-- What every part repeats is what the whole has. -/
theorem findSome?_of_brings {Item Found : Type} {whole : Option Item} {part : Chunk → Option Item} {chunks : List Chunk}
    (find : Option Item → Option Found) (nothing : find none = none) (brings : Brings whole (chunks.map part)) :
    (chunks.findSome? fun chunk => find (part chunk)) = find whole := by
  obtain ⟨only, some⟩ := brings
  cases result : chunks.findSome? fun chunk => find (part chunk) with
  | none =>
    rw [List.findSome?_eq_none_iff] at result
    rcases some with absent | present
    · rw [absent, nothing]
    · obtain ⟨chunk, inside, same⟩ := List.mem_map.mp present
      rw [← same, result chunk inside]
  | some found =>
    obtain ⟨chunk, inside, seen⟩ := List.exists_of_findSome?_eq_some result
    rcases only _ (List.mem_map_of_mem inside) with absent | same
    · rw [absent, nothing] at seen
      cases seen
    · rw [← same, seen]

/-- What the stream reader gives, and when it gives anything. -/
theorem completeStreaming_spec (request : LlmRequest) {reply : HttpReply} (streamed : StreamsWith provider message reply) :
    ∃ deltas, Numbered deltas (message.content.getD "") ∧
      (message.content.getD "" = "" →
        ∃ error, runOn (completeStreaming keepDelta provider request reply) [] = (.error error, deltas)) ∧
      (message.content.getD "" ≠ "" →
        ∃ response, runOn (completeStreaming keepDelta provider request reply) [] = (.ok response, deltas) ∧
          response.outputText = message.content.getD "" ∧ response.toolCalls = [] ∧
          response.runtime.finishReason = (message.finishReason.map .fromWireValue).or (some .stop) ∧
          response.runtime.usage = parseUsage message.usage) := by
  obtain ⟨status, body, chunks, rfl, success, carried, split⟩ := streamed
  have start : PassedOn [] .start := ⟨rfl, rfl, rfl, rfl⟩
  obtain ⟨state, deltas, ran, passed, takes⟩ := streamLines_spec body.failure carried start
  have outputText : state.outputText = message.content.getD "" := by
    rw [takes.outputText, ← split.content]
    exact String.empty_append
  have reason : state.finishReason = message.finishReason.map .fromWireValue := by
    rw [takes.finishReason, ← findSome?_of_brings (Option.map LlmFinishReason.fromWireValue) rfl
      split.finishReason]
    rfl
  have usage : state.usage = parseUsage message.usage := by
    rw [takes.usage, ← findSome?_of_brings parseUsage rfl split.usage]
    rfl
  have finished : runOn (completeStreaming keepDelta provider request (.answered status body)) [] =
      runOn (finishStream keepDelta provider request state) deltas := by
    rw [completeStreaming, if_pos success, runOn_bind ran]
  have nothing : runOn (passDeltas keepDelta state.reasoningFilter.finish.2 state.chunkIndex) deltas =
      (.ok state.chunkIndex, deltas) := by
    rw [passed.filter]
    exact runOn_pure _
  have decided : runOn (finishStream keepDelta provider request state) deltas =
      runOn (if (provider.streamResponse request state).outputText = "" then
        throw (provider.providerError request .invalidResponse
          s!"{provider.providerName} streaming response missing assistant content")
        else pure (provider.streamResponse request state)) deltas := by
    rw [finishStream, runOn_bind nothing]
  have text : (provider.streamResponse request state).outputText = message.content.getD "" := outputText
  rw [finished, decided, text]
  refine ⟨deltas, outputText ▸ passed.numbered, ?_, ?_⟩
  · intro empty
    exact ⟨_, by rw [if_pos empty]; exact runOn_throw _⟩
  · intro something
    refine ⟨_, by rw [if_neg something]; exact runOn_pure _, text, rfl, ?_, usage⟩
    rw [← reason]
    rfl

end Live

section Agreement

variable {message : AssistantMessage} {plain : Except CompletionError LlmResponse} {response : LlmResponse}

/-- A text that streams: the whole reader has the same answer when it has no tool calls
and says why it ended. -/
theorem sameOutcome_ok_iff {text : String} (said : message.content = some text)
    (readable : (∃ response, plain = .ok response) ↔ message.content ≠ none ∧ ∀ call ∈ message.toolCalls, IsToolCall call)
    (given : ∀ response, plain = .ok response →
      message.content = some response.outputText ∧ response.toolCalls.length = message.toolCalls.length ∧
      response.runtime.finishReason = message.finishReason.map .fromWireValue ∧
      response.runtime.usage = parseUsage message.usage)
    (outputText : response.outputText = text) (toolCalls : response.toolCalls = [])
    (reason : response.runtime.finishReason = (message.finishReason.map .fromWireValue).or (some .stop))
    (usage : response.runtime.usage = parseUsage message.usage) :
    SameOutcome plain (.ok response) ↔ message.toolCalls = [] ∧ message.finishReason ≠ none := by
  constructor
  · intro same
    cases plain with
    | error error => exact same.elim
    | ok first =>
      obtain ⟨_, called, ended, _⟩ := given first rfl
      obtain ⟨_, calls, reasons, _⟩ := same
      constructor
      · rw [← List.length_eq_zero_iff, ← called, ← calls, toolCalls]
        rfl
      · intro missing
        rw [reason, ended, missing] at reasons
        cases reasons
  · rintro ⟨uncalled, ended⟩
    obtain ⟨first, rfl⟩ := readable.mpr ⟨by simp [said], by simp [uncalled]⟩
    obtain ⟨texts, called, reasons, usages⟩ := given first rfl
    obtain ⟨wire, present⟩ := Option.ne_none_iff_exists'.mp ended
    refine ⟨?_, ?_, ?_, by rw [usage, usages]⟩
    · rw [outputText]
      exact Option.some.inj (said.symm.trans texts)
    · rw [uncalled, List.length_nil, List.length_eq_zero_iff] at called
      rw [toolCalls, called]
    · rw [reason, reasons, present]
      rfl

end Agreement

/-- A message without a text is an answer of the whole reader only. -/
theorem not_agrees_of_empty {provider : OpenAiCompatibleLlmProvider} {request : LlmRequest}
    {message : AssistantMessage} {whole live : HttpReply} (answered : AnswersWith provider message whole)
    (streamed : StreamsWith provider message live) (said : message.content = some "")
    (called : ∀ call ∈ message.toolCalls, IsToolCall call) :
    ¬ Agrees (provider.complete request whole)
      (runOn (completeStreaming keepDelta provider request live) []) := by
  rintro ⟨same, _⟩
  obtain ⟨response, given⟩ := (complete_spec request answered).1.mpr ⟨by simp [said], called⟩
  obtain ⟨deltas, _, failing, _⟩ := completeStreaming_spec request streamed
  obtain ⟨error, failed⟩ := failing (by rw [said]; rfl)
  rw [given, failed] at same
  exact same

/-- Both readers agree on exactly the messages of which a stream loses nothing. -/
theorem completeStreaming_agrees_iff {provider : OpenAiCompatibleLlmProvider} {request : LlmRequest}
    {message : AssistantMessage} {whole live : HttpReply} (answered : AnswersWith provider message whole)
    (streamed : StreamsWith provider message live) :
    Agrees (provider.complete request whole) (runOn (completeStreaming keepDelta provider request live) []) ↔
      message.Streamable := by
  obtain ⟨readable, given⟩ := complete_spec request answered
  obtain ⟨deltas, numbered, failing, working⟩ := completeStreaming_spec request streamed
  cases said : message.content with
  | none =>
    obtain ⟨error, failed⟩ := exists_error fun ok => (readable.mp ok).1 said
    obtain ⟨other, ended⟩ := failing (by rw [said]; rfl)
    rw [said] at numbered
    rw [failed, ended]
    exact iff_of_true ⟨trivial, numbered⟩ (.inl said)
  | some text =>
    rw [said] at numbered
    by_cases empty : text = ""
    · subst empty
      obtain ⟨other, ended⟩ := failing (by rw [said]; rfl)
      rw [ended]
      have same : SameOutcome (provider.complete request whole) (.error other) ↔
          ¬ ∃ response, provider.complete request whole = .ok response := by
        cases provider.complete request whole <;> simp [SameOutcome]
      have kept : Agrees (provider.complete request whole) (.error other, deltas) ↔
          ¬ ∃ response, provider.complete request whole = .ok response := by
        rw [← same]
        exact and_iff_left numbered
      rw [kept, readable]
      simp [AssistantMessage.Streamable, said]
    · obtain ⟨response, ended, outputText, toolCalls, reason, usage⟩ := working (by rw [said]; exact empty)
      have text_eq : response.outputText = text := by rw [outputText, said]; rfl
      have kept : Numbered deltas response.outputText := text_eq ▸ numbered
      have same : Agrees (provider.complete request whole) (.ok response, deltas) ↔
          SameOutcome (provider.complete request whole) (.ok response) := and_iff_left kept
      rw [ended, same, sameOutcome_ok_iff said readable given text_eq toolCalls reason usage]
      simp [AssistantMessage.Streamable, said, empty]

section Samples

/-- A provider that reads the texts of the table. -/
def sampleProvider (table : List (String × Value)) : OpenAiCompatibleLlmProvider where
  providerName := "sample"
  endpoint := "http://localhost/v1/chat/completions"
  activeVersion := fun _ => none
  fromStr text := okOr (table.lookup text) "expected value at line 1 column 1"

def sampleRequest : LlmRequest := ⟨"model", none, none⟩

def choiceText (content : String) : String := "\x7b\"choices\":[\x7b" ++ content ++ "\x7d]\x7d"

def choiceValue (entries : List (String × Value)) : Value := .object [("choices", .array [.object entries])]

def streamOf (text : String) : HttpReply := .answered 200 ⟨"data: " ++ text ++ "\n\ndata: [DONE]\n", none⟩

theorem choiceText_object (content : String) :
    startsWith (choiceText content) "\x7b" ∧ endsWith (choiceText content) "\x7d" := by
  have opens : "\x7b".toList <+: "\x7b\"choices\":[\x7b".toList := by decide
  have closes : "\x7d".toList <:+ "\x7d]\x7d".toList := by decide
  delta choiceText
  rw [startsWith, endsWith, List.isPrefixOf_iff_prefix, List.isSuffixOf_iff_suffix, String.toList_append,
    String.toList_append]
  refine ⟨?_, closes.trans (List.suffix_append ..)⟩
  rw [List.append_assoc]
  exact opens.trans (List.prefix_append ..)

theorem choiceText_unbroken {content : String} (unbroken : '\n' ∉ content.toList) :
    '\n' ∉ (choiceText content).toList := by
  have before : '\n' ∉ "\x7b\"choices\":[\x7b".toList := by decide
  have after : '\n' ∉ "\x7d]\x7d".toList := by decide
  delta choiceText
  rw [String.toList_append, String.toList_append, List.mem_append, List.mem_append]
  exact fun broken => broken.elim (Or.rec before unbroken) after

theorem ofList_dataLine (text : String) :
    .ofList ("data: ".toList ++ text.toList ++ ['\n']) = "data: " ++ text ++ "\n" := by
  rw [String.ofList_append, String.ofList_append, String.ofList_toList, String.ofList_toList]

theorem readLines_streamOf {text : String} (unbroken : '\n' ∉ text.toList) :
    readLines ⟨"data: " ++ text ++ "\n\ndata: [DONE]\n", none⟩ =
      ["data: " ++ text ++ "\n", "\n", "data: [DONE]\n"] := by
  have first : ∀ char ∈ "data: ".toList ++ text.toList, (char == '\n') = false := by
    have label : '\n' ∉ "data: ".toList := by decide
    intro char inside
    rw [beq_eq_false_iff_ne]
    intro broken
    rw [broken] at inside
    exact (List.mem_append.mp inside).elim label unbroken
  have pieces : ("data: " ++ text ++ "\n\ndata: [DONE]\n").toList.splitOn '\n' =
      ["data: ".toList ++ text.toList, [], "data: [DONE]".toList, []] := by
    rw [String.toList_append, String.toList_append]
    exact List.splitOnP_append_cons_of_forall_mem first '\n' rfl "\ndata: [DONE]\n".toList
  rw [readLines, pieces, ← ofList_dataLine]
  rfl

theorem dataLine_streamOf {text : String} (opened : startsWith text "\x7b") (closed : endsWith text "\x7d") :
    DataLine ("data: " ++ text ++ "\n") text := by
  refine ⟨.inr ?_, opened, closed⟩
  have ended := trim_blank_append (List.forall_mem_nil _) (List.forall_mem_singleton.mpr (by decide : isWhitespace '\n'))
    ("data: " ++ text)
  rw [List.nil_append, String.toList_append, ofList_dataLine] at ended
  rw [ended]
  apply trim_eq_self_of_ends
  · rw [String.toList_append]
    intro char first
    cases Option.mem_some.mp first
    decide
  · rw [String.toList_append]
    exact object_last closed _

/-- A message that comes as one part. -/
theorem streamOf_streams {provider : OpenAiCompatibleLlmProvider} {message : AssistantMessage} {content : String}
    {value : Value} {chunk : Chunk} (unbroken : '\n' ∉ content.toList)
    (parsed : provider.fromStr (choiceText content) = .ok value) (carried : CarriesChunk value chunk)
    (split : Splits message [chunk]) : StreamsWith provider message (streamOf (choiceText content)) := by
  have object := choiceText_object content
  refine ⟨200, _, [chunk], rfl, rfl, ?_, split⟩
  rw [readLines_streamOf (choiceText_unbroken unbroken)]
  exact .data (dataLine_streamOf object.1 object.2) parsed carried
    (.blank (by decide) (.done (.inr (by decide))))

def greeting : AssistantMessage := ⟨some "Hi", [], some "stop", none⟩

def greetingText : String :=
  choiceText "\"finish_reason\":\"stop\",\"message\":\x7b\"content\":\"Hi\"\x7d"

def greetingChunkText : String :=
  choiceText "\"delta\":\x7b\"content\":\"Hi\"\x7d,\"finish_reason\":\"stop\""

def greetingProvider : OpenAiCompatibleLlmProvider := sampleProvider
  [(greetingText, choiceValue [("finish_reason", .string "stop"), ("message", .object [("content", .string "Hi")])]),
    (greetingChunkText, choiceValue [("delta", .object [("content", .string "Hi")]), ("finish_reason", .string "stop")])]

theorem greeting_answered : AnswersWith greetingProvider greeting (.answered 200 ⟨greetingText, none⟩) :=
  ⟨200, greetingText, _, rfl, rfl, rfl, ⟨_, _, _, rfl, rfl, rfl, rfl, .inr ⟨rfl, .inl rfl⟩, rfl⟩, .inl rfl⟩

theorem greeting_streamed : StreamsWith greetingProvider greeting (streamOf greetingChunkText) := by
  refine @streamOf_streams _ _ _ _ ⟨some "Hi", some "stop", none⟩ (by decide) rfl
    ⟨.inr ⟨_, _, _, rfl, rfl, rfl, rfl⟩, .inl rfl⟩ ⟨rfl, ?_, ?_⟩
  · simp [Brings, greeting]
  · simp [Brings, greeting]

/-- A message that consists of one tool call. -/
def lookup : AssistantMessage :=
  ⟨some "", [.object [("function", .object [("name", .string "lookup")])]], some "tool_calls", none⟩

def lookupText : String := choiceText ("\"finish_reason\":\"tool_calls\",\"message\":\x7b\"content\":\"\"," ++
  "\"tool_calls\":[\x7b\"function\":\x7b\"name\":\"lookup\"\x7d\x7d]\x7d")

def lookupChunkText : String := choiceText ("\"delta\":\x7b\"content\":\"\"," ++
  "\"tool_calls\":[\x7b\"function\":\x7b\"name\":\"lookup\"\x7d\x7d]\x7d,\"finish_reason\":\"tool_calls\"")

def lookupPart : Value := .object [("content", .string ""), ("tool_calls", .array lookup.toolCalls)]

def lookupProvider : OpenAiCompatibleLlmProvider := sampleProvider
  [(lookupText, choiceValue [("finish_reason", .string "tool_calls"), ("message", lookupPart)]),
    (lookupChunkText, choiceValue [("delta", lookupPart), ("finish_reason", .string "tool_calls")])]

theorem lookup_answered : AnswersWith lookupProvider lookup (.answered 200 ⟨lookupText, none⟩) :=
  ⟨200, lookupText, _, rfl, rfl, rfl, ⟨_, _, _, rfl, rfl, rfl, rfl, .inl rfl, rfl⟩, .inl rfl⟩

theorem lookup_streamed : StreamsWith lookupProvider lookup (streamOf lookupChunkText) := by
  refine @streamOf_streams _ _ _ _ ⟨some "", some "tool_calls", none⟩ (by decide) rfl
    ⟨.inr ⟨_, _, _, rfl, rfl, rfl, rfl⟩, .inl rfl⟩ ⟨rfl, ?_, ?_⟩
  · simp [Brings, lookup]
  · simp [Brings, lookup]

end Samples

theorem completeStreaming_agrees_greeting :
    Agrees (greetingProvider.complete sampleRequest (.answered 200 ⟨greetingText, none⟩))
      (runOn (completeStreaming keepDelta greetingProvider sampleRequest (streamOf greetingChunkText)) []) :=
  (completeStreaming_agrees_iff greeting_answered greeting_streamed).mpr
    (.inr (.inr ⟨⟨"Hi", rfl, by decide⟩, rfl, by decide⟩))

/-- The whole reader gives the tool call, the stream reader misses a text. -/
theorem completeStreaming_drops_tool_call :
    AnswersWith lookupProvider lookup (.answered 200 ⟨lookupText, none⟩) ∧
      StreamsWith lookupProvider lookup (streamOf lookupChunkText) ∧
      ¬ Agrees (lookupProvider.complete sampleRequest (.answered 200 ⟨lookupText, none⟩))
        (runOn (completeStreaming keepDelta lookupProvider sampleRequest (streamOf lookupChunkText)) []) :=
  ⟨lookup_answered, lookup_streamed, not_agrees_of_empty lookup_answered lookup_streamed rfl
    (List.forall_mem_singleton.mpr ⟨_, "lookup", rfl, rfl, rfl⟩)⟩

end DataMax.ModelGateway
