import DataMax.ExternalChannel.StreamPrivacy
import DataMax.Json.Text
import Mathlib.Algebra.Ring.Int.Defs
import Mathlib.Data.List.Flatten

/-! A client that reconnects to a stream: the events that its last event id asks for. -/

namespace DataMax.ExternalChannel

open Domain Json Library

def externalChannelStaticPageSseSequence (status : String) : Int64 :=
  match status with
  | "started" => 0
  | "retrieval_started" => 5
  | "answer_retrying" => 55
  | "static_page_planning" => 10
  | "static_page_image_preview_queued" | "static_page_generation_queued" => 20
  | "static_page_effect_image_ready" | "static_page_preview_ready" => 30
  | "static_page_publish_queued" => 40
  | "static_page_publish_running" => 41
  | "static_page_publish_retrying" => 42
  | "static_page_publish_failed" | "static_page_publish_needs_human" => 80
  | "static_page_publish_cancelled" => 81
  | "static_page_published" | "static_page_stable_artifact_reused" => 90
  | "needs_input" => 70
  | "continue_polling" | "static_page_continue_polling" => 95
  | "completed" => 100
  | _ => 50

/-- `str::parse::<i64>` -/
def parseI64 (text : String) : Option Int :=
  let (negative, digits) : Bool × List Char := match text.toList with
    | '-' :: rest => (true, rest)
    | '+' :: rest => (false, rest)
    | other => (false, other)
  let count : Int := digits.foldl (fun count digit => count * 10 + (digit.toNat - '0'.toNat)) 0
  let value := if negative then -count else count
  if digits ≠ [] ∧ digits.all Char.isDigit ∧ -2 ^ 63 ≤ value ∧ value < 2 ^ 63 then some value else none

/-- A sequence as an `i32` that is not negative, if it fits. -/
def resumeNumber (sequence : Int) : Option Int :=
  let sequence := max sequence 0
  if sequence < 2 ^ 31 then some sequence else none

def parseExternalChannelStreamSequenceValue (value : Value) : Option Int :=
  let number : Option Int := match value with
    | .number (.posInt value) => if value.toNat < 2 ^ 63 then some value.toNat else none
    | .number (.negInt value) => some value.toInt
    | .string text => parseI64 (trim text)
    | _ => none
  number >>= resumeNumber

/-- The number behind the last colon. -/
def parseExternalChannelStreamSequenceText (value : String) : Option Int :=
  parseI64 (trim ((splitAt ':' (trim value)).getLast?.getD "")) >>= resumeNumber

/-- `HeaderValue::to_str` -/
def headerText (value : String) : Option String :=
  if value.toList.all fun char => 32 ≤ char.toNat && char.toNat < 127 || char == '\t' then some value else none

/-- Where the client asks to resume: its last event id, its query or its payload. -/
structure ResumeRequest where
  lastEventId : Option String
  query : String → Option String
  payload : Value

def parseExternalChannelStreamResumeSequence (request : ResumeRequest) : Option Int :=
  ((request.lastEventId >>= headerText >>= parseExternalChannelStreamSequenceText).or
    ((request.query "since_sequence").or (request.query "sinceSequence") >>=
      parseExternalChannelStreamSequenceText)).or
    ((request.payload.get "stream_since_sequence").or (request.payload.get "streamSinceSequence") >>=
      parseExternalChannelStreamSequenceValue)

structure AssistantRunEvent where
  eventName : String
  sequenceNo : Int
  payload : Map

def AssistantRunEvent.isPublic (event : AssistantRunEvent) : Bool :=
  (event.payload.get? "schema" >>= Value.asStr) = some externalChannelSseSchemaV1

section Replay

-- `floatText` writes a double by its bits.
variable (floatText : UInt64 → String) (support : CardSupport)

def sseJsonEvent (eventName : String) (data : Value) : String :=
  "event: " ++ eventName ++ "\ndata: " ++ data.text floatText ++ "\n\n"

/-- What the stream sends of an event. -/
def encodeEvent (event : AssistantRunEvent) : String :=
  sseJsonEvent floatText event.eventName (.ofMap (externalChannelPublicStreamPayload support event.payload))

def externalChannelPublicStreamReplayBody (events : List AssistantRunEvent) (sinceSequence : Option Int) : String :=
  let since := sinceSequence.getD 0
  let later := events.filter fun event => decide (since < event.sequenceNo)
  String.join ((later.filter AssistantRunEvent.isPublic).map (encodeEvent floatText support))

end Replay

/-- A public event as the builders store it: its payload counts the phase of a status. -/
structure StoredEvent where
  eventName : String
  sequenceNo : Int
  status : String
  sse : SseEvent
  phase : sse.sequence = externalChannelStaticPageSseSequence status

namespace StoredEvent

def row (event : StoredEvent) : AssistantRunEvent :=
  ⟨event.eventName, event.sequenceNo, externalChannelSsePublicPayload event.sse⟩

/-- The number of the phase, which the event id ends with. -/
def phaseNumber (event : StoredEvent) : Int := (externalChannelStaticPageSseSequence event.status).toInt

/-- The event id that a client has received. -/
def receivedEventId (support : CardSupport) (event : StoredEvent) : Option String :=
  (externalChannelPublicStreamPayload support event.row.payload).get? "event_id" >>= Value.asStr

end StoredEvent

section Parsing

theorem phase_cases (status : String) : externalChannelStaticPageSseSequence status ∈
    ([0, 5, 55, 10, 20, 30, 40, 41, 42, 80, 81, 90, 70, 95, 100, 50] : List Int64) := by
  unfold externalChannelStaticPageSseSequence
  split <;> simp

/-- The digits of a phase are read back. -/
theorem parse_paddedSequence (status : String) :
    let digits := paddedSequence (externalChannelStaticPageSseSequence status)
    ':' ∉ digits.toList ∧ trim digits = digits ∧ digits.toList.all Char.isDigit ∧
      parseI64 digits >>= resumeNumber = some (externalChannelStaticPageSseSequence status).toInt := by
  have all : ([0, 5, 55, 10, 20, 30, 40, 41, 42, 80, 81, 90, 70, 95, 100, 50] : List Int64).all fun phase =>
      decide (':' ∉ (paddedSequence phase).toList ∧ trim (paddedSequence phase) = paddedSequence phase ∧
        (paddedSequence phase).toList.all Char.isDigit ∧
        parseI64 (paddedSequence phase) >>= resumeNumber = some phase.toInt) := by decide
  exact of_decide_eq_true (List.all_eq_true.mp all _ (phase_cases status))

/-- The text of a run: digits and hyphens, or that it is pending. -/
theorem runText_visible (runId : Option UuidBytes) :
    ∀ char ∈ ((runId.map UuidBytes.text).getD "pending").toList, isWhitespace char = false ∧
      32 ≤ char.toNat ∧ char.toNat < 127 := by
  have digits : ∀ digit : Fin 16, isWhitespace (Nat.digitChar digit) = false ∧ 32 ≤ (Nat.digitChar digit).toNat ∧
      (Nat.digitChar digit).toNat < 127 := by decide
  cases runId with
  | none =>
    have pending : "pending".toList.all fun char =>
        decide (isWhitespace char = false ∧ 32 ≤ char.toNat ∧ char.toNat < 127) := by decide
    exact fun char inside => of_decide_eq_true (List.all_eq_true.mp pending char inside)
  | some runId =>
    intro char inside
    rcases UuidBytes.mem_text inside with rfl | ⟨digit, rfl⟩
    · decide
    · exact digits digit

theorem digit_visible {char : Char} (digit : char.isDigit) : isWhitespace char = false ∧ 32 ≤ char.toNat ∧
    char.toNat < 127 := by
  have alphanumeric : char.isAlphanum := by
    delta Char.isAlphanum
    rw [digit, Bool.or_true]
  have code := alphanum_code alphanumeric
  refine ⟨?_, by omega, by omega⟩
  simp only [isWhitespace, Bool.or_eq_false_iff, Bool.and_eq_false_iff, decide_eq_false_iff_not, beq_eq_false_iff_ne]
  omega

theorem eventId_visible (runId : Option UuidBytes) (status : String) :
    ∀ char ∈ (eventId runId (externalChannelStaticPageSseSequence status)).toList, isWhitespace char = false ∧
      32 ≤ char.toNat ∧ char.toNat < 127 := by
  obtain ⟨_, _, digits, _⟩ := parse_paddedSequence status
  intro char inside
  rw [eventId, String.toList_append, String.toList_append, List.mem_append, List.mem_append] at inside
  rcases inside with (run | colon) | digit
  · exact runText_visible runId char run
  · have same : char = ':' := by simpa using colon
    subst same
    decide
  · exact digit_visible (List.all_eq_true.mp digits char digit)

theorem parse_eventId (runId : Option UuidBytes) (status : String) :
    headerText (eventId runId (externalChannelStaticPageSseSequence status)) >>=
      parseExternalChannelStreamSequenceText = some (externalChannelStaticPageSseSequence status).toInt := by
  obtain ⟨noColon, trimmed, _, read⟩ := parse_paddedSequence status
  have visible := eventId_visible runId status
  have header : headerText (eventId runId (externalChannelStaticPageSseSequence status)) =
      some (eventId runId (externalChannelStaticPageSseSequence status)) := by
    apply if_pos
    rw [List.all_eq_true]
    intro char inside
    simp [visible char inside]
  have whole := trim_eq_self fun char inside => (visible char inside).1
  have last : (splitAt ':' (eventId runId (externalChannelStaticPageSseSequence status))).getLast?.getD "" =
      paddedSequence (externalChannelStaticPageSseSequence status) := by
    have parts (run digits : List Char) (free : ':' ∉ digits) :
        (run ++ ':' :: digits).splitOn ':' = run.splitOn ':' ++ [digits] := by
      rw [List.splitOn_append_cons_self, List.splitOn_eq_singleton free]
    have shape : (eventId runId (externalChannelStaticPageSseSequence status)).toList =
        ((runId.map UuidBytes.text).getD "pending").toList ++
          ':' :: (paddedSequence (externalChannelStaticPageSseSequence status)).toList := by
      simp [eventId]
    rw [splitAt, shape, parts _ _ noColon]
    simp
  rw [header, Option.bind_eq_bind, Option.bind_some, parseExternalChannelStreamSequenceText, whole, last, trimmed, read]

end Parsing

section Resuming

variable {floatText : UInt64 → String} {support : CardSupport} {received remaining : List StoredEvent}
  {last : StoredEvent} {request : ResumeRequest}

theorem receivedEventId_eq (event : StoredEvent) : event.receivedEventId support =
    some (eventId event.sse.runId (externalChannelStaticPageSseSequence event.status)) := by
  have listed : (streamObject event.sse).get? "event_id" = some (.string (eventId event.sse.runId event.sse.sequence)) :=
    streamObject_get? (by simp [envelopeFields])
  rw [StoredEvent.receivedEventId, StoredEvent.row, streamPayload_eq, compactObject, get?_eraseAll, if_neg (by decide),
    SortedMap.get?_insert_other _ _ (by decide), linkedObject, get?_setOrRemove_other (by decide),
    get?_setOrRemove_other (by decide), get?_setOrRemove_other (by decide), get?_insertSome_other (by decide),
    get?_insertSome_other (by decide), SortedMap.get?_insert_other _ _ (by decide), listed, ← event.phase]
  rfl

/-- The header decides, whatever the query and the payload ask for. -/
theorem resumeSequence_eq (asked : request.lastEventId = last.receivedEventId support) :
    parseExternalChannelStreamResumeSequence request = some last.phaseNumber := by
  have parsed := parse_eventId last.sse.runId last.status
  rw [parseExternalChannelStreamResumeSequence, asked, receivedEventId_eq]
  simp only [Option.bind_eq_bind, Option.bind_some] at parsed ⊢
  rw [parsed]
  rfl

theorem row_isPublic (event : StoredEvent) : event.row.isPublic = true := by
  have schema : event.row.payload.get? "schema" = some (.string externalChannelSseSchemaV1) :=
    payload_get? (by simp [envelopeFields])
  rw [AssistantRunEvent.isPublic, schema]
  exact decide_eq_true rfl

/-- The replay sends the later ones of the events. -/
theorem replayBody_eq (events : List StoredEvent) (since : Int) :
    externalChannelPublicStreamReplayBody floatText support (events.map StoredEvent.row) (some since) =
      String.join ((events.filter fun event => decide (since < event.sequenceNo)).map fun event =>
        encodeEvent floatText support event.row) := by
  have rows : (events.map StoredEvent.row).filter (fun event => decide (since < event.sequenceNo)) =
      (events.filter fun event => decide (since < event.sequenceNo)).map StoredEvent.row := by
    rw [List.filter_map]
    rfl
  have kept : ((events.filter fun event => decide (since < event.sequenceNo)).map StoredEvent.row).filter
      AssistantRunEvent.isPublic = (events.filter fun event => decide (since < event.sequenceNo)).map StoredEvent.row := by
    rw [List.filter_eq_self]
    intro row inside
    obtain ⟨event, _, rfl⟩ := List.mem_map.mp inside
    exact row_isPublic event
  simp only [externalChannelPublicStreamReplayBody, Option.getD_some, rows, kept, List.map_map]
  rfl

/-- A text that misses one of the parts is shorter. -/
theorem sublist_eq_of_join {Item : Type} {encode : Item → String} (nonempty : ∀ item, encode item ≠ "")
    {some all : List Item} (contained : some.Sublist all)
    (same : String.join (some.map encode) = String.join (all.map encode)) : some = all := by
  have measure := congrArg (fun text => text.toList.length) same
  simp only [String.toList_join, List.flatMap_map] at measure
  clear same
  induction contained with
  | slnil => rfl
  | @cons shorter longer item contained ih =>
    have fewer : (shorter.flatMap fun item => (encode item).toList).length ≤
        (longer.flatMap fun item => (encode item).toList).length := (contained.flatMap _).length_le
    have something : (encode item).toList.length ≠ 0 := by simp [nonempty item]
    rw [List.flatMap_cons, List.length_append] at measure
    omega
  | cons_cons item contained ih =>
    rw [List.flatMap_cons, List.flatMap_cons, List.length_append, List.length_append] at measure
    rw [ih (by omega)]

theorem encodeEvent_ne_empty (event : AssistantRunEvent) : encodeEvent floatText support event ≠ "" := by
  intro empty
  have text := congrArg String.toList empty
  simp [encodeEvent, sseJsonEvent] at text

/-- What the client has is not sent again once its last event is passed. -/
theorem filter_passed {number : Int}
    (increasing : (received ++ last :: remaining).Pairwise fun first second => first.sequenceNo < second.sequenceNo)
    (reached : last.sequenceNo ≤ number) :
    (received ++ last :: remaining).filter (fun event => decide (number < event.sequenceNo)) =
      remaining.filter fun event => decide (number < event.sequenceNo) := by
  obtain ⟨_, _, before⟩ := List.pairwise_append.mp increasing
  have passed : received.filter (fun event => decide (number < event.sequenceNo)) = [] := by
    rw [List.filter_eq_nil_iff]
    intro event earlier
    have order := before event earlier last List.mem_cons_self
    simp only [decide_eq_true_eq]
    omega
  rw [List.filter_append, passed, List.nil_append, List.filter_cons_of_neg (by simpa using reached)]

end Resuming

section Samples

/-- An event of the status with this stored number. -/
def statusEvent (status : String) (sequenceNo : Int) : StoredEvent where
  eventName := "assistant_run.static_page"
  sequenceNo
  status
  sse := { sampleEvent with sequence := externalChannelStaticPageSseSequence status }
  phase := rfl

def resumeAt (last : StoredEvent) : ResumeRequest := ⟨last.receivedEventId sampleSupport, fun _ => none, .null⟩

end Samples

end DataMax.ExternalChannel
